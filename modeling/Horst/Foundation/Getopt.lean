import Mathlib.Data.List.Basic

/-!
`getopt_long`, with operands that may stand anywhere between the options, as they may where
`POSIXLY_CORRECT` is not set, and the command lines that it reads without a complaint.
-/

set_option autoImplicit false
set_option relaxedAutoImplicit false

namespace Horst.Foundation.Getopt

abbrev Word := List Char

structure LongOption where
  name : Word
  hasArg : Bool
  val : Char
  deriving DecidableEq, Repr

/-- The letters, each with a colon after it if it takes an argument, and the long options. -/
structure Table where
  optstring : Word
  longOptions : List LongOption

structure Found where
  val : Char
  optarg : Option Word
  deriving DecidableEq, Repr

/-- What is left after a word: the calls return `?`, or -1, or go on with other words. -/
inductive Rest
  | complaint
  | ended
  | words (ws : List Word)

/-- Whether a letter takes an argument, if it is an option. -/
def takesArg (c : Char) : Word → Option Bool
  | [] => none
  | d :: ds => if d = c then some (ds.head? = some ':') else takesArg c ds

theorem mem_of_takesArg {c : Char} {optstring : Word} {takes : Bool}
    (known : takesArg c optstring = some takes) : c ∈ optstring := by
  induction optstring with
  | nil => cases known
  | cons d ds ih =>
    unfold takesArg at known
    split at known
    · rename_i same
      rw [same]
      exact List.mem_cons_self
    · exact List.mem_cons_of_mem d (ih known)

namespace Table

variable (table : Table)

def short (c : Char) : Option Bool :=
  if c = ':' ∨ c = ';' then none else takesArg c table.optstring

/-- The long option of that name, or the one that the name abbreviates. -/
def long (name : Word) : Option LongOption :=
  match table.longOptions.find? fun o => o.name = name with
  | some o => some o
  | none =>
      match table.longOptions.filter fun o => name.isPrefixOf o.name with
      | [] => none
      | o :: others =>
          if others.all fun p => p.hasArg = o.hasArg ∧ p.val = o.val then some o else none

def letters : Word → List Word → List Found × Rest
  | [], ws => ([], .words ws)
  | c :: cs, ws =>
      match table.short c with
      | none => ([], .complaint)
      | some false => (⟨c, none⟩ :: (letters cs ws).1, (letters cs ws).2)
      | some true =>
          if cs = [] then
            match ws with
            | [] => ([], .complaint)
            | optarg :: ws => ([⟨c, some optarg⟩], .words ws)
          else
            ([⟨c, some cs⟩], .words ws)

def named (text : Word) (ws : List Word) : List Found × Rest :=
  match table.long (text.takeWhile (· ≠ '=')) with
  | none => ([], .complaint)
  | some o =>
      match text.dropWhile (· ≠ '='), o.hasArg with
      | [], false => ([⟨o.val, none⟩], .words ws)
      | _ :: optarg, true => ([⟨o.val, some optarg⟩], .words ws)
      | _ :: _, false => ([], .complaint)
      | [], true =>
          match ws with
          | [] => ([], .complaint)
          | optarg :: ws => ([⟨o.val, some optarg⟩], .words ws)

def word (w : Word) (ws : List Word) : List Found × Rest :=
  match w with
  | ['-', '-'] => ([], .ended)
  | '-' :: '-' :: text => table.named text ws
  | '-' :: c :: cs => table.letters (c :: cs) ws
  | _ => ([], .words ws)

def scanUpTo : ℕ → List Word → List Found × Bool
  | 0, _ => ([], true)
  | _ + 1, [] => ([], true)
  | n + 1, w :: ws =>
      match table.word w ws with
      | (found, .complaint) => (found, false)
      | (found, .ended) => (found, true)
      | (found, .words ws) => (found ++ (scanUpTo n ws).1, (scanUpTo n ws).2)

/-- What the calls return, and whether they do so without a complaint. Nothing is read after a
complaint. -/
def scan (ws : List Word) : List Found × Bool := table.scanUpTo ws.length ws

/-- A word of letters: flags, and at most one option with an argument at their end. -/
inductive Letters : Word → List Word → List Found → List Word → Prop
  | nil {ws : List Word} : Letters [] ws [] ws
  | flag {c : Char} {cs : Word} {ws ws' : List Word} {found : List Found} :
      table.short c = some false → Letters cs ws found ws' →
      Letters (c :: cs) ws (⟨c, none⟩ :: found) ws'
  | attached {c : Char} {optarg : Word} {ws : List Word} :
      table.short c = some true → optarg ≠ [] → Letters (c :: optarg) ws [⟨c, some optarg⟩] ws
  | apart {c : Char} {optarg : Word} {ws : List Word} :
      table.short c = some true → Letters [c] (optarg :: ws) [⟨c, some optarg⟩] ws

inductive Named : Word → List Word → Found → List Word → Prop
  | flag {name : Word} {o : LongOption} {ws : List Word} :
      table.long name = some o → o.hasArg = false → '=' ∉ name →
      Named name ws ⟨o.val, none⟩ ws
  | assigned {name optarg : Word} {o : LongOption} {ws : List Word} :
      table.long name = some o → o.hasArg = true → '=' ∉ name →
      Named (name ++ '=' :: optarg) ws ⟨o.val, some optarg⟩ ws
  | apart {name optarg : Word} {o : LongOption} {ws : List Word} :
      table.long name = some o → o.hasArg = true → '=' ∉ name →
      Named name (optarg :: ws) ⟨o.val, some optarg⟩ ws

def Operand (w : Word) : Prop := w.head? ≠ some '-' ∨ w = ['-']

/-- A word without a mistake, the options that it brings, and the words after them. -/
inductive Piece : Word → List Word → List Found → List Word → Prop
  | operand {w : Word} {ws : List Word} : Operand w → Piece w ws [] ws
  | long {text : Word} {ws ws' : List Word} {o : Found} :
      text ≠ [] → table.Named text ws o ws' → Piece ('-' :: '-' :: text) ws [o] ws'
  | short {c : Char} {cs : Word} {ws ws' : List Word} {found : List Found} :
      c ≠ '-' → table.Letters (c :: cs) ws found ws' → Piece ('-' :: c :: cs) ws found ws'

/-- Command lines without a mistake, and the options in them. -/
inductive Written : List Word → List Found → Prop
  | nil : Written [] []
  | ended {ws : List Word} : Written (['-', '-'] :: ws) []
  | piece {w : Word} {ws ws' : List Word} {found found' : List Found} :
      table.Piece w ws found ws' → Written ws' found' → Written (w :: ws) (found ++ found')

variable {table} {w text cs : Word} {ws ws' : List Word} {found : List Found} {n : ℕ}

theorem letters_iff :
    table.letters cs ws = (found, .words ws') ↔ table.Letters cs ws found ws' := by
  constructor
  · intro h
    induction cs generalizing found with
    | nil =>
      obtain ⟨rfl, same⟩ := Prod.mk.inj h
      obtain rfl := Rest.words.inj same
      exact .nil
    | cons c cs ih =>
      unfold letters at h
      split at h
      · cases (Prod.mk.inj h).2
      · rename_i flag
        obtain ⟨rfl, rest⟩ := Prod.mk.inj h
        exact .flag flag (ih (Prod.ext rfl rest))
      · rename_i takes
        split at h
        · rename_i last
          split at h
          · cases (Prod.mk.inj h).2
          · obtain ⟨rfl, same⟩ := Prod.mk.inj h
            obtain rfl := Rest.words.inj same
            rw [last]
            exact .apart takes
        · rename_i more
          obtain ⟨rfl, same⟩ := Prod.mk.inj h
          obtain rfl := Rest.words.inj same
          exact .attached takes more
  · intro written
    induction written with
    | nil => rfl
    | flag flag _ ih =>
      unfold letters
      rw [flag]
      simp only [ih]
    | attached takes more =>
      unfold letters
      rw [takes]
      exact if_neg more
    | apart takes =>
      unfold letters
      rw [takes]
      rfl

theorem cut_of_fresh {name : Word} (fresh : '=' ∉ name) (optarg : Word) :
    (name ++ '=' :: optarg).takeWhile (· ≠ '=') = name ∧
      (name ++ '=' :: optarg).dropWhile (· ≠ '=') = '=' :: optarg := by
  induction name with
  | nil => exact ⟨rfl, rfl⟩
  | cons c name ih =>
    obtain ⟨other, fresh⟩ := not_or.mp (mt List.mem_cons.mpr fresh)
    obtain ⟨taken, dropped⟩ := ih fresh
    have differs : decide (c ≠ '=') = true := decide_eq_true (Ne.symm other)
    rw [List.cons_append, List.takeWhile_cons, List.dropWhile_cons, differs]
    exact ⟨congrArg (c :: ·) taken, dropped⟩

theorem uncut_of_fresh {name : Word} (fresh : '=' ∉ name) :
    name.takeWhile (· ≠ '=') = name ∧ name.dropWhile (· ≠ '=') = [] := by
  induction name with
  | nil => exact ⟨rfl, rfl⟩
  | cons c name ih =>
    obtain ⟨other, fresh⟩ := not_or.mp (mt List.mem_cons.mpr fresh)
    obtain ⟨taken, dropped⟩ := ih fresh
    have differs : decide (c ≠ '=') = true := decide_eq_true (Ne.symm other)
    rw [List.takeWhile_cons, List.dropWhile_cons, differs]
    exact ⟨congrArg (c :: ·) taken, dropped⟩

theorem fresh_takeWhile (text : Word) : '=' ∉ text.takeWhile (· ≠ '=') := by
  induction text with
  | nil => exact List.not_mem_nil
  | cons c text ih =>
    rw [List.takeWhile_cons]
    split
    · rename_i other
      intro mem
      rcases List.mem_cons.mp mem with same | later
      · exact of_decide_eq_true other same.symm
      · exact ih later
    · exact List.not_mem_nil

theorem named_iff :
    table.named text ws = (found, .words ws') ↔ ∃ o, found = [o] ∧ table.Named text ws o ws' := by
  constructor
  · intro h
    have fresh := fresh_takeWhile text
    have whole : text = text.takeWhile (· ≠ '=') ++ text.dropWhile (· ≠ '=') :=
      List.takeWhile_append_dropWhile.symm
    rw [named] at h
    split at h
    · cases (Prod.mk.inj h).2
    · rename_i o known
      split at h
      · rename_i none flag
        obtain ⟨rfl, same⟩ := Prod.mk.inj h
        obtain rfl := Rest.words.inj same
        refine ⟨_, rfl, ?_⟩
        rw [none, List.append_nil] at whole
        rw [whole]
        exact .flag known flag fresh
      · rename_i e optarg given takes
        obtain ⟨rfl, same⟩ := Prod.mk.inj h
        obtain rfl := Rest.words.inj same
        refine ⟨_, rfl, ?_⟩
        have sign : e = '=' := by
          have first := List.head?_dropWhile_not (· ≠ '=') text
          rw [given] at first
          simpa using first
        rw [given, sign] at whole
        rw [whole]
        exact .assigned known takes fresh
      · cases (Prod.mk.inj h).2
      · rename_i none takes
        split at h
        · cases (Prod.mk.inj h).2
        · obtain ⟨rfl, same⟩ := Prod.mk.inj h
          obtain rfl := Rest.words.inj same
          refine ⟨_, rfl, ?_⟩
          rw [none, List.append_nil] at whole
          rw [whole]
          exact .apart known takes fresh
  · rintro ⟨o, rfl, written⟩
    cases written with
    | flag known flag fresh =>
      obtain ⟨taken, dropped⟩ := uncut_of_fresh fresh
      simp only [named, taken, dropped, known, flag]
    | @assigned _ optarg _ _ known takes fresh =>
      obtain ⟨taken, dropped⟩ := cut_of_fresh fresh optarg
      simp only [named, taken, dropped, known, takes]
    | apart known takes fresh =>
      obtain ⟨taken, dropped⟩ := uncut_of_fresh fresh
      simp only [named, taken, dropped, known, takes]

theorem word_of_operand (operand : Operand w) : table.word w ws = ([], .words ws) := by
  rcases operand with other | rfl
  · cases w with
    | nil => rfl
    | cons c cs =>
      have differs : c ≠ '-' := fun same => other (congrArg some same)
      unfold word
      split
      · rename_i same
        exact absurd (List.cons.inj same).1 differs
      · rename_i same
        exact absurd (List.cons.inj same).1 differs
      · rename_i same
        exact absurd (List.cons.inj same).1 differs
      · rfl
  · rfl

theorem word_of_short {c : Char} (other : c ≠ '-') :
    table.word ('-' :: c :: cs) ws = table.letters (c :: cs) ws := by
  unfold word
  split
  · rename_i same
    cases same
    exact absurd rfl other
  · rename_i same
    cases same
    exact absurd rfl other
  · rename_i same
    cases same
    rfl
  · rename_i none
    exact absurd rfl (none c cs)

/-- A word without a mistake, but for the one after which no options follow. -/
theorem word_iff : table.word w ws = (found, .words ws') ↔ table.Piece w ws found ws' := by
  constructor
  · intro h
    unfold word at h
    split at h
    · cases (Prod.mk.inj h).2
    · rename_i text more
      obtain ⟨o, rfl, written⟩ := named_iff.mp h
      refine .long ?_ written
      rintro rfl
      exact more rfl
    · rename_i c cs _ other
      refine .short ?_ (letters_iff.mp h)
      rintro rfl
      exact other rfl
    · rename_i other
      obtain ⟨rfl, same⟩ := Prod.mk.inj h
      obtain rfl := Rest.words.inj same
      apply Piece.operand
      cases w with
      | nil => exact Or.inl (Option.some_ne_none _).symm
      | cons c cs =>
        by_cases sign : c = '-'
        · obtain rfl := sign
          cases cs with
          | nil => exact Or.inr rfl
          | cons d ds => exact absurd rfl (other d ds)
        · left
          intro same
          exact sign (Option.some.inj same)
  · intro piece
    cases piece with
    | operand operand => exact word_of_operand operand
    | @long text _ _ _ more written =>
      cases text with
      | nil => exact absurd rfl more
      | cons c text => exact named_iff.mpr ⟨_, rfl, written⟩
    | short other written => rw [word_of_short other, letters_iff.mpr written]

theorem letters_goes_on : (table.letters cs ws).2 ≠ .ended := by
  induction cs with
  | nil => exact Rest.noConfusion
  | cons c cs ih =>
    unfold letters
    split
    · exact Rest.noConfusion
    · exact ih
    · split
      · split <;> exact Rest.noConfusion
      · exact Rest.noConfusion

theorem named_goes_on : (table.named text ws).2 ≠ .ended := by
  unfold named
  split
  · exact Rest.noConfusion
  · split
    · exact Rest.noConfusion
    · exact Rest.noConfusion
    · exact Rest.noConfusion
    · split <;> exact Rest.noConfusion

theorem ended_of_word (h : table.word w ws = (found, .ended)) : w = ['-', '-'] ∧ found = [] := by
  unfold word at h
  split at h
  · exact ⟨rfl, (Prod.mk.inj h).1.symm⟩
  · exact absurd (congrArg Prod.snd h) named_goes_on
  · exact absurd (congrArg Prod.snd h) letters_goes_on
  · cases (Prod.mk.inj h).2

theorem Letters.suffix (written : table.Letters cs ws found ws') : ws' <:+ ws := by
  induction written with
  | nil | attached => exact List.suffix_rfl
  | flag _ _ ih => exact ih
  | apart => exact List.suffix_cons _ _

theorem Piece.suffix (piece : table.Piece w ws found ws') : ws' <:+ ws := by
  cases piece with
  | operand => exact List.suffix_rfl
  | long _ written =>
    cases written with
    | flag | assigned => exact List.suffix_rfl
    | apart => exact List.suffix_cons _ _
  | short _ written => exact written.suffix

theorem Letters.short_of_mem {o : Found} (written : table.Letters cs ws found ws')
    (mem : o ∈ found) : ∃ takes, table.short o.val = some takes := by
  induction written with
  | nil => cases mem
  | flag flag _ ih =>
    rcases List.mem_cons.mp mem with rfl | later
    · exact ⟨false, flag⟩
    · exact ih later
  | attached takes | apart takes =>
    obtain rfl := List.mem_singleton.mp mem
    exact ⟨true, takes⟩

theorem scanUpTo_iff (enough : ws.length ≤ n) :
    table.scanUpTo n ws = (found, true) ↔ table.Written ws found := by
  induction n generalizing ws found with
  | zero =>
    obtain rfl := List.eq_nil_of_length_eq_zero (Nat.le_zero.mp enough)
    constructor
    · intro h
      obtain ⟨rfl, _⟩ := Prod.mk.inj h
      exact .nil
    · intro written
      cases written
      rfl
  | succ n ih =>
    cases ws with
    | nil =>
      constructor
      · intro h
        obtain ⟨rfl, _⟩ := Prod.mk.inj h
        exact .nil
      · intro written
        cases written
        rfl
    | cons w ws =>
      have fewer : ws.length ≤ n := Nat.le_of_succ_le_succ enough
      constructor
      · intro h
        rw [scanUpTo] at h
        split at h
        · cases (Prod.mk.inj h).2
        · rename_i last
          obtain ⟨rfl, _⟩ := Prod.mk.inj h
          obtain ⟨rfl, rfl⟩ := ended_of_word last
          exact .ended
        · rename_i ws' read
          have piece := word_iff.mp read
          obtain ⟨rfl, fine⟩ := Prod.mk.inj h
          have shorter := Nat.le_trans piece.suffix.length_le fewer
          exact .piece piece ((ih shorter).mp (Prod.ext rfl fine))
      · intro written
        cases written with
        | ended => rfl
        | piece piece rest =>
          have read := word_iff.mpr piece
          have later := (ih (Nat.le_trans piece.suffix.length_le fewer)).mpr rest
          rw [scanUpTo, read]
          simp only [later]

/-- The calls return without a complaint exactly where the command line has no mistake, and
return the options that are written there. -/
theorem scan_iff : table.scan ws = (found, true) ↔ table.Written ws found :=
  scanUpTo_iff (Nat.le_refl _)

theorem mem_of_short {c : Char} {takes : Bool} (known : table.short c = some takes) :
    c ∈ table.optstring := by
  unfold short at known
  split at known
  · cases known
  · exact mem_of_takesArg known

theorem mem_of_long {name : Word} {o : LongOption} (known : table.long name = some o) :
    o ∈ table.longOptions ∧ name <+: o.name := by
  unfold long at known
  split at known
  · rename_i o' exactly
    obtain rfl := Option.some.inj known
    have found := List.find?_some exactly
    have same : o'.name = name := of_decide_eq_true found
    rw [same]
    exact ⟨List.mem_of_find?_eq_some exactly, List.prefix_rfl⟩
  · split at known
    · cases known
    · rename_i o' others listed
      split at known
      · obtain rfl := Option.some.inj known
        have mem : o' ∈ table.longOptions.filter fun o => name.isPrefixOf o.name := by
          rw [listed]
          exact List.mem_cons_self
        obtain ⟨mem, begins⟩ := List.mem_filter.mp mem
        exact ⟨mem, List.isPrefixOf_iff_prefix.mp begins⟩
      · cases known

/-- An option of the table, with an argument exactly where it takes one. -/
def Knows (table : Table) (o : Found) : Prop :=
  table.short o.val = some o.optarg.isSome ∨
    ∃ l ∈ table.longOptions, l.val = o.val ∧ l.hasArg = o.optarg.isSome

variable {o : Found}

theorem knows_of_letters (mem : o ∈ (table.letters cs ws).1) : table.Knows o := by
  induction cs with
  | nil => cases mem
  | cons c cs ih =>
    unfold letters at mem
    split at mem
    · cases mem
    · rename_i flag
      rcases List.mem_cons.mp mem with rfl | later
      · exact Or.inl flag
      · exact ih later
    · rename_i takes
      split at mem
      · split at mem
        · cases mem
        · obtain rfl := List.mem_singleton.mp mem
          exact Or.inl takes
      · obtain rfl := List.mem_singleton.mp mem
        exact Or.inl takes

theorem knows_of_named (mem : o ∈ (table.named text ws).1) : table.Knows o := by
  unfold named at mem
  split at mem
  · cases mem
  · rename_i l known
    have listed := (mem_of_long known).1
    split at mem
    · rename_i flag
      obtain rfl := List.mem_singleton.mp mem
      exact Or.inr ⟨l, listed, rfl, flag⟩
    · rename_i takes
      obtain rfl := List.mem_singleton.mp mem
      exact Or.inr ⟨l, listed, rfl, takes⟩
    · cases mem
    · rename_i takes
      split at mem
      · cases mem
      · obtain rfl := List.mem_singleton.mp mem
        exact Or.inr ⟨l, listed, rfl, takes⟩

theorem knows_of_word (mem : o ∈ (table.word w ws).1) : table.Knows o := by
  unfold word at mem
  split at mem
  · cases mem
  · exact knows_of_named mem
  · exact knows_of_letters mem
  · cases mem

theorem knows_of_scanUpTo (mem : o ∈ (table.scanUpTo n ws).1) : table.Knows o := by
  induction n generalizing ws with
  | zero => cases mem
  | succ n ih =>
    cases ws with
    | nil => cases mem
    | cons w ws =>
      have brought {found : List Found} {rest : Rest} (read : table.word w ws = (found, rest))
          (mem : o ∈ found) : table.Knows o := by
        have here : o ∈ (table.word w ws).1 := by rwa [read]
        exact knows_of_word here
      rw [scanUpTo] at mem
      split at mem
      · rename_i read
        exact brought read mem
      · rename_i read
        exact brought read mem
      · rename_i read
        rcases List.mem_append.mp mem with here | later
        · exact brought read here
        · exact ih later

theorem knows_of_scan (mem : o ∈ (table.scan ws).1) : table.Knows o := knows_of_scanUpTo mem

end Table

end Horst.Foundation.Getopt
