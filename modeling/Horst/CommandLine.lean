import Horst.Dbus.States
import Horst.Foundation.Getopt
import Horst.Satellite.Endings
import Mathlib.Data.List.Forall2
import Mathlib.Data.List.Infix
import Mathlib.Data.List.TakeWhile

/-!
The command line of the program, and what it is started with.
-/

set_option autoImplicit false
set_option relaxedAutoImplicit false

namespace Horst

open Foundation Foundation.Getopt

/-- `arguments`, with the S3TP settings. -/
structure CommandLine extends Arguments where
  port : Int32 := 99
  socketpath : Text := "/run/s3tp.socket".toList
  deriving DecidableEq

def isspace (c : Char) : Bool := c = ' ' ∨ 9 ≤ c.toNat ∧ c.toNat ≤ 13

/-- `std::stoi`, which throws where there are no digits, or too many. -/
def stoi (str : Text) : Option Int32 :=
  let text := str.dropWhile isspace
  let signed := text.head? = some '-' ∨ text.head? = some '+'
  let digits := (if signed then text.drop 1 else text).takeWhile Char.isDigit
  let magnitude : Int := Nat.ofDigitChars 10 digits 0
  let value := if text.head? = some '-' then -magnitude else magnitude
  if digits ≠ [] ∧ -2 ^ 31 ≤ value ∧ value < 2 ^ 31 then some (Int32.ofInt value) else none

def options : Table where
  optstring := "b:hmp:s:".toList
  longOptions := [⟨"battery".toList, true, 'b'⟩, ⟨"help".toList, false, 'h'⟩,
    ⟨"manual".toList, false, 'm'⟩, ⟨"port".toList, true, 'p'⟩, ⟨"scripts".toList, true, 's'⟩,
    ⟨"socket".toList, true, 'S'⟩]

/-- The switch of `parse_args`, or the exit status of the program. What `std::stoi` throws is
caught in `run`. -/
def CommandLine.take (args : CommandLine) (o : Found) : Except ℕ CommandLine :=
  match o.val, o.optarg with
  | 'b', some optarg =>
      match stoi optarg with
      | some n => .ok { args with batteryTreshold := UInt16.ofInt n.toInt }
      | none => .error 2
  | 'h', _ => .error 0
  | 'm', _ => .ok { args with startmanual := true }
  | 'p', some optarg =>
      match stoi optarg with
      | some n => .ok { args with port := n }
      | none => .error 2
  | 's', some optarg => .ok { args with scripts := optarg }
  | 'S', some optarg => .ok { args with socketpath := optarg }
  | _, _ => .error 1

/-- `parse_args`, for the words after the name of the program. A complaint of `getopt_long` ends
the program as well. -/
def parseArgs (argv : List Text) : Except ℕ CommandLine :=
  match (options.scan argv).1.foldlM CommandLine.take {} with
  | .error status => .error status
  | .ok args => if (options.scan argv).2 = true then .ok args else .error 1

/-- `main`, up to the event loop: its satellite, or the exit status. It needs a connection to the
bus. -/
def main (argv : List Text) (check startup : Ending) (enforced connects : Bool) :
    Except ℕ Satellite :=
  match parseArgs argv with
  | .error status => .error status
  | .ok args => if connects then .ok (run args.toArguments enforced check startup).1 else .error 1

namespace CommandLine

inductive Setting
  | battery (n : Int32)
  | manual
  | port (n : Int32)
  | scripts (path : Text)
  | socket (path : Text)

inductive Means : Setting → Found → Prop
  | battery {optarg : Text} {n : Int32} :
      stoi optarg = some n → Means (.battery n) ⟨'b', some optarg⟩
  | manual {optarg : Option Text} : Means .manual ⟨'m', optarg⟩
  | port {optarg : Text} {n : Int32} : stoi optarg = some n → Means (.port n) ⟨'p', some optarg⟩
  | scripts {path : Text} : Means (.scripts path) ⟨'s', some path⟩
  | socket {path : Text} : Means (.socket path) ⟨'S', some path⟩

def Setting.battery? : Setting → Option UInt16
  | .battery n => some (UInt16.ofInt n.toInt)
  | _ => none

def Setting.manual? : Setting → Option Bool
  | .manual => some true
  | _ => none

def Setting.port? : Setting → Option Int32
  | .port n => some n
  | _ => none

def Setting.scripts? : Setting → Option Text
  | .scripts path => some path
  | _ => none

def Setting.socket? : Setting → Option Text
  | .socket path => some path
  | _ => none

/-- Of each kind, the last setting counts. -/
def configure (args : CommandLine) (settings : List Setting) : CommandLine :=
  { args with
    batteryTreshold := (settings.filterMap Setting.battery?).getLastD args.batteryTreshold
    startmanual := (settings.filterMap Setting.manual?).getLastD args.startmanual
    port := (settings.filterMap Setting.port?).getLastD args.port
    scripts := (settings.filterMap Setting.scripts?).getLastD args.scripts
    socketpath := (settings.filterMap Setting.socket?).getLastD args.socketpath }

variable {args args' : CommandLine} {o : Found} {found : List Found} {settings : List Setting}

private theorem take_iff
    : args.take o = .ok args' ↔ ∃ s, Means s o ∧ args' = args.configure [s] := by
  constructor
  · intro h
    obtain ⟨val, optarg⟩ := o
    unfold CommandLine.take at h
    split at h
    · rename_i text letter given
      obtain ⟨rfl, rfl⟩ : val = 'b' ∧ optarg = some text := ⟨letter, given⟩
      split at h
      · rename_i n number
        obtain rfl := Except.ok.inj h
        exact ⟨_, .battery number, rfl⟩
      · cases h
    · cases h
    · rename_i letter
      obtain rfl : val = 'm' := letter
      obtain rfl := Except.ok.inj h
      exact ⟨_, .manual, rfl⟩
    · rename_i text letter given
      obtain ⟨rfl, rfl⟩ : val = 'p' ∧ optarg = some text := ⟨letter, given⟩
      split at h
      · rename_i n number
        obtain rfl := Except.ok.inj h
        exact ⟨_, .port number, rfl⟩
      · cases h
    · rename_i text letter given
      obtain ⟨rfl, rfl⟩ : val = 's' ∧ optarg = some text := ⟨letter, given⟩
      obtain rfl := Except.ok.inj h
      exact ⟨_, .scripts, rfl⟩
    · rename_i text letter given
      obtain ⟨rfl, rfl⟩ : val = 'S' ∧ optarg = some text := ⟨letter, given⟩
      obtain rfl := Except.ok.inj h
      exact ⟨_, .socket, rfl⟩
    · cases h
  · rintro ⟨s, means, rfl⟩
    cases means with
    | battery number =>
      unfold CommandLine.take
      simp only [number]
      rfl
    | port number =>
      unfold CommandLine.take
      simp only [number]
      rfl
    | manual | scripts | socket => rfl

private theorem last_cons {α : Type} (read : Setting → Option α) (initial : α) (s : Setting)
    (settings : List Setting) :
    ((s :: settings).filterMap read).getLastD initial =
      (settings.filterMap read).getLastD (([s].filterMap read).getLastD initial) := by
  cases told : read s with
  | none => simp [told]
  | some a =>
    rw [List.filterMap_cons_some told, List.filterMap_cons_some told]
    cases settings.filterMap read <;> rfl

private theorem configure_cons (s : Setting) (settings : List Setting) :
    args.configure (s :: settings) = (args.configure [s]).configure settings := by
  unfold CommandLine.configure
  rw [last_cons Setting.battery? _ s settings, last_cons Setting.manual? _ s settings,
    last_cons Setting.port? _ s settings, last_cons Setting.scripts? _ s settings,
    last_cons Setting.socket? _ s settings]

private theorem foldlM_take_iff :
    found.foldlM CommandLine.take args = .ok args' ↔
      ∃ settings, List.Forall₂ Means settings found ∧ args' = args.configure settings := by
  induction found generalizing args with
  | nil =>
    constructor
    · intro h
      obtain rfl := Except.ok.inj h
      exact ⟨[], .nil, rfl⟩
    · rintro ⟨settings, means, rfl⟩
      cases means
      rfl
  | cons o found ih =>
    constructor
    · intro h
      rw [List.foldlM_cons] at h
      cases first : args.take o with
      | error status =>
        rw [first] at h
        cases h
      | ok args₁ =>
        rw [first] at h
        obtain ⟨s, means, rfl⟩ := take_iff.mp first
        obtain ⟨settings, others, rfl⟩ := ih.mp h
        exact ⟨s :: settings, .cons means others, (configure_cons s settings).symm⟩
    · rintro ⟨_, means, rfl⟩
      cases means with
      | @cons s _ settings _ means others =>
        have first : args.take _ = .ok (args.configure [s]) := take_iff.mpr ⟨s, means, rfl⟩
        rw [List.foldlM_cons, first]
        exact ih.mpr ⟨settings, others, configure_cons s settings⟩

private theorem parseArgs_of_written {argv : List Text} (written : options.Written argv found)
    (means : List.Forall₂ Means settings found) :
    parseArgs argv = .ok (CommandLine.configure {} settings) := by
  have scanned := Table.scan_iff.mpr written
  rw [parseArgs, scanned, foldlM_take_iff.mpr ⟨settings, means, rfl⟩]
  rfl

private theorem written_of_parseArgs {argv : List Text} (accepted : parseArgs argv = .ok args) :
    ∃ found settings, options.Written argv found ∧ List.Forall₂ Means settings found ∧
      args = CommandLine.configure {} settings := by
  rw [parseArgs] at accepted
  split at accepted
  · cases accepted
  · rename_i args₁ taken
    split at accepted
    · rename_i fine
      obtain rfl := Except.ok.inj accepted
      obtain ⟨settings, means, configured⟩ := foldlM_take_iff.mp taken
      exact ⟨_, settings, Table.scan_iff.mp (Prod.ext rfl fine), means, configured⟩
    · cases accepted

/-- A command line is accepted exactly if it has no mistake and every option in it sets
something, numbers included; of each kind of setting, the last one counts. -/
theorem parseArgs_iff (argv : List Text) (args : CommandLine) :
    parseArgs argv = .ok args ↔
      ∃ found settings, options.Written argv found ∧ List.Forall₂ Means settings found ∧
        args = CommandLine.configure {} settings := by
  constructor
  · exact written_of_parseArgs
  · rintro ⟨found, settings, written, means, rfl⟩
    exact parseArgs_of_written written means

def decimal (n : Int) : Text :=
  if n < 0 then '-' :: Nat.toDigits 10 n.natAbs else Nat.toDigits 10 n.natAbs

def Setting.render : Setting → Text
  | .battery n => "--battery=".toList ++ decimal n.toInt
  | .manual => "--manual".toList
  | .port n => "--port=".toList ++ decimal n.toInt
  | .scripts path => "--scripts=".toList ++ path
  | .socket path => "--socket=".toList ++ path

def said (args : CommandLine) : List Setting :=
  [.battery (Int32.ofInt args.batteryTreshold.toNat), .port args.port, .scripts args.scripts,
    .socket args.socketpath] ++ if args.startmanual = true then [.manual] else []

private theorem isspace_of_isDigit {c : Char} (digit : c.isDigit = true) : isspace c = false := by
  have bounds := Char.isDigit_iff_toNat.mp digit
  apply decide_eq_false
  rintro (rfl | space)
  · cases digit
  · have large : 48 ≤ c.toNat := bounds.1
    omega

private theorem stoi_decimal {n : Int} (small : -2 ^ 31 ≤ n ∧ n < 2 ^ 31) :
    stoi (decimal n) = some (Int32.ofInt n) := by
  have isDigit : ∀ c ∈ Nat.toDigits 10 n.natAbs, c.isDigit = true := fun c mem =>
    Nat.isDigit_of_mem_toDigits (by decide) (by decide) mem
  have nonempty : Nat.toDigits 10 n.natAbs ≠ [] := Nat.toDigits_ne_nil
  have value : Nat.ofDigitChars 10 (Nat.toDigits 10 n.natAbs) 0 = n.natAbs :=
    Nat.ofDigitChars_ten_toDigits
  have written : decimal n = if n < 0 then '-' :: Nat.toDigits 10 n.natAbs
    else Nat.toDigits 10 n.natAbs := rfl
  generalize Nat.toDigits 10 n.natAbs = digits at isDigit nonempty value written
  have taken : digits.takeWhile Char.isDigit = digits := List.takeWhile_eq_self_iff.mpr isDigit
  by_cases negative : n < 0
  · rw [if_pos negative] at written
    have whole : ('-' :: digits).dropWhile isspace = '-' :: digits := rfl
    have magnitude : -(n.natAbs : Int) = n := by omega
    rw [written, stoi, whole]
    simp only [List.head?_cons, true_or, if_true, List.drop_one, List.tail_cons, taken, value,
      magnitude]
    exact if_pos ⟨nonempty, small⟩
  · rw [if_neg negative] at written
    have magnitude : (n.natAbs : Int) = n := by omega
    cases digits with
    | nil => exact absurd rfl nonempty
    | cons c cs =>
      have digit := isDigit c List.mem_cons_self
      have minus : ¬ c = '-' := by
        rintro rfl
        cases digit
      have plus : ¬ c = '+' := by
        rintro rfl
        cases digit
      have whole : (c :: cs).dropWhile isspace = c :: cs := by
        rw [List.dropWhile_cons, isspace_of_isDigit digit]
        rfl
      rw [written, stoi, whole]
      simp only [List.head?_cons, Option.some.injEq, minus, plus, or_self, if_false, taken, value,
        magnitude]
      exact if_pos ⟨nonempty, small⟩

private theorem stoi_decimal_toInt (n : Int32) : stoi (decimal n.toInt) = some n := by
  rw [stoi_decimal ⟨n.le_toInt, n.toInt_lt⟩, Int32.ofInt_toInt]

private theorem written_assigned (name optarg : Text) {o : LongOption} {argv : List Text}
    (known : options.long name = some o) (takes : o.hasArg = true) (fresh : '=' ∉ name)
    (rest : options.Written argv found) :
    options.Written (('-' :: '-' :: (name ++ '=' :: optarg)) :: argv)
      (⟨o.val, some optarg⟩ :: found) := by
  have more : name ++ '=' :: optarg ≠ [] := by
    intro none
    cases (List.append_eq_nil_iff.mp none).2
  exact .piece (.long more (.assigned known takes fresh)) rest

private theorem written_render
    (s : Setting) {argv : List Text} (rest : options.Written argv found) :
    ∃ o, Means s o ∧ options.Written (s.render :: argv) (o :: found) := by
  cases s with
  | battery n =>
    exact ⟨_, .battery (stoi_decimal_toInt n),
      written_assigned "battery".toList _ rfl rfl (by decide) rest⟩
  | port n =>
    exact ⟨_, .port (stoi_decimal_toInt n),
      written_assigned "port".toList _ rfl rfl (by decide) rest⟩
  | scripts path =>
    exact ⟨_, .scripts, written_assigned "scripts".toList path rfl rfl (by decide) rest⟩
  | socket path =>
    exact ⟨_, .socket, written_assigned "socket".toList path rfl rfl (by decide) rest⟩
  | manual =>
    have known : options.long "manual".toList = some ⟨"manual".toList, false, 'm'⟩ := rfl
    have fresh : '=' ∉ "manual".toList := by decide
    exact ⟨_, .manual, .piece (.long (List.cons_ne_nil _ _) (.flag known rfl fresh)) rest⟩

private theorem parseArgs_render (settings : List Setting) :
    parseArgs (settings.map Setting.render) = .ok (CommandLine.configure {} settings) := by
  obtain ⟨found, written, means⟩ : ∃ found,
      options.Written (settings.map Setting.render) found ∧ List.Forall₂ Means settings found := by
    induction settings with
    | nil => exact ⟨[], .nil, .nil⟩
    | cons s settings ih =>
      obtain ⟨found, rest, means⟩ := ih
      obtain ⟨o, means', written⟩ := written_render s rest
      exact ⟨o :: found, written, .cons means' means⟩
  exact parseArgs_of_written written means

private theorem battery_of_int (level : UInt16) :
    UInt16.ofInt (Int32.ofInt (level.toNat : Int)).toInt = level := by
  have small := level.toNat_lt
  rw [Int32.toInt_ofInt_of_le (by omega) (by omega)]
  apply UInt16.toNat_inj.mp
  simp only [UInt16.ofInt, UInt16.toNat_ofNat']
  omega

/-- Whatever the program can be started with can be said on its command line. -/
theorem parseArgs_said (args : CommandLine) :
    parseArgs (args.said.map Setting.render) = .ok { args with leop := .done } := by
  have all : CommandLine.configure {} args.said = { args with
      leop := .done
      batteryTreshold := UInt16.ofInt (Int32.ofInt args.batteryTreshold.toNat).toInt } := by
    obtain ⟨⟨startmanual, leop, level, scripts⟩, port, socketpath⟩ := args
    cases startmanual <;> rfl
  rw [battery_of_int] at all
  rw [parseArgs_render, all]

/-- The options that end the program, and its exit status then. -/
inductive Ends : Found → ℕ → Prop
  | help {optarg : Option Text} : Ends ⟨'h', optarg⟩ 0
  | battery {optarg : Text} : stoi optarg = none → Ends ⟨'b', some optarg⟩ 2
  | port {optarg : Text} : stoi optarg = none → Ends ⟨'p', some optarg⟩ 2

private theorem known_cases (known : options.Knows o) : (o.val, o.optarg.isSome) ∈
    [('b', true), ('h', false), ('m', false), ('p', true), ('s', true), ('S', true)] := by
  rcases known with short | ⟨l, listed, same, takes⟩
  · have all : options.optstring.filterMap (fun c => (options.short c).map (Prod.mk c)) =
        [('b', true), ('h', false), ('m', false), ('p', true), ('s', true)] := rfl
    have listed : (o.val, o.optarg.isSome) ∈
        options.optstring.filterMap fun c => (options.short c).map (Prod.mk c) :=
      List.mem_filterMap.mpr ⟨_, Table.mem_of_short short, congrArg (Option.map (Prod.mk _)) short⟩
    rw [all] at listed
    exact List.mem_append_left [('S', true)] listed
  · rw [← same, ← takes]
    have all : ∀ l ∈ options.longOptions, (l.val, l.hasArg) ∈
      [('b', true), ('h', false), ('m', false), ('p', true), ('s', true), ('S', true)] := by decide
    exact all l listed

private theorem take_error_iff (known : options.Knows o) {status : ℕ} :
    args.take o = .error status ↔ Ends o status := by
  constructor
  · intro h
    obtain ⟨val, optarg⟩ := o
    have letters := known_cases known
    simp only [List.mem_cons, Prod.mk.injEq, List.not_mem_nil, or_false] at letters
    rcases letters with ⟨rfl, given⟩ | ⟨rfl, _⟩ | ⟨rfl, _⟩ | ⟨rfl, given⟩ | ⟨rfl, given⟩ |
      ⟨rfl, given⟩
    · obtain ⟨text, rfl⟩ := Option.isSome_iff_exists.mp given
      change (match stoi text with | some n => _ | none => Except.error 2) = _ at h
      split at h
      · cases h
      · rename_i number
        obtain rfl := Except.error.inj h
        exact .battery number
    · obtain rfl := Except.error.inj h
      exact .help
    · cases h
    · obtain ⟨text, rfl⟩ := Option.isSome_iff_exists.mp given
      change (match stoi text with | some n => _ | none => Except.error 2) = _ at h
      split at h
      · cases h
      · rename_i number
        obtain rfl := Except.error.inj h
        exact .port number
    · obtain ⟨text, rfl⟩ := Option.isSome_iff_exists.mp given
      cases h
    · obtain ⟨text, rfl⟩ := Option.isSome_iff_exists.mp given
      cases h
  · intro ends
    cases ends with
    | help => rfl
    | battery number | port number =>
      unfold CommandLine.take
      simp only [number]

private theorem long_socket {name : Text} {l : LongOption} (known : options.long name = some l)
    (socket : l.val = 'S') : "so".toList <+: name := by
  obtain ⟨listed, begins⟩ := Table.mem_of_long known
  have only : ∀ l ∈ options.longOptions, l.val = 'S' → l.name = "socket".toList := by decide
  rw [only l listed socket] at begins
  have all : ∀ name ∈ "socket".toList.inits, options.long name ≠ none → "so".toList <+: name := by
    decide
  apply all name ((List.mem_inits _ _).mpr begins)
  rw [known]
  exact Option.some_ne_none l

private theorem foldlM_take_error_iff (args : CommandLine) {status : ℕ}
    (known : ∀ o ∈ found, options.Knows o) :
    found.foldlM CommandLine.take args = .error status ↔
      ∃ before settings o after, found = before ++ o :: after ∧
        List.Forall₂ Means settings before ∧ Ends o status := by
  induction found generalizing args with
  | nil =>
    constructor
    · intro h
      cases h
    · rintro ⟨before, _, o, after, none, _⟩
      cases (List.append_eq_nil_iff.mp none.symm).2
  | cons o found ih =>
    have first := known o List.mem_cons_self
    have rest := fun o mem => known o (List.mem_cons_of_mem _ mem)
    rw [List.foldlM_cons]
    cases taken : args.take o with
    | error status' =>
      constructor
      · intro h
        obtain rfl := Except.error.inj h
        exact ⟨[], [], o, found, rfl, .nil, (take_error_iff first).mp taken⟩
      · rintro ⟨before, settings, o', after, split, means, ends⟩
        cases means with
        | nil =>
          obtain ⟨rfl, rfl⟩ := List.cons.inj split
          rw [(take_error_iff first).mpr ends] at taken
          exact congrArg Except.error (Except.error.inj taken).symm
        | cons means _ =>
          obtain ⟨rfl, _⟩ := List.cons.inj split
          rw [take_iff.mpr ⟨_, means, rfl⟩] at taken
          cases taken
    | ok args₁ =>
      constructor
      · intro h
        obtain ⟨before, settings, o', after, rfl, means, ends⟩ := (ih args₁ rest).mp h
        obtain ⟨s, means', _⟩ := take_iff.mp taken
        exact ⟨o :: before, s :: settings, o', after, rfl, .cons means' means, ends⟩
      · rintro ⟨before, settings, o', after, split, means, ends⟩
        cases means with
        | nil =>
          obtain ⟨rfl, rfl⟩ := List.cons.inj split
          rw [(take_error_iff first).mpr ends] at taken
          cases taken
        | cons _ others =>
          obtain ⟨rfl, rfl⟩ := List.cons.inj split
          exact (ih args₁ rest).mpr ⟨_, _, o', after, rfl, others, ends⟩

/-- The program ends with the first option that does not set something: with 0 for help, with 2
for a number that is none or too large. It ends with 1 at a mistake in the command line after
options that all set something. -/
theorem parseArgs_error_iff (argv : List Text) (status : ℕ) :
    parseArgs argv = .error status ↔
      ∃ before settings, List.Forall₂ Means settings before ∧
        ((∃ o after, (options.scan argv).1 = before ++ o :: after ∧ Ends o status) ∨
          options.scan argv = (before, false) ∧ status = 1) := by
  have known : ∀ o ∈ (options.scan argv).1, options.Knows o := fun o mem =>
    Table.knows_of_scan mem
  constructor
  · intro h
    rw [parseArgs] at h
    split at h
    · rename_i failed
      obtain rfl := Except.error.inj h
      obtain ⟨before, settings, o, after, split, means, ends⟩ :=
        (foldlM_take_error_iff {} known).mp failed
      exact ⟨before, settings, means, Or.inl ⟨o, after, split, ends⟩⟩
    · rename_i taken
      split at h
      · cases h
      · rename_i complains
        obtain rfl := Except.error.inj h
        obtain ⟨settings, means, _⟩ := foldlM_take_iff.mp taken
        exact ⟨_, settings, means, Or.inr ⟨Prod.ext rfl (eq_false_of_ne_true complains), rfl⟩⟩
  · rintro ⟨before, settings, means, ⟨o, after, split, ends⟩ | ⟨scanned, rfl⟩⟩
    · have failed := (foldlM_take_error_iff {} known).mpr
        ⟨before, settings, o, after, split, means, ends⟩
      rw [parseArgs, failed]
    · have taken : before.foldlM CommandLine.take {} = .ok (CommandLine.configure {} settings) :=
        foldlM_take_iff.mpr ⟨settings, means, rfl⟩
      rw [parseArgs, scanned, taken]
      rfl

private theorem long_of_socket
    {argv : List Text} (written : options.Written argv found) (mem : o ∈ found)
    (socket : o.val = 'S') : ∃ w ∈ argv, "--so".toList <+: w := by
  induction written with
  | nil | ended => cases mem
  | @piece w ws ws' found found' piece _ ih =>
    rcases List.mem_append.mp mem with here | later
    · cases piece with
      | operand => cases here
      | long _ named =>
        obtain rfl := List.mem_singleton.mp here
        refine ⟨_, List.mem_cons_self, (List.prefix_append_right_inj ['-', '-']).mpr ?_⟩
        cases named with
        | flag known | apart known => exact long_socket known socket
        | assigned known => exact (long_socket known socket).trans (List.prefix_append _ _)
      | short _ letters =>
        obtain ⟨takes, short⟩ := letters.short_of_mem here
        rw [socket] at short
        cases short
    · obtain ⟨w, mem, begins⟩ := ih later
      exact ⟨w, List.mem_cons_of_mem _ (piece.suffix.subset mem), begins⟩

private theorem exists_found (means : List.Forall₂ Means settings found) {s : Setting}
    (mem : s ∈ settings) : ∃ o ∈ found, Means s o := by
  induction means with
  | nil => cases mem
  | cons first _ ih =>
    rcases List.mem_cons.mp mem with rfl | later
    · exact ⟨_, List.mem_cons_self, first⟩
    · obtain ⟨o, mem, means⟩ := ih later
      exact ⟨o, List.mem_cons_of_mem _ mem, means⟩

/-- The help names a letter for the socket, but only the long option sets it. -/
theorem socket_needs_long (argv : List Text) (args : CommandLine)
    (accepted : parseArgs argv = .ok args)
    (other : args.socketpath ≠ "/run/s3tp.socket".toList) : ∃ w ∈ argv, "--so".toList <+: w := by
  obtain ⟨found, settings, written, means, rfl⟩ := written_of_parseArgs accepted
  have some : settings.filterMap Setting.socket? ≠ [] := by
    intro none
    apply other
    rw [CommandLine.configure, none]
    rfl
  obtain ⟨path, mem⟩ := List.exists_mem_of_ne_nil _ some
  obtain ⟨s, listed, sets⟩ := List.mem_filterMap.mp mem
  obtain ⟨o, mem', means'⟩ := exists_found means listed
  have socket : o.val = 'S' := by
    cases means' with
    | socket => rfl
    | battery | manual | port | scripts => cases sets
  exact long_of_socket written mem' socket

theorem socket_needs_long_abbreviated :
    ∃ w ∈ ["-m".toList, "--soc".toList, "/tmp/s3tp".toList], "--so".toList <+: w :=
  socket_needs_long _ { startmanual := true, socketpath := "/tmp/s3tp".toList } rfl (by decide)

example : parseArgs ["-S".toList, "/tmp/s3tp".toList] = .error 1 := rfl

/-- From the command line to the bus: the program that starts is in manualmode if it was asked to
be, with the LEOP sequence that `check_leop.sh` told and the last threshold of the command line,
cut to 16 bits; from then on its state is an account of the messages it has handled, and one
that can be attained with that threshold. -/
theorem main_accounts (platform : Dbus.Platform) (failsAt : ℕ → Bool) (uvSpawn : Script → ℕ → Bool)
    (spawns : ∀ script j, uvSpawn script j = true) (argv : List Text) (check startup : Ending)
    (connects : Bool) {sat : Satellite} {c : Dbus.DBusConnection}
    (started : main argv check startup false connects = .ok sat)
    (reached : Reachable (Dbus.DBusConnection.Step platform failsAt uvSpawn) (.new sat) c) :
    ∃ found settings args, options.Written argv found ∧ List.Forall₂ Means settings found ∧
      args = { (configure {} settings).toArguments with leop := leopAtStart check } ∧
      c.satellite.currentState.Registered args (Dbus.eventsOf platform c.handled) ∧
      c.satellite.currentState.Attainable args.batteryTreshold := by
  rw [main] at started
  split at started
  · cases started
  · rename_i said accepted
    split at started
    · obtain rfl := Except.ok.inj started
      obtain ⟨found, settings, written, means, rfl⟩ := written_of_parseArgs accepted
      refine ⟨found, settings, _, written, means, rfl, ?_, ?_⟩
      · obtain ⟨ts, run⟩ := reached
        exact Dbus.DBusConnection.run_registered run
      · exact (Dbus.DBusConnection.attained_of_reachable spawns reached).2.state
    · cases started

theorem main_accounts_battery :
    ∃ sat ts c found settings args,
      main ["-b".toList, "7".toList] (.exited 0) (.exited 0) false true = .ok sat ∧
      Run (Dbus.DBusConnection.Step ⟨false, []⟩ (fun _ => false) fun _ _ => true) (.new sat) ts c ∧
      ts.map Transition.label =
        [.arrived (.ofText .thmStateChange (Dbus.tempText .alarm)), .ready] ∧
      options.Written ["-b".toList, "7".toList] found ∧ List.Forall₂ Means settings found ∧
      args = { (configure {} settings).toArguments with leop := leopAtStart (.exited 0) } ∧
      c.satellite.currentState.Registered args (Dbus.eventsOf ⟨false, []⟩ c.handled) ∧
      c.satellite.currentState.Attainable args.batteryTreshold := by
  have accepted : parseArgs ["-b".toList, "7".toList] = .ok { batteryTreshold := 7 } := by
    decide +kernel
  have started : main ["-b".toList, "7".toList] (.exited 0) (.exited 0) false true =
      .ok (Horst.run { batteryTreshold := 7 } false (.exited 0) (.exited 0)).1 := by
    rw [main, accepted]
    exact if_pos rfl
  obtain ⟨ts, c, run, labels, _⟩ :=
    exists_run_to (Dbus.DBusConnection.step_of_next ⟨false, []⟩ (fun _ => false) (fun _ _ => true) 9)
      (.new (Horst.run { batteryTreshold := 7 } false (.exited 0) (.exited 0)).1)
      [.arrived (.ofText .thmStateChange (Dbus.tempText .alarm)), .ready] (fun _ => True)
      (by decide +kernel)
  obtain ⟨found, settings, args, written, means, given, registered, attainable⟩ :=
    main_accounts ⟨false, []⟩ (fun _ => false) (fun _ _ => true) (fun _ _ => rfl) _ (.exited 0)
      (.exited 0) true started run.reachable
  exact ⟨_, ts, c, found, settings, args, started, run, labels, written, means, given, registered,
    attainable⟩

end CommandLine

end Horst
