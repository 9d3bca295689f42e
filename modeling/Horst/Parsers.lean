import Horst.Foundation.Switch
import Horst.State
import Mathlib.Data.UInt

/-!
The parsers for the names of states. They switch on a hash of the text and never
compare the text itself.
-/

set_option autoImplicit false
set_option relaxedAutoImplicit false

namespace Horst

open Foundation

/-- A NUL-terminated string, without the NUL. -/
structure CString where
  bytes : List UInt8
  nonzero : 0 ∉ bytes
  deriving DecidableEq, Repr

def literal (text : String) : List UInt8 := text.toList.map fun c => UInt8.ofNat c.toNat

/-- A `char` as an operand of the arithmetic in `unsigned int`. Whether `char` is signed
depends on the board. -/
def promote (signed : Bool) (c : UInt8) : UInt32 :=
  if signed then c.toInt8.toInt32.toUInt32 else c.toUInt32

/-- `util::str2int`, from the end of the string. -/
def str2int (signed : Bool) : List UInt8 → UInt32
  | [] => 5381
  | c :: str => (str2int signed str * 33) ^^^ promote signed c

def toupper (c : UInt8) : UInt8 := if 97 ≤ c ∧ c ≤ 122 then c - 32 else c

private theorem toupper_eq_zero {c : UInt8} (h : toupper c = 0) : c = 0 := by
  unfold toupper at h
  split at h
  · rename_i lower
    have small : c = 32 := by
      calc c = c - 32 + 32 := (UInt8.sub_add_cancel c 32).symm
        _ = 0 + 32 := by rw [h]
        _ = 32 := rfl
    rw [small] at lower
    exact absurd lower.1 (by decide)
  · exact h

/-- The loop that converts a name to upper case in its place. -/
def CString.toupper (name : CString) : CString where
  bytes := name.bytes.map Horst.toupper
  nonzero mem := by
    obtain ⟨c, mem', zero⟩ := List.mem_map.mp mem
    exact name.nonzero (toupper_eq_zero zero ▸ mem')

def State.leopCases : List (List UInt8 × LeopSeq) :=
  [(literal "UNDEPLOYED", .undeployed),
    (literal "DEPLOYED", .deployed),
    (literal "DONE", .done)]

def State.boolCases : List (List UInt8 × Except Text Bool) :=
  [(literal "TRUE", .ok true),
    (literal "FALSE", .ok false)]

def ADCS.stateCases : List (List UInt8 × AdcsState) :=
  [(literal "NONE", .none),
    (literal "SLEEP", .sleep),
    (literal "ATTDET", .attdet),
    (literal "DETUMB", .detumb),
    (literal "NADIR", .nadir),
    (literal "SUN", .sun),
    (literal "FLASH", .flash),
    (literal "EXP", .exp),
    (literal "TEST", .test),
    (literal "POWEROFF", .poweroff)]

def THM.tempCases : List (List UInt8 × OverallTemp) :=
  [(literal "OK", .ok),
    (literal "WARN", .warn),
    (literal "ALARM", .alarm)]

def State.str2leop (signed : Bool) (name : CString) : LeopSeq :=
  switch (str2int signed) State.leopCases .undeployed name.toupper.bytes

/-- The exception is `std::invalid_argument`. -/
def State.str2bool (signed : Bool) (name : CString) : Except Text Bool :=
  switch (str2int signed) State.boolCases (.error "Could not interpret as boolean!".toList)
    name.toupper.bytes

def ADCS.str2state (signed : Bool) (name : CString) : AdcsState :=
  switch (str2int signed) ADCS.stateCases .none name.toupper.bytes

/-- Unlike the others, it does not convert the name to upper case. -/
def THM.str2temp (signed : Bool) (name : CString) : OverallTemp :=
  switch (str2int signed) THM.tempCases .alarm name.bytes

/-! The names, and when a parser takes nothing else for them. -/

def boolName : Bool → List UInt8
  | true => literal "TRUE"
  | false => literal "FALSE"

def LeopSeq.name : LeopSeq → List UInt8
  | .undeployed => literal "UNDEPLOYED"
  | .deployed => literal "DEPLOYED"
  | .done => literal "DONE"

def AdcsState.name : AdcsState → List UInt8
  | .none => literal "NONE"
  | .sleep => literal "SLEEP"
  | .attdet => literal "ATTDET"
  | .detumb => literal "DETUMB"
  | .nadir => literal "NADIR"
  | .sun => literal "SUN"
  | .flash => literal "FLASH"
  | .exp => literal "EXP"
  | .test => literal "TEST"
  | .poweroff => literal "POWEROFF"

def OverallTemp.name : OverallTemp → List UInt8
  | .ok => literal "OK"
  | .warn => literal "WARN"
  | .alarm => literal "ALARM"

section Exact

variable (signed : Bool) (name : CString)

/-- A boolean is read from its own name alone, and everything else is an error. -/
def BoolExact : Prop :=
  (∀ b, State.str2bool signed name = .ok b ↔ name.toupper.bytes = boolName b) ∧
    ((∀ b, name.toupper.bytes ≠ boolName b) →
      State.str2bool signed name = .error "Could not interpret as boolean!".toList)

def LeopExact : Prop :=
  ∀ leop : LeopSeq, leop ≠ .undeployed →
    (State.str2leop signed name = leop ↔ name.toupper.bytes = leop.name)

def StateExact : Prop :=
  ∀ status : AdcsState, status ≠ .none →
    (ADCS.str2state signed name = status ↔ name.toupper.bytes = status.name)

/-- A good temperature and a warning are read from their names, and all else is an alarm. -/
def TempExact : Prop :=
  (∀ temp : OverallTemp, temp ≠ .alarm → (THM.str2temp signed name = temp ↔ name.bytes = temp.name)) ∧
    ((∀ temp : OverallTemp, temp ≠ .alarm → name.bytes ≠ temp.name) → THM.str2temp signed name = .alarm)

end Exact

variable {signed : Bool} {name : CString}

theorem leopExact_iff : LeopExact signed name ↔ ∀ leop : LeopSeq, leop ≠ .undeployed →
    Unmistaken (str2int signed) name.toupper.bytes leop.name := by
  have labels : Labels (str2int signed) State.leopCases := by
    cases signed <;> decide +kernel
  refine switch_names_iff LeopSeq.name labels .undeployed ?_ (by decide) name.toupper.bytes
  intro leop _
  cases leop <;> decide

theorem stateExact_iff : StateExact signed name ↔ ∀ status : AdcsState, status ≠ .none →
    Unmistaken (str2int signed) name.toupper.bytes status.name := by
  have labels : Labels (str2int signed) ADCS.stateCases := by
    cases signed <;> decide +kernel
  refine switch_names_iff AdcsState.name labels .none ?_ (by decide) name.toupper.bytes
  intro status _
  cases status <;> decide

theorem boolExact_iff : BoolExact signed name ↔
    ∀ b, Unmistaken (str2int signed) name.toupper.bytes (boolName b) := by
  have labels : Labels (str2int signed) State.boolCases := by
    cases signed <;> decide +kernel
  have exact := switch_exact_iff (fun b => (.ok b : Except Text Bool)) boolName labels
    (.error "Could not interpret as boolean!".toList) (by decide)
    (by decide) (by decide) name.toupper.bytes
  rw [← exact]
  refine and_iff_left_of_imp fun own none => ?_
  exact switch_eq_default (by decide) own none

theorem tempExact_iff : TempExact signed name ↔ ∀ temp : OverallTemp, temp ≠ .alarm →
    Unmistaken (str2int signed) name.bytes temp.name := by
  have labels : Labels (str2int signed) THM.tempCases := by
    cases signed <;> decide +kernel
  have exact := switch_names_iff OverallTemp.name labels .alarm (by
    intro temp _
    cases temp <;> decide) (by decide) name.bytes
  rw [← exact]
  refine and_iff_left_of_imp fun own none => ?_
  by_contra other
  exact none _ other ((own _ other).mp rfl)

structure NamesExact (signed : Bool) (name : CString) : Prop where
  bool : BoolExact signed name
  leop : LeopExact signed name
  state : StateExact signed name
  temp : TempExact signed name

/-- The parsers are exact on a text unless it shares its hash with a name it is not. -/
theorem namesExact_iff (signed : Bool) (name : CString) :
    NamesExact signed name ↔
      (∀ b, Unmistaken (str2int signed) name.toupper.bytes (boolName b)) ∧
      (∀ leop : LeopSeq, leop ≠ .undeployed →
        Unmistaken (str2int signed) name.toupper.bytes leop.name) ∧
      (∀ status : AdcsState, status ≠ .none →
        Unmistaken (str2int signed) name.toupper.bytes status.name) ∧
      ∀ temp : OverallTemp, temp ≠ .alarm →
        Unmistaken (str2int signed) name.bytes temp.name := by
  rw [← boolExact_iff, ← leopExact_iff, ← stateExact_iff, ← tempExact_iff]
  constructor
  · intro exact
    exact ⟨exact.bool, exact.leop, exact.state, exact.temp⟩
  · rintro ⟨bool, leop, state, temp⟩
    exact ⟨bool, leop, state, temp⟩

/-- The temperature `lH` is taken for OK. -/
theorem names_confused :
    (¬ ∀ name, NamesExact true name) ∧ ¬ ∀ name, NamesExact false name := by
  have confused (signed : Bool) : THM.str2temp signed ⟨literal "lH", by decide⟩ = .ok := by
    cases signed <;> decide +kernel
  constructor
  · intro exact
    have same := (exact ⟨literal "lH", by decide⟩).temp.1 .ok (by decide)
    exact absurd (same.mp (confused true)) (by decide)
  · intro exact
    have same := (exact ⟨literal "lH", by decide⟩).temp.1 .ok (by decide)
    exact absurd (same.mp (confused false)) (by decide)

example : State.str2bool true ⟨literal "70te", by decide⟩ = .ok true := by rfl

end Horst
