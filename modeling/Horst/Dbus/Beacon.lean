import Horst.Foundation.Format
import Horst.State

/-!
The beacon: ten bytes of the state, and what can be read back from them.
-/

set_option autoImplicit false
set_option relaxedAutoImplicit false

namespace Horst

open Foundation

/-! The values of the enumerations, as a beacon holds them. -/

def AdcsState.code : AdcsState → UInt8
  | .none => 0
  | .sleep => 1
  | .attdet => 2
  | .detumb => 3
  | .nadir => 4
  | .sun => 5
  | .flash => 6
  | .exp => 7
  | .test => 8
  | .poweroff => 15

def OverallTemp.code : OverallTemp → UInt8
  | .ok => 0
  | .warn => 1
  | .alarm => 2

def DaemonState.code : DaemonState → UInt8
  | .off => 0
  | .idle => 1
  | .wantmeasure => 2
  | .measuring => 3

def LeopSeq.code : LeopSeq → UInt8
  | .undeployed => 0
  | .deployed => 1
  | .done => 2

def boolCode : Bool → UInt8
  | false => 0
  | true => 1

/-- `getBeaconData`: the bytes in the order in which they are pushed back. -/
def getBeaconData (state : State) : List UInt8 :=
  [state.safemode,
    boolCode state.manualmode,
    boolCode state.maneuvermode,
    (state.eps.batteryLevel &&& 0xFF).toUInt8,
    (state.eps.batteryLevel >>> 8).toUInt8,
    state.thm.allTemp.code,
    state.adcs.pointing.code,
    state.adcs.requested.code,
    state.pl.daemon.code,
    state.leop.code]

structure Telemetry where
  safemode : UInt8
  manualmode : Bool
  maneuvermode : Bool
  batteryLevel : UInt16
  allTemp : OverallTemp
  pointing : AdcsState
  requested : AdcsState
  daemon : DaemonState
  leop : LeopSeq
  deriving DecidableEq, Repr

def State.telemetry (state : State) : Telemetry where
  safemode := state.safemode
  manualmode := state.manualmode
  maneuvermode := state.maneuvermode
  batteryLevel := state.eps.batteryLevel
  allTemp := state.thm.allTemp
  pointing := state.adcs.pointing
  requested := state.adcs.requested
  daemon := state.pl.daemon
  leop := state.leop

namespace Beacon

/-! The formats of the fields. -/

def byte : Format UInt8 UInt8 := .symbol id some fun _ _ => Option.some_inj

def bool : Format UInt8 Bool := .choice [false, true] boolCode (by decide) (by decide)

def adcsState : Format UInt8 AdcsState :=
  .choice [.none, .sleep, .attdet, .detumb, .nadir, .sun, .flash, .exp, .test, .poweroff]
    AdcsState.code (fun a => by cases a <;> decide) (by decide)

def overallTemp : Format UInt8 OverallTemp :=
  .choice [.ok, .warn, .alarm] OverallTemp.code (fun a => by cases a <;> decide) (by decide)

def daemonState : Format UInt8 DaemonState :=
  .choice [.off, .idle, .wantmeasure, .measuring] DaemonState.code
    (fun a => by cases a <;> decide) (by decide)

def leopSeq : Format UInt8 LeopSeq :=
  .choice [.undeployed, .deployed, .done] LeopSeq.code (fun a => by cases a <;> decide)
    (by decide)

private theorem low_toNat
    (level : UInt16) : (level &&& 0xFF).toUInt8.toNat = level.toNat % 256 := by
  have masked : (level &&& 0xFF).toNat = level.toNat % 256 :=
    Nat.and_two_pow_sub_one_eq_mod level.toNat 8
  rw [UInt16.toNat_toUInt8, masked]
  exact Nat.mod_mod _ _

private theorem high_toNat (level : UInt16) : (level >>> 8).toUInt8.toNat = level.toNat / 256 := by
  have small : level.toNat < 65536 := level.toNat_lt
  have shifted : level.toNat >>> 8 = level.toNat / 256 := Nat.shiftRight_eq_div_pow _ 8
  simp [shifted]
  omega

/-- The low byte comes first. -/
def word : Format UInt8 UInt16 where
  encode level := [(level &&& 0xFF).toUInt8, (level >>> 8).toUInt8]
  decode
    | low :: high :: rest => some (UInt16.ofNat (low.toNat + 256 * high.toNat), rest)
    | _ => none
  exact bytes level rest := by
    constructor
    · intro h
      match bytes with
      | low :: high :: rest' =>
        obtain ⟨rfl, rfl⟩ := Prod.mk.inj (Option.some.inj h)
        have small : low.toNat < 256 := low.toNat_lt
        have small' : high.toNat < 256 := high.toNat_lt
        have first : (UInt16.ofNat (low.toNat + 256 * high.toNat) &&& 0xFF).toUInt8 = low := by
          apply UInt8.toNat_inj.mp
          rw [low_toNat, UInt16.toNat_ofNat']
          omega
        have second : (UInt16.ofNat (low.toNat + 256 * high.toNat) >>> 8).toUInt8 = high := by
          apply UInt8.toNat_inj.mp
          rw [high_toNat, UInt16.toNat_ofNat']
          omega
        rw [first, second]
        rfl
    · rintro rfl
      have whole : UInt16.ofNat ((level &&& 0xFF).toUInt8.toNat +
          256 * (level >>> 8).toUInt8.toNat) = level := by
        apply UInt16.toNat_inj.mp
        have small : level.toNat < 65536 := level.toNat_lt
        rw [low_toNat, high_toNat, UInt16.toNat_ofNat']
        omega
      exact congrArg (fun level => some (level, rest)) whole

def fields : UInt8 × Bool × Bool × UInt16 × OverallTemp × AdcsState × AdcsState × DaemonState ×
    LeopSeq ≃ Telemetry where
  toFun | ⟨a, b, c, d, e, f, g, h, i⟩ => ⟨a, b, c, d, e, f, g, h, i⟩
  invFun t := (t.safemode, t.manualmode, t.maneuvermode, t.batteryLevel, t.allTemp, t.pointing,
    t.requested, t.daemon, t.leop)
  left_inv _ := rfl
  right_inv _ := rfl

end Beacon

def beacon : Format UInt8 Telemetry :=
  (Beacon.byte.seq <| Beacon.bool.seq <| Beacon.bool.seq <| Beacon.word.seq <|
    Beacon.overallTemp.seq <| Beacon.adcsState.seq <| Beacon.adcsState.seq <|
    Beacon.daemonState.seq Beacon.leopSeq).as Beacon.fields

private theorem getBeaconData_eq
    (state : State) : getBeaconData state = beacon.encode state.telemetry := rfl

/-- Ten bytes are the beacon of a state exactly if they are read as the telemetry of it, so
the ground takes no beacon for another and no other bytes for a beacon. -/
theorem beacon_parse_iff (bytes : List UInt8) (telemetry : Telemetry) :
    beacon.parse bytes = some telemetry ↔
      ∃ state : State, getBeaconData state = bytes ∧ state.telemetry = telemetry := by
  rw [beacon.parse_iff]
  constructor
  · rintro rfl
    refine ⟨{ State.new false telemetry.leop with
      safemode := telemetry.safemode
      manualmode := telemetry.manualmode
      maneuvermode := telemetry.maneuvermode
      eps := ⟨telemetry.batteryLevel⟩
      thm := ⟨telemetry.allTemp⟩
      pl := ⟨telemetry.daemon⟩
      adcs := ⟨telemetry.pointing, telemetry.requested⟩ }, rfl, rfl⟩
  · rintro ⟨state, rfl, rfl⟩
    exact getBeaconData_eq state

end Horst
