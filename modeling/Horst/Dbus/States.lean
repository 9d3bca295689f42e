import Horst.Dbus.Telemetry

/-!
The states that the program comes into: each of them, and none besides, can be brought about
over the bus, with scripts that end well.
-/

set_option autoImplicit false
set_option relaxedAutoImplicit false

namespace Horst

open Foundation

namespace State

structure Formed (limit : UInt16) (s : State) : Prop where
  treshold : s.batteryTreshold = limit
  idle : s.Idle
  safemode : s.safemode ≤ 3
  low : s.safemode = 2 → limit ≠ 0
  adcs : s.adcs.requested = .none ∨
    s.adcs.pointing = .none ∧ (s.adcs.requested = .detumb ∨ s.adcs.requested = .sun)
  daemon : s.pl.daemon ≠ .wantmeasure
  measuring : s.pl.daemon = .measuring → limit ≠ 65535

/-- What is known of every state between two callbacks, for events of the bus. -/
structure Attainable (limit : UInt16) (s : State) : Prop extends s.Formed limit where
  covered : s.Covered

variable {limit : UInt16} {s : State}

theorem Formed.enter (formed : s.Formed limit) {reason : UInt8} (small : reason ≤ 3)
    (nonzero : reason ≠ 0) (low : reason = 2 → limit ≠ 0) : (s.enter reason).Attainable limit :=
  ⟨{ formed with idle := formed.idle.enter reason, safemode := small, low := low },
    Or.inl nonzero⟩

theorem Formed.unsafed (formed : s.Formed limit) : { s with safemode := 0 }.Formed limit :=
  { formed with
    idle := ⟨formed.idle.enforced, formed.idle.commands⟩
    safemode := show (0 : UInt8) ≤ 3 by decide
    low := fun two => absurd two (show (0 : UInt8) ≠ 2 by decide) }

private theorem emergency_le (s : State) : s.emergency ≤ 3 := by
  unfold emergency
  split
  · decide
  · split <;> decide

private theorem treshold_of_emergency (low : s.emergency = 2) : s.batteryTreshold ≠ 0 := by
  intro zero
  unfold emergency at low
  split at low
  · cases low
  · split at low
    · rename_i less
      rw [zero] at less
      exact absurd (UInt16.lt_iff_toNat_lt.mp less) (Nat.not_lt_zero _)
    · cases low

theorem Formed.settle (formed : s.Formed limit) : s.settle.Attainable limit := by
  by_cases urgent : s.Urgent
  · rw [settle_of_urgent urgent]
    apply formed.enter (emergency_le s) urgent.2
    rw [← formed.treshold]
    exact treshold_of_emergency
  · rw [settle_of_not_urgent urgent]
    have calm := covered_settle s
    rw [settle_of_not_urgent urgent] at calm
    exact ⟨formed, calm⟩

end State

namespace Dbus

open State

def FlatStep (c : Flat) (input : Flat.Input) (c' : Flat) : Prop :=
  (∃ orders, c.next input = some (c', orders)) ∧ ∀ e, input = .event e → Deliverable e

/-- From every configuration with the first state, the second one can be brought about. -/
def Goes (s s' : State) : Prop :=
  ∀ c : Flat, c.state = s → ∃ c', Reachable FlatStep c c' ∧ c'.state = s'

variable {s s' s'' : State} {e : Event} {a : Action}

theorem Goes.refl : Goes s s := fun c same => ⟨c, reachable_refl, same⟩

theorem Goes.trans (first : Goes s s') (second : Goes s' s'') : Goes s s'' := by
  intro c same
  obtain ⟨c₁, ⟨ts, run⟩, same₁⟩ := first c same
  obtain ⟨c₂, ⟨us, rest⟩, same₂⟩ := second c₁ same₁
  exact ⟨c₂, ⟨ts ++ us, run.append rest⟩, same₂⟩

private theorem flatStep_event (deliverable : Deliverable e) (c : Flat) :
    FlatStep c (.event e) ⟨c.state.respond e, c.running + c.state.orders e⟩ := by
  refine ⟨⟨c.state.orders e, if_pos deliverable.external⟩, ?_⟩
  intro e' same
  obtain rfl := Flat.Input.event.inj same
  exact deliverable

private theorem goes_event
    (deliverable : Deliverable e) (answer : s.respond e = s') : Goes s s' := by
  rintro c rfl
  exact ⟨_, ⟨_, Run.nil.snoc (flatStep_event deliverable c)⟩, answer⟩

private theorem goes_script (deliverable : Deliverable e) (starts : a ∈ s.orders e)
    (ends : ((s.respond e).conclude a true).1 = s') : Goes s s' := by
  rintro c rfl
  set started : Flat := ⟨c.state.respond e, c.running + c.state.orders e⟩
  have first := flatStep_event deliverable c
  have runs : a ∈ started.running :=
    Multiset.mem_add.mpr (Or.inr (Multiset.mem_coe.mpr starts))
  set answer := (c.state.respond e).conclude a true
  have second : FlatStep started (.exited a 0 0)
      (Flat.answered (started.running.erase a) answer).1 := by
    refine ⟨⟨answer.2, ?_⟩, fun _ none => by cases none⟩
    rw [Flat.next, if_pos runs]
    exact if_pos (by decide)
  exact ⟨_, ⟨_, (Run.nil.snoc first).snoc second⟩, ends⟩

private theorem settle_manual (manual : s.manualmode = true) : s.settle = s := by
  apply settle_of_not_urgent
  intro urgent
  have off := urgent.1.2
  rw [manual] at off
  cases off

theorem respond_fact (deliverable : Deliverable e) (fact : e.isFact = true) :
    s.respond e = (e.update s).settle := by
  cases e with
  | thmSignal | epsSignal | adcsSignal | payloadSignal | maneuverModeSignal => rfl
  | adcsReqSignal | leopSignal | manualModeSignal | safeModeSignal => exact deliverable.elim
  | manualModeReq | safeModeReq | leopReq | payloadReq | controlMessage => cases fact

private theorem goes_noted (deliverable : Deliverable e) (fact : e.isFact = true)
    (manual : (e.update s).manualmode = true) : Goes s (e.update s) := by
  apply goes_event deliverable
  rw [respond_fact deliverable fact, settle_manual manual]

def parked (s : State) (daemon : DaemonState) (adcs : ADCS) (safemode : UInt8) : State :=
  { s with
    manualmode := true
    maneuvermode := false
    safemode := safemode
    leop := .done
    eps := ⟨65535⟩
    thm := ⟨.ok⟩
    pl := ⟨daemon⟩
    adcs := adcs }

private theorem goes_manual (s : State) : Goes s { s with manualmode := true } :=
  goes_event (e := .manualModeReq true) trivial rfl

private theorem goes_told (manual : s.manualmode = true) (temp : OverallTemp) (level : UInt16)
    (mode : Bool) (leop : LeopSeq) :
    Goes s { s with thm := ⟨temp⟩, eps := ⟨level⟩, maneuvermode := mode, leop := leop } := by
  set warm : State := { s with thm := ⟨temp⟩ }
  have temps : Goes s warm := goes_noted (e := .thmSignal temp) trivial rfl manual
  set charged : State := { warm with eps := ⟨level⟩ }
  have charges : Goes warm charged := goes_noted (e := .epsSignal level) trivial rfl manual
  set moving : State := { charged with maneuvermode := mode }
  have moves : Goes charged moving := goes_noted (e := .maneuverModeSignal mode) trivial rfl manual
  have leops : Goes moving { moving with leop := leop } :=
    goes_event (e := .leopReq leop) trivial rfl
  exact temps.trans (charges.trans (moves.trans leops))

private theorem goes_pointing (manual : s.manualmode = true) (pointing : AdcsState) :
    Goes s { s with adcs := ⟨pointing, .none⟩ } :=
  goes_noted (e := .adcsSignal pointing) trivial rfl manual

private theorem goes_unsafed (manual : s.manualmode = true) : Goes s { s with safemode := 0 } := by
  apply goes_event (e := .safeModeReq false) trivial
  by_cases safe : s.safemode ≠ 0
  · refine (if_pos safe).trans ?_
    exact settle_manual manual
  · refine (if_neg safe).trans ?_
    rw [← not_not.mp safe]

private theorem goes_parked (s : State) : Goes s (parked s s.pl.daemon ⟨.none, .none⟩ 0) := by
  set held : State := { s with manualmode := true, safemode := 0 }
  have holds : Goes s held := (goes_manual s).trans (goes_unsafed rfl)
  set told : State :=
    { held with thm := ⟨.ok⟩, eps := ⟨65535⟩, maneuvermode := false, leop := .done }
  have tells : Goes held told := goes_told rfl .ok 65535 false .done
  exact holds.trans (tells.trans (goes_pointing rfl .none))

variable {daemon : DaemonState} {adcs : ADCS}

def released (s : State) (daemon : DaemonState) (adcs : ADCS) : State :=
  { parked s daemon adcs 0 with manualmode := false }

private theorem level_le (level : UInt16) : level ≤ 65535 := by
  have small := level.toNat_lt
  apply UInt16.le_iff_toNat_le.mpr
  change level.toNat ≤ 65535
  omega

private theorem calm_released (adcs : ADCS) : ¬ (released s daemon adcs).Urgent := by
  rintro ⟨_, emergency⟩
  apply emergency
  apply (emergency_eq_zero_iff _).mpr
  exact ⟨OverallTemp.noConfusion, level_le _⟩

private theorem settle_released
    (adcs : ADCS) : (released s daemon adcs).settle = released s daemon adcs :=
  settle_of_not_urgent (calm_released adcs)

private theorem rules_released (adcs : ADCS) (target : State) :
    (released s daemon adcs).autonomousRules target =
      (released s daemon adcs).dueTriggers target := by
  apply autonomousRules_of_calm target ⟨rfl, rfl⟩
  by_contra emergency
  exact calm_released adcs ⟨⟨rfl, rfl⟩, emergency⟩

private theorem goes_released
    (adcs : ADCS) : Goes (parked s daemon adcs 0) (released s daemon adcs) :=
  goes_event (e := .manualModeReq false) trivial (settle_released adcs)

private theorem goes_measuring (higher : s.batteryTreshold ≠ 65535) :
    Goes (parked s daemon ⟨.none, .none⟩ 0) (parked s .measuring ⟨.none, .none⟩ 0) := by
  have room : s.batteryTreshold < 65535 := by
    have le := UInt16.le_iff_toNat_le.mp (level_le s.batteryTreshold)
    have differ : s.batteryTreshold.toNat ≠ (65535 : UInt16).toNat :=
      fun same => higher (UInt16.toNat_inj.mp same)
    exact UInt16.lt_iff_toNat_lt.mpr (lt_of_le_of_ne le differ)
  set off := released s daemon ⟨.none, .none⟩
  have due : Action.triggerMeasuring ∈ off.orders (.payloadReq .wantmeasure) := by
    change _ ∈ off.autonomousRules { off with pl := ⟨.wantmeasure⟩ }
    rw [rules_released]
    apply List.mem_append_left
    rw [measuringRule, if_pos ⟨rfl, room, rfl, rfl⟩]
    exact List.mem_singleton.mpr rfl
  have measures : Goes off (released s .measuring ⟨.none, .none⟩) :=
    goes_script (e := .payloadReq .wantmeasure) rfl due (settle_released ⟨.none, .none⟩)
  exact (goes_released _).trans (measures.trans (goes_manual _))

private theorem goes_requested {requested : AdcsState}
    (report : a.report = some (.adcsReqSignal requested))
    (due : a ∈ (released s daemon adcs).adcsRules) :
    Goes (parked s daemon adcs 0) (parked s daemon ⟨.none, requested⟩ 0) := by
  have starts : a ∈ (parked s daemon adcs 0).orders (.manualModeReq false) := by
    have rules : a ∈ (released s daemon adcs).autonomousRules (released s daemon adcs) := by
      rw [rules_released]
      exact List.mem_append_right _ due
    exact List.mem_append_left _ rules
  have ends : (((parked s daemon adcs 0).respond (.manualModeReq false)).conclude a true).1 =
      released s daemon ⟨.none, requested⟩ := by
    have answer : (parked s daemon adcs 0).respond (.manualModeReq false) =
        released s daemon adcs := settle_released adcs
    rw [answer]
    cases a with
    | triggerDetumbling =>
      obtain rfl := Event.adcsReqSignal.inj (Option.some.inj report)
      exact settle_released _
    | triggerSunpointing =>
      obtain rfl := Event.adcsReqSignal.inj (Option.some.inj report)
      exact settle_released _
    | triggerMeasuring => cases report
    | shellCommand | enterManualMode | leaveManualMode | enterSafeMode | leaveSafeMode
    | finishLEOP => cases report
  have asks := goes_script (e := .manualModeReq false) trivial starts ends
  exact asks.trans (goes_manual _)

private theorem goes_adcs (allowed : adcs.requested = .none ∨
    adcs.pointing = .none ∧ (adcs.requested = .detumb ∨ adcs.requested = .sun)) :
    Goes (parked s daemon ⟨.none, .none⟩ 0) (parked s daemon adcs 0) := by
  obtain ⟨pointing, requested⟩ := adcs
  rcases allowed with none | ⟨none, detumb | sun⟩
  · obtain rfl : requested = .none := none
    exact goes_pointing rfl pointing
  · obtain rfl : pointing = .none := none
    obtain rfl : requested = .detumb := detumb
    exact goes_requested (a := .triggerDetumbling) rfl (List.mem_cons_self)
  · obtain rfl : pointing = .none := none
    obtain rfl : requested = .sun := sun
    have detumbled := goes_pointing (s := parked s daemon ⟨.none, .none⟩ 0) rfl .detumb
    refine detumbled.trans (goes_requested (a := .triggerSunpointing) rfl ?_)
    exact List.mem_cons_self

private theorem goes_emergency {reason : UInt8} (temp : OverallTemp) (level : UInt16)
    (emergency : { s with thm := ⟨temp⟩, eps := ⟨level⟩ }.emergency = reason)
    (nonzero : reason ≠ 0) : Goes (parked s daemon adcs 0) (parked s daemon adcs reason) := by
  set told : State := { parked s daemon adcs 0 with thm := ⟨temp⟩, eps := ⟨level⟩ }
  have tells : Goes (parked s daemon adcs 0) told := goes_told rfl temp level false .done
  set left : State := { told with manualmode := false }
  have same : left.emergency = reason := emergency
  have urgent : left.Urgent := by
    refine ⟨⟨rfl, rfl⟩, ?_⟩
    rw [same]
    exact nonzero
  have entered : Goes told (left.enter reason) := by
    apply goes_event (e := .manualModeReq false) trivial
    rw [← same]
    exact settle_of_urgent urgent
  set held : State := { left.enter reason with manualmode := true }
  have holds : Goes (left.enter reason) held := goes_manual _
  exact tells.trans <| entered.trans <| holds.trans <| goes_told rfl .ok 65535 false .done

private theorem goes_safemode {reason : UInt8} (small : reason ≤ 3)
    (low : reason = 2 → s.batteryTreshold ≠ 0) :
    Goes (parked s daemon adcs 0) (parked s daemon adcs reason) := by
  have cases : reason = 0 ∨ reason = 1 ∨ reason = 2 ∨ reason = 3 := by
    have le := UInt8.le_iff_toNat_le.mp small
    have three : (3 : UInt8).toNat = 3 := rfl
    have names : reason.toNat = 0 ∨ reason.toNat = 1 ∨ reason.toNat = 2 ∨ reason.toNat = 3 := by
      omega
    simpa [← UInt8.toNat_inj] using names
  rcases cases with rfl | rfl | rfl | rfl
  · exact .refl
  · exact goes_emergency .alarm 65535 rfl (by decide)
  · have drained : ({ s with thm := ⟨.ok⟩, eps := ⟨0⟩ } : State).emergency = 2 := by
      have less : (0 : UInt16) < s.batteryTreshold := by
        apply UInt16.lt_iff_toNat_lt.mpr
        apply Nat.pos_of_ne_zero
        intro zero
        exact low rfl (UInt16.toNat_inj.mp zero)
      exact if_pos less
    exact goes_emergency .ok 0 drained (by decide)
  · exact goes_event (e := .safeModeReq true) trivial rfl

private theorem same_of_idle {t : State} (treshold : s.batteryTreshold = t.batteryTreshold)
    (idle : s.Idle) (idle' : t.Idle) :
    { s with
      safemode := t.safemode
      manualmode := t.manualmode
      maneuvermode := t.maneuvermode
      leop := t.leop
      eps := t.eps
      thm := t.thm
      pl := t.pl
      adcs := t.adcs } = t := by
  obtain ⟨enforced, commands⟩ := idle
  obtain ⟨enforced', commands'⟩ := idle'
  obtain ⟨limit, ⟨waiting⟩, _, memory, _, _, _, _, _, _, _⟩ := s
  obtain ⟨limit', ⟨waiting'⟩, _, memory', _, _, _, _, _, _, _⟩ := t
  obtain rfl : limit = limit' := treshold
  obtain rfl : memory = false := enforced
  obtain rfl : memory' = false := enforced'
  obtain rfl : waiting = [] := commands
  obtain rfl : waiting' = [] := commands'
  rfl

private theorem goes_attainable {limit : UInt16} {t : State} (known : s.batteryTreshold = limit)
    (idle : s.Idle) (attainable : t.Attainable limit)
    (off : t.pl.daemon = .off → s.pl.daemon = .off) : Goes s t := by
  obtain ⟨enforced, commands⟩ := attainable.idle
  have treshold : s.batteryTreshold = t.batteryTreshold := known.trans attainable.treshold.symm
  have higher (measuring : t.pl.daemon = .measuring) : s.batteryTreshold ≠ 65535 := by
    rw [known]
    exact attainable.measuring measuring
  have payload : Goes (parked s s.pl.daemon ⟨.none, .none⟩ 0)
      (parked s t.pl.daemon ⟨.none, .none⟩ 0) := by
    cases daemon : t.pl.daemon with
    | off =>
      rw [off daemon]
      exact .refl
    | idle => exact goes_noted (e := .payloadSignal .idle) rfl rfl rfl
    | wantmeasure => exact absurd daemon attainable.daemon
    | measuring => exact goes_measuring (higher daemon)
  have asks : Goes (parked s t.pl.daemon ⟨.none, .none⟩ 0) (parked s t.pl.daemon t.adcs 0) :=
    goes_adcs attainable.adcs
  have enters : Goes (parked s t.pl.daemon t.adcs 0) (parked s t.pl.daemon t.adcs t.safemode) := by
    apply goes_safemode attainable.safemode
    rw [known]
    exact attainable.low
  set held : State := { t with manualmode := true }
  have tells : Goes (parked s t.pl.daemon t.adcs t.safemode) held := by
    have told := goes_told (s := parked s t.pl.daemon t.adcs t.safemode) rfl t.thm.allTemp
      t.eps.batteryLevel t.maneuvermode t.leop
    have same : { parked s t.pl.daemon t.adcs t.safemode with
        thm := ⟨t.thm.allTemp⟩
        eps := ⟨t.eps.batteryLevel⟩
        maneuvermode := t.maneuvermode
        leop := t.leop } = held :=
      same_of_idle (s := s) (t := held) treshold idle ⟨enforced, commands⟩
    rw [← same]
    exact told
  have leaves : Goes held t := by
    cases manual : t.manualmode with
    | true =>
      have same : held = t := by
        change { t with manualmode := true } = t
        rw [← manual]
      rw [same]
      exact .refl
    | false =>
      have same : { held with manualmode := false } = t := by
        change { t with manualmode := false } = t
        rw [← manual]
      have answer : held.respond (.manualModeReq false) =
          ({ held with manualmode := false } : State).settle := rfl
      apply goes_event (e := .manualModeReq false) trivial
      rw [answer, same]
      exact attainable.covered.settle
  exact (goes_parked s).trans <| payload.trans <| asks.trans <| enters.trans <| tells.trans leaves

variable {limit : UInt16}

theorem formed_update (formed : s.Formed limit) (deliverable : Deliverable e)
    (fact : e.isFact = true) : (e.update s).Formed limit := by
  have idle : (e.update s).Idle := formed.idle.update fact
  cases e with
  | thmSignal | epsSignal | maneuverModeSignal => exact { formed with idle := idle }
  | adcsSignal pointing => exact { formed with idle := idle, adcs := Or.inl rfl }
  | payloadSignal payload =>
    obtain rfl : payload = .idle := deliverable
    exact { formed with
      idle := idle
      daemon := DaemonState.noConfusion
      measuring := fun measuring => DaemonState.noConfusion measuring }
  | adcsReqSignal | leopSignal | manualModeSignal | safeModeSignal => exact deliverable.elim
  | manualModeReq | safeModeReq | leopReq | payloadReq | controlMessage => cases fact

private theorem attainable_forced (formed : s.Formed limit) : (s.enter 3).Attainable limit := by
  apply formed.enter (UInt8.le_refl 3) (by decide)
  intro two
  cases two

private theorem attainable_respond (attainable : s.Attainable limit) (deliverable : Deliverable e) :
    (s.respond e).Attainable limit := by
  have formed := attainable.toFormed
  have idle := formed.idle
  cases e with
  | thmSignal | epsSignal | adcsSignal | payloadSignal | maneuverModeSignal =>
    exact (formed_update formed deliverable rfl).settle
  | adcsReqSignal | leopSignal | manualModeSignal | safeModeSignal => exact deliverable.elim
  | manualModeReq wanted =>
    cases wanted with
    | true => exact ⟨{ formed with idle := ⟨idle.enforced, idle.commands⟩ }, Or.inr (Or.inl rfl)⟩
    | false =>
      have left : { s with manualmode := false }.Formed limit :=
        { formed with idle := ⟨idle.enforced, idle.commands⟩ }
      rw [respond]
      split
      · exact left.settle
      · exact attainable
  | safeModeReq wanted =>
    cases wanted with
    | true => exact attainable_forced formed
    | false =>
      rw [respond]
      split
      · exact formed.unsafed.settle
      · exact attainable
  | leopReq leop =>
    exact ⟨{ formed with idle := ⟨idle.enforced, idle.commands⟩ }, attainable.covered⟩
  | payloadReq | controlMessage => exact attainable

private theorem mem_rules {target : State} (mem : .triggerMeasuring ∈ s.autonomousRules target) :
    s.batteryTreshold ≠ 65535 := by
  intro top
  have triggered : Action.triggerMeasuring ∈ s.measuringRule target := by
    unfold autonomousRules at mem
    split at mem
    · rcases List.mem_append.mp mem with early | adcs
      · rcases List.mem_append.mp early with emergency | measuring
        · unfold emergencyRules at emergency
          split at emergency
          · simp at emergency
          · split at emergency <;> simp at emergency
        · exact measuring
      · unfold adcsRules detumblingRule sunpointingRule at adcs
        split at adcs
        · rcases List.mem_append.mp adcs with detumbling | sunpointing
          · split at detumbling <;> simp at detumbling
          · split at sunpointing <;> simp at sunpointing
        · cases adcs
    · cases mem
  unfold measuringRule at triggered
  split at triggered
  · rename_i due
    have more := due.2.1
    rw [top] at more
    exact absurd (level_le s.eps.batteryLevel) (UInt16.not_le.mpr more)
  · cases triggered

private theorem mem_orders (mem : .triggerMeasuring ∈ s.orders e) : s.batteryTreshold ≠ 65535 := by
  have rules (s' target : State) (same : s'.batteryTreshold = s.batteryTreshold)
      (due : .triggerMeasuring ∈ s'.autonomousRules target) : s.batteryTreshold ≠ 65535 := by
    rw [← same]
    exact mem_rules due
  cases e with
  | manualModeReq wanted =>
    cases wanted with
    | true =>
      rcases List.mem_append.mp mem with enters | due
      · split at enters <;> simp at enters
      · exact rules s _ rfl due
    | false =>
      rw [orders] at mem
      split at mem
      · rcases List.mem_append.mp mem with due | leaves
        · exact rules { s with manualmode := false } _ rfl due
        · simp at leaves
      · exact rules s _ rfl mem
  | safeModeReq wanted =>
    cases wanted with
    | true =>
      rcases List.mem_cons.mp mem with enters | due
      · cases enters
      · exact rules s _ rfl due
    | false =>
      rw [orders] at mem
      split at mem
      · rcases List.mem_append.mp mem with due | leaves
        · exact rules { s with safemode := 0 } _ rfl due
        · simp at leaves
      · exact rules s _ rfl mem
  | leopReq leop =>
    rw [orders] at mem
    split at mem
    · rcases List.mem_append.mp mem with due | last
      · exact rules { s with leop := leop } _ rfl due
      · rcases List.mem_cons.mp last with finishes | due
        · cases finishes
        · exact rules s _ rfl due
    · exact rules { s with leop := leop } _ rfl mem
  | payloadReq wanted => exact rules s _ rfl mem
  | controlMessage message =>
    rcases List.mem_cons.mp mem with command | due
    · cases command
    · exact rules s _ rfl due
  | thmSignal | epsSignal | adcsSignal | adcsReqSignal | payloadSignal | leopSignal
  | maneuverModeSignal | manualModeSignal | safeModeSignal =>
    exact rules (Event.update _ s) _ rfl mem

theorem conclude_leaveManualMode (s : State) (success : Bool) :
    s.conclude .leaveManualMode success = if s.safemode ≠ 0 then s.reassert else (s, []) := rfl

private theorem attainable_conclude (attainable : s.Attainable limit)
    (room : a = .triggerMeasuring → limit ≠ 65535) (success : Bool) :
    (s.conclude a success).1.Attainable limit := by
  have formed := attainable.toFormed
  have idle := formed.idle
  cases a with
  | enterSafeMode reason =>
    cases success with
    | true => exact attainable
    | false => exact formed.unsafed.settle
  | leaveManualMode =>
    rw [conclude_leaveManualMode]
    split
    · rw [reassert]
      split
      · exact formed.unsafed.settle
      · exact attainable_forced formed.unsafed
    · exact attainable
  | triggerDetumbling =>
    cases success with
    | false => exact attainable
    | true =>
      have asked : (Event.update (.adcsReqSignal .detumb) s).Formed limit :=
        { formed with
          idle := ⟨idle.enforced, idle.commands⟩
          adcs := Or.inr ⟨rfl, Or.inl rfl⟩ }
      exact asked.settle
  | triggerSunpointing =>
    cases success with
    | false => exact attainable
    | true =>
      have asked : (Event.update (.adcsReqSignal .sun) s).Formed limit :=
        { formed with
          idle := ⟨idle.enforced, idle.commands⟩
          adcs := Or.inr ⟨rfl, Or.inr rfl⟩ }
      exact asked.settle
  | triggerMeasuring =>
    cases success with
    | false => exact attainable
    | true =>
      have begun : (Event.update (.payloadSignal .measuring) s).Formed limit :=
        { formed with
          idle := ⟨idle.enforced, idle.commands⟩
          daemon := DaemonState.noConfusion
          measuring := fun _ => room rfl }
      exact begun.settle
  | shellCommand | enterManualMode | leaveSafeMode | finishLEOP => exact attainable

private theorem mem_conclude {success : Bool}
    (mem : .triggerMeasuring ∈ (s.conclude a success).2) : s.batteryTreshold ≠ 65535 := by
  cases a with
  | enterSafeMode reason =>
    cases success with
    | true => cases mem
    | false => exact mem_orders (e := .safeModeSignal 0) mem
  | leaveManualMode =>
    rw [conclude_leaveManualMode] at mem
    split at mem
    · rcases List.mem_cons.mp mem with enters | due
      · cases enters
      · exact mem_rules (s := { s with safemode := 0 }) due
    · cases mem
  | triggerDetumbling =>
    cases success with
    | false => cases mem
    | true => exact mem_orders (e := .adcsReqSignal .detumb) mem
  | triggerSunpointing =>
    cases success with
    | false => cases mem
    | true => exact mem_orders (e := .adcsReqSignal .sun) mem
  | triggerMeasuring =>
    cases success with
    | false => cases mem
    | true => exact mem_orders (e := .payloadSignal .measuring) mem
  | shellCommand | enterManualMode | leaveSafeMode | finishLEOP => cases mem

structure Attained (limit : UInt16) (c : Flat) : Prop where
  state : c.state.Attainable limit
  room : .triggerMeasuring ∈ c.running → limit ≠ 65535

private theorem attained_answered {running : Multiset Action} {answer : State × List Action}
    (state : answer.1.Attainable limit)
    (held : .triggerMeasuring ∈ running → limit ≠ 65535)
    (more : .triggerMeasuring ∈ answer.2 → limit ≠ 65535) :
    Attained limit (Flat.answered running answer).1 := by
  refine ⟨state, fun mem => ?_⟩
  rcases Multiset.mem_add.mp mem with before | started
  · exact held before
  · exact more (Multiset.mem_coe.mp started)

theorem attained_step (c : Flat) (input : Flat.Input) (c' : Flat) (attained : Attained limit c)
    (step : FlatStep c input c') : Attained limit c' := by
  obtain ⟨⟨orders, answers⟩, deliverable⟩ := step
  have treshold := attained.state.treshold
  cases input with
  | event e =>
    rw [Flat.next] at answers
    split at answers
    · obtain ⟨rfl, _⟩ := Prod.mk.inj (Option.some.inj answers)
      apply attained_answered (attainable_respond attained.state (deliverable e rfl)) attained.room
      rw [← treshold]
      exact mem_orders
    · cases answers
  | exited action exitStatus termSignal =>
    rw [Flat.next] at answers
    split at answers
    · rename_i known
      have room (same : action = .triggerMeasuring) : limit ≠ 65535 := by
        rw [same] at known
        exact attained.room known
      have held (mem : .triggerMeasuring ∈ c.running.erase action) : limit ≠ 65535 :=
        attained.room (Multiset.mem_of_mem_erase mem)
      dsimp only at answers
      split at answers
      · obtain ⟨rfl, _⟩ := Prod.mk.inj (Option.some.inj answers)
        apply attained_answered (attainable_conclude attained.state room _) held
        rw [← treshold]
        exact mem_conclude
      · obtain ⟨rfl, _⟩ := Prod.mk.inj (Option.some.inj answers)
        exact attained_answered attained.state held (fun mem => by cases mem)
    · cases answers

private theorem new_attained
    (args : Arguments) : Attained args.batteryTreshold (Flat.new args) := by
  have steady := Satellite.new_steady args
  refine ⟨⟨⟨rfl, steady.idle, ?_, ?_, Or.inl rfl, ?_, ?_⟩, steady.covered⟩, ?_⟩
  · exact UInt8.zero_le
  · intro two
    cases two
  · exact DaemonState.noConfusion
  · exact fun measuring => DaemonState.noConfusion measuring
  · intro mem
    cases Multiset.notMem_zero _ mem

private theorem daemon_settle (s : State) : s.settle.pl.daemon = s.pl.daemon := by
  by_cases urgent : s.Urgent
  · rw [settle_of_urgent urgent]
    rfl
  · rw [settle_of_not_urgent urgent]

private theorem on_respond (deliverable : Deliverable e) (on : s.pl.daemon ≠ .off) :
    (s.respond e).pl.daemon ≠ .off := by
  cases e with
  | thmSignal | epsSignal | adcsSignal | maneuverModeSignal =>
    rw [respond_fact deliverable rfl, daemon_settle]
    exact on
  | payloadSignal payload =>
    rw [respond_fact deliverable rfl, daemon_settle]
    obtain rfl : payload = .idle := deliverable
    exact DaemonState.noConfusion
  | adcsReqSignal | leopSignal | manualModeSignal | safeModeSignal => exact deliverable.elim
  | manualModeReq wanted | safeModeReq wanted =>
    cases wanted with
    | true => exact on
    | false =>
      rw [respond]
      split
      · rw [daemon_settle]
        exact on
      · exact on
  | leopReq | payloadReq | controlMessage => exact on

private theorem on_conclude {success : Bool} (on : s.pl.daemon ≠ .off) :
    (s.conclude a success).1.pl.daemon ≠ .off := by
  have told (f : Event) (same : (f.update s).pl.daemon ≠ .off) :
      (s.note f).1.pl.daemon ≠ .off := by
    rw [note, daemon_settle]
    exact same
  cases a with
  | enterSafeMode reason =>
    cases success with
    | true => exact on
    | false => exact told (.safeModeSignal 0) on
  | leaveManualMode =>
    rw [conclude_leaveManualMode]
    split
    · rw [reassert]
      split
      · rw [daemon_settle]
        exact on
      · exact on
    · exact on
  | triggerDetumbling =>
    cases success with
    | false => exact on
    | true => exact told (.adcsReqSignal .detumb) on
  | triggerSunpointing =>
    cases success with
    | false => exact on
    | true => exact told (.adcsReqSignal .sun) on
  | triggerMeasuring =>
    cases success with
    | false => exact on
    | true => exact told (.payloadSignal .measuring) DaemonState.noConfusion
  | shellCommand | enterManualMode | leaveSafeMode | finishLEOP => exact on

private theorem on_step (c : Flat) (input : Flat.Input) (c' : Flat) (on : c.state.pl.daemon ≠ .off)
    (step : FlatStep c input c') : c'.state.pl.daemon ≠ .off := by
  obtain ⟨⟨orders, answers⟩, deliverable⟩ := step
  cases input with
  | event e =>
    rw [Flat.next] at answers
    split at answers
    · obtain ⟨rfl, _⟩ := Prod.mk.inj (Option.some.inj answers)
      exact on_respond (deliverable e rfl) on
    · cases answers
  | exited action exitStatus termSignal =>
    rw [Flat.next] at answers
    split at answers
    · dsimp only at answers
      split at answers
      · obtain ⟨rfl, _⟩ := Prod.mk.inj (Option.some.inj answers)
        exact on_conclude on
      · obtain ⟨rfl, _⟩ := Prod.mk.inj (Option.some.inj answers)
        exact on
    · cases answers

namespace DBusConnection

section Spawning

variable {uvSpawn : Script → ℕ → Bool} (spawns : ∀ script j, uvSpawn script j = true)
  {sat sat' : Satellite}
include spawns

theorem flatStep_of_step {input : Horst.Input} (steady : sat.currentState.Steady)
    (step : SatelliteStep uvSpawn sat input sat') : FlatStep sat.flat input.flat sat'.flat := by
  obtain ⟨step, deliverable⟩ := step
  obtain ⟨orders, answers, _⟩ := (Satellite.refines_flat spawns).forth _ _ _ steady step
  refine ⟨⟨orders, answers⟩, fun e same => ?_⟩
  cases input with
  | event e' =>
    obtain rfl := Flat.Input.event.inj same
    exact deliverable e' rfl
  | exited => cases same

theorem reachable_flat {J : Flat → Prop}
    (kept : ∀ c input c', J c → FlatStep c input c' → J c') (steady : sat.currentState.Steady)
    (start : J sat.flat) (reachable : Reachable (SatelliteStep uvSpawn) sat sat') :
    J sat'.flat := by
  have both : sat'.currentState.Steady ∧ J sat'.flat := by
    refine reachable.invariant (I := fun sat => sat.currentState.Steady ∧ J sat.flat)
      ⟨steady, start⟩ ?_
    rintro sat input sat' ⟨steady, holds⟩ step
    exact ⟨Satellite.step_steady _ _ _ steady step.1,
      kept _ _ _ holds (flatStep_of_step spawns steady step)⟩
  exact both.2

private theorem reachable_of_goes {t : State} (steady : sat.currentState.Steady)
    (goes : Goes sat.currentState t) :
    ∃ sat', Reachable (SatelliteStep uvSpawn) sat sat' ∧ sat'.currentState = t := by
  obtain ⟨c, reaches, rfl⟩ := goes sat.flat rfl
  have back (sat : Satellite) (input : Flat.Input) (c : Flat) (steady : sat.currentState.Steady)
      (step : FlatStep sat.flat input c) :
      ∃ sat', Reachable (SatelliteStep uvSpawn) sat sat' ∧ sat'.flat = c ∧
        sat'.currentState.Steady := by
    obtain ⟨⟨orders, answers⟩, deliverable⟩ := step
    obtain ⟨i, sat', rfl, step⟩ := (Satellite.refines_flat spawns).back _ _ _ steady answers
    obtain ⟨orders', answers', _⟩ := (Satellite.refines_flat spawns).forth _ _ _ steady step
    obtain ⟨rfl, _⟩ := Prod.mk.inj (Option.some.inj (answers.symm.trans answers'))
    have allowed : SatelliteStep uvSpawn sat i sat' := by
      refine ⟨step, fun e same => deliverable e ?_⟩
      rw [same]
      rfl
    exact ⟨sat', ⟨_, Run.nil.snoc allowed⟩, rfl, Satellite.step_steady _ _ _ steady step⟩
  obtain ⟨sat', reached, same, _⟩ := Reachable.lift
    (I := fun sat : Satellite => sat.currentState.Steady) Satellite.flat steady back reaches
  exact ⟨sat', reached, congrArg Flat.state same⟩

end Spawning

theorem attained_of_reachable {platform : Platform} {failsAt : ℕ → Bool}
    {uvSpawn : Script → ℕ → Bool} (spawns : ∀ script j, uvSpawn script j = true)
    {args : Arguments} {c : DBusConnection}
    (reached : Reachable (Step platform failsAt uvSpawn) (new (Satellite.new args false)) c) :
    c.satellite.currentState.Steady ∧ Attained args.batteryTreshold c.satellite.flat := by
  obtain ⟨ts, run⟩ := reached
  obtain ⟨us, satellites, _⟩ := run_satellite run
  constructor
  · exact satellites.invariant (I := fun sat => sat.currentState.Steady)
      (Satellite.new_steady args) fun _ _ _ steady step =>
        Satellite.step_steady _ _ _ steady step.1
  · exact reachable_flat spawns attained_step (Satellite.new_steady args) (new_attained args)
      satellites.reachable

/-- With every script started, the messages and the ends of the scripts bring the program, from
wherever it is and with nothing waiting, exactly into these states. There is no state that
it cannot leave, and only a payload that is off is not seen again. -/
theorem states_reached_iff (platform : Platform) (uvSpawn : Script → ℕ → Bool)
    (spawns : ∀ script j, uvSpawn script j = true) (args : Arguments) (c : DBusConnection)
    (reached : Reachable (Step platform (fun _ => false) uvSpawn)
      (new (Satellite.new args false)) c) (idle : c.pending = []) (t : State) :
    (∃ c', Reachable (Step platform (fun _ => false) uvSpawn) c c' ∧
      c'.satellite.currentState = t) ↔
      t.Attainable args.batteryTreshold ∧
        (t.pl.daemon = .off → c.satellite.currentState.pl.daemon = .off) := by
  obtain ⟨steady, here⟩ := attained_of_reachable spawns reached
  constructor
  · rintro ⟨c', reaches, rfl⟩
    have after := (reachable_iff idle c'.satellite).mp ⟨c', reaches, rfl⟩
    have attained : Attained args.batteryTreshold c'.satellite.flat :=
      reachable_flat spawns attained_step steady here after
    refine ⟨attained.state, fun off => ?_⟩
    by_contra on
    exact reachable_flat spawns on_step steady on after off
  · rintro ⟨attainable, off⟩
    have goes : Goes c.satellite.currentState t :=
      goes_attainable here.state.treshold steady.idle attainable off
    obtain ⟨sat, reaches, same⟩ := reachable_of_goes spawns steady goes
    obtain ⟨c', reaches', rfl⟩ := (reachable_iff idle sat).mpr reaches
    exact ⟨c', reaches', same⟩

/-- A measurement in safemode, with a low battery and the sun asked for. -/
theorem states_reached_iff_low :
    ∃ c, Reachable (Step ⟨false, []⟩ (fun _ => false) fun _ _ => true)
        (new (Satellite.new {} false)) c ∧
      c.satellite.currentState = { (Satellite.new {} false).currentState with
        safemode := 2, eps := ⟨7⟩, pl := ⟨.measuring⟩, adcs := ⟨.none, .sun⟩ } := by
  refine (states_reached_iff ⟨false, []⟩ (fun _ _ => true) (fun _ _ => rfl) {}
    (new (Satellite.new {} false)) reachable_refl rfl _).mpr ⟨?_, DaemonState.noConfusion⟩
  have top : (30 : UInt16) ≠ 65535 := by decide
  refine ⟨⟨rfl, ⟨rfl, rfl⟩, ?_, fun _ => ?_, Or.inr ⟨rfl, Or.inr rfl⟩, ?_, fun _ => top⟩, ?_⟩
  · exact show (2 : UInt8) ≤ 3 by decide
  · exact show (30 : UInt16) ≠ 0 by decide
  · exact DaemonState.noConfusion
  · exact Or.inl (show (2 : UInt8) ≠ 0 by decide)

end DBusConnection

end Dbus

end Horst
