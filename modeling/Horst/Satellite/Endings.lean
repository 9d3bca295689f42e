import Horst.Satellite.Reports

/-!
How scripts end, as `util::exec` learns it from the wait status and the exit callback
from libuv, and what the program takes for a success. The process that ends is the `sh -c`
that `popen` or `uv_spawn` starts for the script.
-/

set_option autoImplicit false
set_option relaxedAutoImplicit false

namespace Horst

open Foundation Foundation.Nested

/-- A signal that can end a process. In a wait status, 127 stands for a stopped one. -/
structure Signal where
  number : ℕ
  positive : 0 < number
  small : number < 127
  deriving DecidableEq, Repr

/-- How the `sh -c` of a script ends: by itself, by a signal, or by not being started in the
first place. -/
inductive Ending
  | exited (status : UInt8)
  | killed (signal : Signal) (core : Bool)
  | unstarted
  deriving DecidableEq, Repr

/-- The wait status that `pclose` returns; none where `popen` fails. -/
def Ending.waitStatus : Ending → Option ℕ
  | .exited status => some (status.toNat * 256)
  | .killed signal core => some (signal.number + if core then 128 else 0)
  | .unstarted => none

/-- What libuv hands to the exit callback; none where `uv_spawn` fails. -/
def Ending.exitPair : Ending → Option (Int × Int)
  | .exited status => some (status.toNat, 0)
  | .killed signal _ => some (0, signal.number)
  | .unstarted => none

def wexitstatus (status : ℕ) : ℕ := status / 256 % 256

/-- `util::exec`. -/
def Util.exec (ending : Ending) : ℕ :=
  let exit := match ending.waitStatus with
    | some status => status
    | none => 100
  wexitstatus exit

/-- The LEOP sequence that `horst::run` sets after `check_leop.sh`. -/
def leopAtStart (check : Ending) : LeopSeq :=
  match Util.exec check with
  | 0 => .done
  | 1 => .undeployed
  | _ => .deployed

/-- `horst::run`: the satellite that it constructs, and whether it warns that
`startup.sh` has failed. -/
def run (args : Arguments) (enforced : Bool) (check startup : Ending) :
    Satellite × Bool :=
  (Satellite.new { args with leop := leopAtStart check } enforced, Util.exec startup != 0)

/-- The callback is the one for this ending of a script. -/
def Input.EndsWith (input : Input) (child : Child) (ending : Ending) : Prop :=
  ∃ exitStatus termSignal, input = .exited child exitStatus termSignal ∧
    ending.exitPair = some (exitStatus, termSignal)

namespace Satellite

def Reported (ts : List (Transition Satellite Input)) : Prop :=
  ∀ t ∈ ts, ∀ child exitStatus termSignal, t.label = .exited child exitStatus termSignal →
    ∃ ending, t.label.EndsWith child ending

def entries (t : Transition Satellite Input) : List LogEntry :=
  t.target.log.drop t.source.log.length

/-- The callback of an action was called with `success` true. -/
def Succeeds (t : Transition Satellite Input) (id : ℕ) : Prop :=
  LogEntry.finished id true ∈ entries t

def PutsBack (t : Transition Satellite Input) : Prop :=
  ∃ s, LogEntry.event (.safeModeSignal 0) s ∈ entries t

/-- Success means a clean exit, for the scripts at the start and for those of the actions. -/
structure CleanExits (check startup : Ending) (ts : List (Transition Satellite Input)) : Prop where
  checkLeop : Util.exec check = 0 ↔ check = .exited 0
  startUp : Util.exec startup = 0 ↔ startup = .exited 0
  leop : leopAtStart check = .done ↔ check = .exited 0
  scripts : ∀ t ∈ ts, ∀ id, Succeeds t id ↔ ∃ child, child.id = id ∧ t.label.EndsWith child (.exited 0)
  safemode : ∀ t ∈ ts, ∀ child reason ending, child.action = .enterSafeMode reason →
    t.label.EndsWith child ending → ending ≠ .exited 0 → PutsBack t
  requests : ∀ t ∈ ts, ∀ child ending, t.label.EndsWith child ending → ending ≠ .exited 0 →
    t.target.currentState.adcs = t.source.currentState.adcs ∧
      t.target.currentState.pl = t.source.currentState.pl

/-- The scripts at the start exit by themselves, no script of an action is killed by a
signal other than SIGTERM, and `enter_safemode.sh` not even by SIGTERM. -/
structure Unkilled (check startup : Ending) (ts : List (Transition Satellite Input)) : Prop where
  checkLeop : ∃ status, check = .exited status
  startUp : ∃ status, startup = .exited status
  scripts : ∀ t ∈ ts, ∀ child signal core, t.label.EndsWith child (.killed signal core) →
    (signal.number : Int) = SIGTERM ∧ ∀ reason, child.action ≠ .enterSafeMode reason

private theorem exec_exited (status : UInt8) : Util.exec (.exited status) = status.toNat := by
  have small := status.toNat_lt
  change status.toNat * 256 / 256 % 256 = status.toNat
  omega

private theorem exec_killed
    (signal : Signal) (core : Bool) : Util.exec (.killed signal core) = 0 := by
  have small := signal.small
  change (signal.number + if core then 128 else 0) / 256 % 256 = 0
  split <;> omega

private theorem exec_unstarted : Util.exec .unstarted = 0 := rfl

private theorem exec_iff (ending : Ending) :
    (Util.exec ending = 0 ↔ ending = .exited 0) ↔ ∃ status, ending = .exited status := by
  cases ending with
  | exited status =>
    apply iff_of_true
    · rw [exec_exited]
      constructor
      · intro zero
        have same : status = 0 := UInt8.toNat_inj.mp zero
        rw [same]
      · intro same
        cases same
        rfl
    · exact ⟨status, rfl⟩
  | killed signal core =>
    apply iff_of_false
    · intro clean
      cases clean.mp (exec_killed signal core)
    · rintro ⟨_, same⟩
      cases same
  | unstarted =>
    apply iff_of_false
    · intro clean
      cases clean.mp exec_unstarted
    · rintro ⟨_, same⟩
      cases same

private theorem leopAtStart_iff
    (check : Ending) : leopAtStart check = .done ↔ Util.exec check = 0 := by
  unfold leopAtStart
  split
  · rename_i zero
    exact iff_of_true rfl zero
  · rename_i one
    exact iff_of_false (by decide) (by omega)
  · rename_i other _
    exact iff_of_false (by decide) other

/-- The chronicle grows, and no action is told of a success. -/
def Unfinished (sat sat' : Satellite) : Prop :=
  ∃ es, sat'.log = sat.log ++ es ∧ ∀ id, LogEntry.finished id true ∉ es

variable {uvSpawn : Script → ℕ → Bool} {sat sat₁ sat' : Satellite}

theorem Unfinished.trans (first : Unfinished sat sat₁) (second : Unfinished sat₁ sat') :
    Unfinished sat sat' := by
  obtain ⟨es₁, append₁, none₁⟩ := first
  obtain ⟨es₂, append₂, none₂⟩ := second
  refine ⟨es₁ ++ es₂, ?_, ?_⟩
  · rw [append₂, append₁, List.append_assoc]
  · intro id mem
    rcases List.mem_append.mp mem with mem | mem
    · exact none₁ id mem
    · exact none₂ id mem

private theorem unfinished_log (same : sat'.log = sat.log) : Unfinished sat sat' :=
  ⟨[], same.trans (List.append_nil _).symm, fun _ mem => by cases mem⟩

private theorem unfinished_record (sat : Satellite) (entry : LogEntry)
    (other : ∀ id, entry ≠ .finished id true) : Unfinished sat (sat.record entry) :=
  ⟨[entry], rfl, fun id mem => other id (List.mem_singleton.mp mem).symm⟩

private theorem kept_unfinished : Kept uvSpawn Scope.whole Unfinished where
  refl _ := unfinished_log rfl
  trans := Unfinished.trans
  heard sat e _ := unfinished_record sat _ fun _ h => by cases h
  unsafed _ := unfinished_log rfl
  started sat sat₁ a _ before _ := by
    have run : Unfinished sat (sat.prepared a) :=
      unfinished_record (sat.addAction a).2 _ fun _ h => by cases h
    have created : Unfinished sat₁ (sat₁.created sat.nextId a true) :=
      unfinished_record sat₁ _ fun _ h => by cases h
    have started : Unfinished (sat₁.created sat.nextId a true)
        ((sat₁.created sat.nextId a true).started sat.nextId a) := unfinished_log rfl
    exact run.trans (before.trans (created.trans started))
  failed sat sat₁ sat₂ a _ before _ after := by
    have run : Unfinished sat (sat.prepared a) :=
      unfinished_record (sat.addAction a).2 _ fun _ h => by cases h
    have created : Unfinished sat₁ (sat₁.created sat.nextId a false) :=
      unfinished_record sat₁ _ fun _ h => by cases h
    have exited := unfinished_record (sat₁.created sat.nextId a false)
      (.exited sat.nextId a (-1)) fun _ h => by cases h
    have freed : Unfinished sat₂ (sat₂.freed sat.nextId false) :=
      unfinished_record sat₂ _ fun _ h => by cases h
    exact run.trans (before.trans (created.trans (exited.trans (after.trans freed))))

private theorem unfinished_event {n : ℕ} {e : Event}
    (h : sat.callback (onEvent uvSpawn n) (.event e) = some sat') : Unfinished sat sat' := by
  have kept : Kept uvSpawn Scope.whole Unfinished := kept_unfinished
  have woken : Unfinished sat (sat.record (.callback sat.currentState)) :=
    unfinished_record sat _ fun _ h => by cases h
  exact woken.trans (kept.call n trivial h)

private theorem Unfinished.not_succeeds {input : Input} (quiet : Unfinished sat sat') (id : ℕ) :
    ¬ Succeeds ⟨sat, input, sat'⟩ id := by
  obtain ⟨es, append, none⟩ := quiet
  unfold Succeeds entries
  rw [append, List.drop_left]
  exact none id

private theorem script_exited {n : ℕ} {child : Child} {exitStatus termSignal : Int}
    (survived : termSignal ≠ SIGTERM)
    (h : sat.callback (onEvent uvSpawn n) (.exited child exitStatus termSignal) = some sat') :
    (∀ id, Succeeds ⟨sat, .exited child exitStatus termSignal, sat'⟩ id ↔
        child.id = id ∧ exitStatus = 0) ∧
      ∀ reason, child.action = .enterSafeMode reason → exitStatus ≠ 0 →
        PutsBack ⟨sat, .exited child exitStatus termSignal, sat'⟩ := by
  have kept : Kept uvSpawn Scope.whole Unfinished := kept_unfinished
  unfold callback at h
  simp only [survived, ne_eq, not_false_eq_true, if_true] at h
  set told := ((sat.record (.callback sat.currentState)).ended child).record
    (.exited child.id child.action exitStatus) with htold
  have early : told.log = sat.log ++ [.callback sat.currentState,
      .exited child.id child.action exitStatus] := List.append_assoc _ _ _
  obtain ⟨sat₁, done, last⟩ := Option.bind_eq_some_iff.mp h
  change child.action.done (onEvent uvSpawn n) (exitStatus = 0) told = some sat₁ at done
  have log : sat'.log = sat₁.log ++ [.finished child.id (exitStatus = 0)] := by
    rw [← Option.some.inj last]
    rfl
  constructor
  · intro id
    obtain ⟨es, append, none⟩ := (kept.told told child.action _).trans (kept.done n done)
    unfold Succeeds entries
    rw [log, append, early, List.append_assoc, List.append_assoc, List.drop_left]
    constructor
    · intro mem
      rcases List.mem_append.mp mem with first | rest
      · simp at first
      · rcases List.mem_append.mp rest with inner | own
        · exact absurd inner (none id)
        · have same := List.mem_singleton.mp own
          injection same with same success
          exact ⟨same.symm, of_decide_eq_true success.symm⟩
    · rintro ⟨rfl, zero⟩
      apply List.mem_append_right
      apply List.mem_append_right
      rw [decide_eq_true zero]
      exact List.mem_cons_self
  · intro reason action failed
    rw [decide_eq_false failed, action] at done
    have heard : Unfinished (told.heard (.safeModeSignal 0)) sat₁ :=
      kept.call_heard n (fun _ _ => trivial) done
    obtain ⟨es, append, _⟩ := heard
    have first : (told.heard (.safeModeSignal 0)).log =
        told.log ++ [.event (.safeModeSignal 0) told.currentState] := rfl
    refine ⟨told.currentState, ?_⟩
    unfold entries
    rw [log, append, first, early]
    simp only [List.append_assoc, List.drop_left]
    simp

private theorem script_killed {n : ℕ} {child : Child} {exitStatus : Int}
    (h : sat.callback (onEvent uvSpawn n) (.exited child exitStatus SIGTERM) = some sat') :
    entries ⟨sat, .exited child exitStatus SIGTERM, sat'⟩ = [.callback sat.currentState] := by
  have gone : some ((sat.record (.callback sat.currentState)).ended child) = some sat' := h
  rw [← Option.some.inj gone]
  exact List.drop_left

structure CleanScript (t : Transition Satellite Input) : Prop where
  scripts : ∀ id, Succeeds t id ↔ ∃ child, child.id = id ∧ t.label.EndsWith child (.exited 0)
  safemode : ∀ child reason ending, child.action = .enterSafeMode reason →
    t.label.EndsWith child ending → ending ≠ .exited 0 → PutsBack t
  requests : ∀ child ending, t.label.EndsWith child ending → ending ≠ .exited 0 →
    t.target.currentState.adcs = t.source.currentState.adcs ∧
      t.target.currentState.pl = t.source.currentState.pl

private theorem ends_iff {child other : Child} {exitStatus termSignal : Int} {ending : Ending} :
    (Input.exited child exitStatus termSignal).EndsWith other ending ↔
      other = child ∧ ending.exitPair = some (exitStatus, termSignal) := by
  constructor
  · rintro ⟨x, g, same, pair⟩
    injection same with same₁ same₂ same₃
    subst same₁ same₂ same₃
    exact ⟨rfl, pair⟩
  · rintro ⟨rfl, pair⟩
    exact ⟨exitStatus, termSignal, rfl, pair⟩

private theorem exitPair_exited {status : UInt8} {exitStatus termSignal : Int}
    (pair : (Ending.exited status).exitPair = some (exitStatus, termSignal)) :
    exitStatus = status.toNat ∧ termSignal = 0 := by
  have same := Option.some.inj pair
  injection same with first second
  exact ⟨first.symm, second.symm⟩

private theorem exitPair_killed {signal : Signal} {core : Bool} {exitStatus termSignal : Int}
    (pair : (Ending.killed signal core).exitPair = some (exitStatus, termSignal)) :
    exitStatus = 0 ∧ termSignal = signal.number := by
  have same := Option.some.inj pair
  injection same with first second
  exact ⟨first.symm, second.symm⟩

private theorem not_ends_event (e : Event) (child : Child) (ending : Ending) :
    ¬ (Input.event e).EndsWith child ending := by
  rintro ⟨_, _, same, _⟩
  cases same

section Script

variable {child : Child} {exitStatus termSignal : Int}

private theorem ends_clean_iff (id : ℕ) :
    (∃ other : Child, other.id = id ∧
      (Input.exited child exitStatus termSignal).EndsWith other (.exited 0)) ↔
        child.id = id ∧ exitStatus = 0 ∧ termSignal = 0 := by
  constructor
  · rintro ⟨other, rfl, ends⟩
    obtain ⟨rfl, pair⟩ := ends_iff.mp ends
    exact ⟨rfl, exitPair_exited pair⟩
  · rintro ⟨rfl, rfl, rfl⟩
    exact ⟨child, rfl, ends_iff.mpr ⟨rfl, rfl⟩⟩

private theorem status_of_ends {status : UInt8} {other : Child} {ending : Ending}
    (ends : (Input.exited child status.toNat 0).EndsWith other ending) (bad : ending ≠ .exited 0) :
    other = child ∧ (status.toNat : Int) ≠ 0 := by
  obtain ⟨rfl, pair⟩ := ends_iff.mp ends
  refine ⟨rfl, ?_⟩
  intro zero
  cases ending with
  | unstarted => cases pair
  | killed signal core =>
    have number := (exitPair_killed pair).2
    have positive := signal.positive
    omega
  | exited status' =>
    have same := (exitPair_exited pair).1
    have zero : status'.toNat = 0 := by omega
    have zero : status' = 0 := UInt8.toNat_inj.mp zero
    exact bad (by rw [zero])

private theorem quiet_of_failed (h : Step uvSpawn sat (.exited child exitStatus termSignal) sat')
    (failed : ¬ Succeeded exitStatus termSignal) :
    sat'.currentState.adcs = sat.currentState.adcs ∧
      sat'.currentState.pl = sat.currentState.pl := by
  have known := reports h
  have adcs : (Input.exited child exitStatus termSignal).adcs? = none := if_neg failed
  have pl : (Input.exited child exitStatus termSignal).payload? = none := if_neg failed
  rw [known.1, known.2, adcs, pl]
  exact ⟨rfl, rfl⟩

private theorem cleanScript_event {e : Event} (h : Step uvSpawn sat (.event e) sat') :
    CleanScript ⟨sat, .event e, sat'⟩ := by
  obtain ⟨_, n, call⟩ := h
  refine ⟨?_, ?_, ?_⟩
  · intro id
    apply iff_of_false ((unfinished_event call).not_succeeds id)
    rintro ⟨child, _, ends⟩
    exact not_ends_event e child _ ends
  · intro child _ ending _ ends
    exact absurd ends (not_ends_event e child ending)
  · intro child ending ends
    exact absurd ends (not_ends_event e child ending)

private theorem cleanScript_exited {status : UInt8}
    (h : Step uvSpawn sat (.exited child status.toNat 0) sat') :
    CleanScript ⟨sat, .exited child status.toNat 0, sat'⟩ := by
  obtain ⟨_, n, call⟩ := id h
  have survived : (0 : Int) ≠ SIGTERM := by decide
  obtain ⟨succeeds, puts⟩ := script_exited survived call
  refine ⟨?_, ?_, ?_⟩
  · intro id
    refine (succeeds id).trans (Iff.trans ?_ (ends_clean_iff id).symm)
    exact ⟨fun both => ⟨both.1, both.2, rfl⟩, fun all => ⟨all.1, all.2.1⟩⟩
  · intro other reason ending action ends bad
    obtain ⟨rfl, nonzero⟩ := status_of_ends ends bad
    exact puts reason action nonzero
  · intro other ending ends bad
    obtain ⟨rfl, nonzero⟩ := status_of_ends ends bad
    exact quiet_of_failed h fun success => nonzero success.1

private theorem cleanScript_sigterm_iff (h : Step uvSpawn sat (.exited child 0 SIGTERM) sat')
    {ending : Ending} (ends : (Input.exited child 0 SIGTERM).EndsWith child ending)
    (unclean : ending ≠ .exited 0) :
    CleanScript ⟨sat, .exited child 0 SIGTERM, sat'⟩ ↔
      ∀ reason, child.action ≠ .enterSafeMode reason := by
  obtain ⟨_, n, call⟩ := id h
  have entries := script_killed call
  constructor
  · intro script reason action
    obtain ⟨s, mem⟩ := script.safemode child reason ending action ends unclean
    rw [entries] at mem
    cases List.mem_singleton.mp mem
  · intro other
    refine ⟨?_, ?_, ?_⟩
    · intro id
      apply iff_of_false
      · unfold Succeeds
        rw [entries]
        intro mem
        cases List.mem_singleton.mp mem
      · intro ended
        cases ((ends_clean_iff id).mp ended).2.2
    · intro child' reason ending action ends' _
      obtain ⟨rfl, _⟩ := ends_iff.mp ends'
      exact absurd action (other reason)
    · intro child' ending _ _
      exact quiet_of_failed h fun success => success.2 rfl

private theorem cleanScript_killed_iff {signal : Signal} {core : Bool}
    (h : Step uvSpawn sat (.exited child 0 signal.number) sat')
    (ends : (Input.exited child 0 signal.number).EndsWith child (.killed signal core)) :
    CleanScript ⟨sat, .exited child 0 signal.number, sat'⟩ ↔
      (signal.number : Int) = SIGTERM ∧ ∀ reason, child.action ≠ .enterSafeMode reason := by
  have unclean : Ending.killed signal core ≠ .exited 0 := fun same => by cases same
  by_cases sigterm : (signal.number : Int) = SIGTERM
  · rw [sigterm] at h ends ⊢
    rw [cleanScript_sigterm_iff h ends unclean]
    exact (and_iff_right rfl).symm
  · apply iff_of_false
    · intro script
      obtain ⟨_, n, call⟩ := h
      have told := ((script_exited sigterm call).1 child.id).mpr ⟨rfl, rfl⟩
      have zero := ((ends_clean_iff child.id).mp ((script.scripts child.id).mp told)).2.2
      have positive := signal.positive
      omega
    · intro spared
      exact sigterm spared.1

end Script

private theorem cleanScript_step {input : Input} (h : Step uvSpawn sat input sat')
    (libuv : ∀ child exitStatus termSignal, input = .exited child exitStatus termSignal →
      ∃ ending, input.EndsWith child ending) :
    CleanScript ⟨sat, input, sat'⟩ ↔ ∀ child signal core, input.EndsWith child (.killed signal core) →
      (signal.number : Int) = SIGTERM ∧ ∀ reason, child.action ≠ .enterSafeMode reason := by
  cases input with
  | event e =>
    apply iff_of_true (cleanScript_event h)
    intro child signal core ends
    exact absurd ends (not_ends_event e child _)
  | exited child exitStatus termSignal =>
    obtain ⟨ending, ends⟩ := libuv child exitStatus termSignal rfl
    have pair := (ends_iff.mp ends).2
    cases ending with
    | unstarted => cases pair
    | exited status =>
      obtain ⟨rfl, rfl⟩ := exitPair_exited pair
      apply iff_of_true (cleanScript_exited h)
      intro other signal core ends
      have number := (exitPair_killed (ends_iff.mp ends).2).2
      have positive := signal.positive
      omega
    | killed signal core =>
      obtain ⟨rfl, rfl⟩ := exitPair_killed pair
      rw [cleanScript_killed_iff h ends]
      constructor
      · intro spared other signal' core' ends'
        obtain ⟨rfl, pair'⟩ := ends_iff.mp ends'
        rw [← (exitPair_killed pair').2]
        exact spared
      · intro spared
        exact spared child signal core ends

/-- Over a run of the program from its start: exactly the clean exits are successes if
no script is killed, apart from actions other than `EnterSafeMode` by SIGTERM. -/
theorem cleanExits_iff (uvSpawn : Script → ℕ → Bool) (args : Arguments) (enforced : Bool)
    (check startup : Ending) {ts : List (Transition Satellite Input)}
    (run : Run (Step uvSpawn) (Horst.run args enforced check startup).1 ts sat)
    (libuv : Reported ts) : CleanExits check startup ts ↔ Unkilled check startup ts := by
  have each {t : Transition Satellite Input} (mem : t ∈ ts) :=
    cleanScript_step (run.transition mem).2 (libuv t mem)
  constructor
  · intro clean
    refine ⟨(exec_iff check).mp clean.checkLeop, (exec_iff startup).mp clean.startUp, ?_⟩
    intro t mem
    exact (each mem).mp ⟨clean.scripts t mem, clean.safemode t mem, clean.requests t mem⟩
  · intro spared
    have checkLeop := (exec_iff check).mpr spared.checkLeop
    refine ⟨checkLeop, (exec_iff startup).mpr spared.startUp, ?_, ?_, ?_, ?_⟩
    · exact (leopAtStart_iff check).trans checkLeop
    · intro t mem
      exact ((each mem).mpr (spared.scripts t mem)).scripts
    · intro t mem
      exact ((each mem).mpr (spared.scripts t mem)).safemode
    · intro t mem
      exact ((each mem).mpr (spared.scripts t mem)).requests

/-- A trigger is started at the report of an acceptable temperature, and ends in some way. -/
def triggered (ending : Int × Int) : List Input :=
  [.event (.thmSignal .ok), .exited ⟨0, .triggerDetumbling⟩ ending.1 ending.2]

private theorem reported_triggered (ending : Ending) {ts : List (Transition Satellite Input)}
    {pair : Int × Int} (ends : ending.exitPair = some pair)
    (labels : ts.map Transition.label = triggered pair) : Reported ts := by
  intro t mem child exitStatus termSignal label
  have listed : t.label ∈ triggered pair := labels ▸ List.mem_map_of_mem mem
  rw [label] at listed ⊢
  rcases List.mem_cons.mp listed with first | last
  · cases first
  · have same := List.mem_singleton.mp last
    injection same with _ status signal
    exact ⟨ending, exitStatus, termSignal, rfl, by rw [status, signal]; exact ends⟩

theorem cleanExits_iff_triggered :
    ∃ ts sat, Run (Step fun _ _ => true) (Horst.run {} false (.exited 0) (.exited 0)).1 ts sat ∧
      Reported ts ∧ ts.map Transition.label = triggered (0, 0) ∧
      (CleanExits (.exited 0) (.exited 0) ts ↔ Unkilled (.exited 0) (.exited 0) ts) := by
  obtain ⟨ts, sat, run, labels, _⟩ := exists_run (fun _ _ => true) 4
    (Horst.run {} false (.exited 0) (.exited 0)).1 (triggered (0, 0)) (fun _ => true)
    (by decide +kernel)
  have libuv := reported_triggered (.exited 0) rfl labels
  exact ⟨ts, sat, run, libuv, labels, cleanExits_iff _ _ _ _ _ run libuv⟩

def sigkill : Signal := ⟨9, by decide, by decide⟩

/-- The request of the trigger is in the state after its end. -/
def requestsDetumbling : List (Transition Satellite Input) → Bool
  | [_, t] => t.target.currentState.adcs ≠ t.source.currentState.adcs
  | _ => false

/-- A trigger that is killed counts as a success, and its request as made. -/
theorem killed_trigger_succeeds :
    ¬ ∀ (uvSpawn : Script → ℕ → Bool) (args : Arguments) (enforced : Bool)
      (check startup : Ending) (ts : List (Transition Satellite Input)) (sat : Satellite),
      Run (Step uvSpawn) (Horst.run args enforced check startup).1 ts sat → Reported ts →
        CleanExits check startup ts := by
  intro claim
  obtain ⟨ts, sat, run, labels, test⟩ :=
    exists_trace (step_of_next (fun _ _ => true) 4)
      (Horst.run {} false (.exited 0) (.exited 0)).1 (triggered (0, 9)) requestsDetumbling
      (by decide +kernel)
  have ends : (Ending.killed sigkill false).exitPair = some (0, 9) := rfl
  have clean := claim _ _ _ _ _ _ sat run (reported_triggered _ ends labels)
  obtain ⟨t₀, rest, rfl, _, labels⟩ := List.map_eq_cons_iff.mp labels
  obtain ⟨t, rest, rfl, ended, labels⟩ := List.map_eq_cons_iff.mp labels
  obtain rfl := List.map_eq_nil_iff.mp labels
  have kept := clean.requests t (by simp) ⟨0, .triggerDetumbling⟩ (.killed sigkill false)
    ⟨0, 9, ended, ends⟩ (fun same => by cases same)
  exact of_decide_eq_true test kept.1

end Satellite

end Horst
