import Horst.S3tp.Turns

/-!
The stages that the server goes through, and how long it stays without a channel.
-/

set_option autoImplicit false
set_option relaxedAutoImplicit false

namespace Horst.S3tp

open Foundation Foundation.Framing

/-- With a channel, the server waits for a command or its process runs, has ended, makes no more
callbacks, or is gone while its output is not; without one, it waits for the process to be killed
or for the next attempt. -/
inductive Stage
  | listening | running | exiting | deaf | draining | killing | retrying
  deriving DecidableEq, Repr

namespace Stage

/-- The stages that a callback can lead to from another one. -/
def diagram : List (Stage × Stage) :=
  [(listening, running), (listening, deaf), (listening, retrying), (listening, killing),
    (running, exiting), (running, killing),
    (exiting, listening), (exiting, deaf), (exiting, draining), (exiting, killing),
    (exiting, retrying),
    (deaf, killing),
    (draining, listening), (draining, running), (draining, deaf), (draining, killing),
    (draining, retrying),
    (killing, listening), (killing, retrying),
    (retrying, listening)]

end Stage

/-- The stage in which the child of a process is, with a channel. -/
def Child.stage : Child → Stage
  | .running => .running
  | .closing _ _ => .exiting
  | .unspawned | .gone => .deaf

namespace S3TPServer

def stage (srv : S3TPServer) : Stage :=
  match srv.channel, srv.process with
  | some _, some process => process.child.stage
  | some _, none => if srv.outbuf = [] then .listening else .draining
  | none, some _ => .killing
  | none, none => .retrying

def Proceeds (p q : Stage) : Prop := p = q ∨ (p, q) ∈ Stage.diagram

instance (p q : Stage) : Decidable (Proceeds p q) := inferInstanceAs (Decidable (_ ∨ _))

variable {env : Env} {srv srv' : S3TPServer} {input : Input} {process : Process}

private theorem stage_busy (up : srv.channel ≠ none) (hp : srv.process = some process) :
    srv.stage = process.child.stage := by
  obtain ⟨n, hn⟩ := Option.ne_none_iff_exists'.mp up
  rw [stage, hn, hp]

private theorem stage_idle (up : srv.channel ≠ none) (idle : srv.process = none) :
    srv.stage = if srv.outbuf = [] then .listening else .draining := by
  obtain ⟨n, hn⟩ := Option.ne_none_iff_exists'.mp up
  rw [stage, hn, idle]

private theorem stage_killing (down : srv.channel = none) (hp : srv.process = some process) :
    srv.stage = .killing := by
  rw [stage, down, hp]

private theorem stage_retrying (down : srv.channel = none) (idle : srv.process = none) :
    srv.stage = .retrying := by
  rw [stage, down, idle]

private theorem stage_idle_cases (up : srv.channel ≠ none) (idle : srv.process = none) :
    srv.stage = .listening ∨ srv.stage = .draining := by
  rw [stage_idle up idle]
  split
  · exact Or.inl rfl
  · exact Or.inr rfl

private theorem proceeds_killing (up : srv.channel ≠ none) (hp : srv.process = some process) :
    Proceeds srv.stage .killing := by
  rw [stage_busy up hp]
  generalize process.child = child
  cases child with
  | running => exact Or.inr (by decide)
  | closing => exact Or.inr (show (Stage.exiting, Stage.killing) ∈ Stage.diagram by decide)
  | unspawned | gone => exact Or.inr (show (Stage.deaf, Stage.killing) ∈ Stage.diagram by decide)

private theorem proceeds_busy (armed : srv.Armed) (up : srv.channel ≠ none)
    (hp : srv.process = some process) (called : Called env srv input srv') : Proceeds srv.stage srv'.stage := by
  have h : srv.next env input = some srv' := called.2
  have stays (up' : srv'.channel ≠ none)
      (muted : srv'.process.map Process.muted = srv.process.map Process.muted) :
      Proceeds srv.stage srv'.stage := by
    obtain ⟨new, hp', same⟩ := process_of_muted muted hp
    left
    rw [stage_busy up hp, stage_busy up' hp', (Process.eq_of_muted same).1]
  by_cases output : ∃ stdout bytes, input = .output stdout bytes
  · obtain ⟨stdout, bytes, rfl⟩ := output
    rcases readCallback_cases h with rfl | ⟨type, counts, sends⟩
    · exact Or.inl rfl
    · have busy : srv.process ≠ none := by
        rw [hp]
        exact Option.some_ne_none process
      exact stays (send_leaves counts up sends).1 (muted_send busy sends)
  · have silent : ∀ stdout bytes, input ≠ .output stdout bytes :=
      fun stdout bytes same => output ⟨stdout, bytes, same⟩
    cases effect_next hp silent h with
    | holds held _ =>
      rcases held.channel with same | dropped
      · exact stays (by rwa [same]) held.process
      · obtain ⟨new, hp', _⟩ := process_of_muted held.process hp
        rw [stage_killing dropped hp']
        exact proceeds_killing up hp
    | passes _ hp' channel _ _ =>
      left
      rw [stage_busy up hp, stage_busy (by rwa [channel]) hp', Process.child_passed]
    | @exits exitStatus signal running =>
      have hp' : (srv.exitCb exitStatus signal).process =
          some (process.exitCb exitStatus signal) := by
        rw [exitCb, hp]
        rfl
      have child : (process.exitCb exitStatus signal).child = .closing exitStatus signal := by
        rw [Process.exitCb, if_pos running]
      have up' : (srv.exitCb exitStatus signal).channel ≠ none := up
      rw [stage_busy up hp, stage_busy up' hp', running, child]
      exact Or.inr (show (Stage.running, Stage.exiting) ∈ Stage.diagram by decide)
    | @ceases exitStatus signal closing _ =>
      set ceased : S3TPServer := { srv with process := some { process with child := .gone } }
      have up' : ceased.channel ≠ none := up
      have hp' : ceased.process = some { process with child := .gone } := rfl
      rw [stage_busy up hp, stage_busy up' hp', closing]
      exact Or.inr (show (Stage.exiting, Stage.deaf) ∈ Stage.diagram by decide)
    | reports reported exits =>
      obtain ⟨process', _, hp', closing, _⟩ := reportedExit_inv reported
      obtain rfl := Option.some.inj (hp.symm.trans hp')
      have idle : srv'.process = none := process_onExit exits
      rw [stage_busy up hp, closing]
      cases down : srv'.channel with
      | none =>
        rw [stage_retrying down idle]
        exact Or.inr (show (Stage.exiting, Stage.retrying) ∈ Stage.diagram by decide)
      | some n =>
        have up' : srv'.channel ≠ none := by
          rw [down]
          exact Option.some_ne_none n
        rcases stage_idle_cases up' idle with listens | drains
        · rw [listens]
          exact Or.inr (show (Stage.exiting, Stage.listening) ∈ Stage.diagram by decide)
        · rw [drains]
          exact Or.inr (show (Stage.exiting, Stage.draining) ∈ Stage.diagram by decide)
    | abandons timer _ _ _ =>
      rw [armed.timer up] at timer
      cases timer

private theorem outbuf_of_recedes (grows : Grows srv srv') (recedes : Recedes srv srv')
    (empty : srv.outbuf = []) : srv'.outbuf = [] := by
  obtain ⟨ls, grown⟩ := grows
  have sent : srv'.sentBytes = srv.sentBytes ++ (ls.filterMap LogEntry.sent?).flatten := by
    rw [sentBytes, ← grown, List.filterMap_append, List.flatten_append]
    rfl
  have length := recedes.length_le
  rw [queuedBytes, queuedBytes, sent, empty, List.length_append, List.length_append,
    List.length_append] at length
  apply List.eq_nil_of_length_eq_zero
  rw [List.length_nil] at length
  omega

private theorem proceeds_idle (up : srv.channel ≠ none) (idle : srv.process = none)
    (called : Called env srv input srv') : Proceeds srv.stage srv'.stage := by
  have h : srv.next env input = some srv' := called.2
  have before := stage_idle_cases up idle
  cases there : srv'.channel with
  | none =>
    have after : srv'.stage = .killing ∨ srv'.stage = .retrying := by
      cases hp' : srv'.process with
      | none => exact Or.inr (stage_retrying there hp')
      | some new => exact Or.inl (stage_killing there hp')
    rcases before with first | first <;> rcases after with second | second <;>
      rw [first, second] <;> exact Or.inr (by decide)
  | some n =>
    have up' : srv'.channel ≠ none := by
      rw [there]
      exact Option.some_ne_none n
    rcases idle_next idle h with ⟨idle', recedes⟩ | ⟨command, child, started, shape, _⟩
    · rw [stage_idle up idle, stage_idle up' idle']
      by_cases empty : srv.outbuf = []
      · rw [if_pos empty, if_pos (outbuf_of_recedes (grows_next h) recedes empty)]
        exact Or.inl rfl
      · rw [if_neg empty]
        split
        · exact Or.inr (show (Stage.draining, Stage.listening) ∈ Stage.diagram by decide)
        · exact Or.inl rfl
    · obtain ⟨new, hp', muted⟩ := Option.map_eq_some_iff.mp started
      have same : new.muted.child = child := by rw [muted]
      replace same : new.child = child := same
      rw [stage_busy up' hp', same]
      rcases before with first | first <;> rcases shape with rfl | rfl <;> rw [first] <;>
        exact Or.inr (by decide)

private theorem stage_attempt {attempting : S3TPServer} (down : attempting.channel = none)
    (idle : attempting.process = none) (h : attempting.reconnect env = some srv') :
    srv'.stage = if attempting.Connects env then .listening else .retrying := by
  rcases reconnect_inv h with ⟨up, _⟩ | ⟨_, busy, _⟩ | ⟨_, _, connects, rfl⟩ | ⟨_, _, fails, rfl⟩
  · exact absurd down up
  · exact absurd idle busy
  · have up : attempting.connected.channel ≠ none := Option.some_ne_none _
    have idle' : attempting.connected.process = none := idle
    rw [if_pos connects, stage_idle up idle']
    exact if_pos rfl
  · have idle' : attempting.refused.process = none := idle
    rw [if_neg fails]
    exact stage_retrying rfl idle'

private theorem proceeds_down (down : srv.channel = none) (called : Called env srv input srv') :
    Proceeds srv.stage srv'.stage := by
  obtain ⟨comes, h⟩ := called
  cases input with
  | data _ | disconnected | bufferFull | bufferEmpty => exact absurd down comes
  | polled =>
    obtain rfl := Option.some.inj ((onS3tpEvent_eq env srv).symm.trans h)
    exact Or.inl rfl
  | output stdout bytes =>
    rcases readCallback_cases h with rfl | ⟨_, _, sends⟩
    · exact Or.inl rfl
    · obtain rfl := Option.some.inj ((send_down down).symm.trans sends)
      exact Or.inl rfl
  | exited exitStatus signal =>
    obtain rfl := Option.some.inj h
    have still : (srv.exitCb exitStatus signal).channel = none := down
    left
    cases hp : srv.process with
    | none =>
      have idle : (srv.exitCb exitStatus signal).process = none := by
        rw [exitCb, hp]
        rfl
      exact (stage_retrying down hp).trans (stage_retrying still idle).symm
    | some process =>
      have busy : (srv.exitCb exitStatus signal).process =
          some (process.exitCb exitStatus signal) := by
        rw [exitCb, hp]
        rfl
      exact (stage_killing down hp).trans (stage_killing still busy).symm
  | handleClosed =>
    cases closeCb_inv h with
    | reports _ _ _ _ exits =>
      exact absurd down (onExit_isSome_iff.mp (Option.isSome_of_eq_some exits)).1
    | same _ _ => exact Or.inl rfl
    | @gone process exitStatus hp _ _ =>
      left
      set ceased : S3TPServer := { srv with process := some { process with child := .gone } }
      have still : ceased.channel = none := down
      rw [stage_killing down hp, stage_killing still rfl]
  | timeout =>
    cases onTimer_inv h with
    | idle _ => exact Or.inl rfl
    | kill _ reconnects =>
      have still : ({ srv with timer := none } : S3TPServer).forgetProcess.channel = none := down
      rw [stage_attempt still rfl reconnects]
      cases hp : srv.process with
      | none =>
        rw [stage_retrying down hp]
        split
        · exact Or.inr (by decide)
        · exact Or.inl rfl
      | some process =>
        rw [stage_killing down hp]
        split
        · exact Or.inr (by decide)
        · exact Or.inr (by decide)
    | retry _ reconnects =>
      have still : ({ srv with timer := none } : S3TPServer).channel = none := down
      cases hp : srv.process with
      | none =>
        have idle : ({ srv with timer := none } : S3TPServer).process = none := hp
        rw [stage_attempt still idle reconnects, stage_retrying down hp]
        split
        · exact Or.inr (by decide)
        · exact Or.inl rfl
      | some process =>
        rcases reconnect_inv reconnects with ⟨up, _⟩ | ⟨_, _, rfl⟩ | ⟨_, idle, _⟩ | ⟨_, idle, _⟩
        · exact absurd down up
        · left
          rw [stage_killing down hp]
          exact (stage_killing down hp).symm
        · exact absurd (hp.symm.trans idle) (Option.some_ne_none process)
        · exact absurd (hp.symm.trans idle) (Option.some_ne_none process)

private theorem proceeds_next (armed : srv.Armed) (called : Called env srv input srv') :
    Proceeds srv.stage srv'.stage := by
  by_cases up : srv.channel ≠ none
  · cases hp : srv.process with
    | none => exact proceeds_idle up hp called
    | some process => exact proceeds_busy armed up hp called
  · exact proceeds_down (not_not.mp up) called

def scripted (sends : List SendResult) (binds spawns : List Bool) : Env where
  send n := sends.getD n .accepted
  bind n := binds.getD n true
  accept _ := true
  uvSpawn n := spawns.getD n true
  garbage _ := .NONE

def call? (env : Env) (srv : S3TPServer) (input : Input) : Option S3TPServer :=
  if srv.Comes input then srv.next env input else none

structure Play where
  env : Env
  inputs : List Input
  last : Input

def Play.shows (play : Play) (p q : Stage) : Bool :=
  (start play.env).any fun srv₀ =>
    (follow (call? play.env) play.inputs srv₀).any fun srv =>
      (call? play.env srv play.last).any fun srv' => srv.stage = p ∧ srv'.stage = q

/-- A run for each change of stage. -/
def plays : List ((Stage × Stage) × Play) :=
  let ls : Input := .data (encode .NONE [108, 115, 10])
  let full : List SendResult := [.accepted, .bufferFull, .bufferFull]
  [((.listening, .running), ⟨.fine, [], ls⟩),
    ((.listening, .deaf), ⟨scripted [] [] [false], [], ls⟩),
    ((.listening, .retrying), ⟨scripted [] [true, false] [], [], .disconnected⟩),
    ((.listening, .killing), ⟨scripted [.bufferFull, .failed] [true, false] [false], [], ls⟩),
    ((.running, .exiting), ⟨.fine, [ls], .exited 0 0⟩),
    ((.running, .killing), ⟨.fine, [ls], .disconnected⟩),
    ((.exiting, .listening), ⟨.fine, [ls, .exited 0 0], .handleClosed⟩),
    ((.exiting, .deaf), ⟨.fine, [ls, .exited 0 SIGTERM], .handleClosed⟩),
    ((.exiting, .draining), ⟨scripted full [] [], [ls, .exited 0 0], .handleClosed⟩),
    ((.exiting, .killing), ⟨.fine, [ls, .exited 0 0], .disconnected⟩),
    ((.exiting, .retrying), ⟨scripted [.accepted, .bufferFull, .failed] [true, false] [],
      [ls, .exited 0 0], .handleClosed⟩),
    ((.deaf, .killing), ⟨.fine, [ls, .exited 0 SIGTERM, .handleClosed], .disconnected⟩),
    ((.draining, .listening),
      ⟨scripted full [] [], [ls, .exited 0 0, .handleClosed], .bufferEmpty⟩),
    ((.draining, .running), ⟨scripted full [] [], [ls, .exited 0 0, .handleClosed], ls⟩),
    ((.draining, .deaf),
      ⟨scripted full [] [true, false], [ls, .exited 0 0, .handleClosed], ls⟩),
    ((.draining, .killing), ⟨scripted (full ++ [.bufferFull, .failed]) [true, false] [true, false],
      [ls, .exited 0 0, .handleClosed], ls⟩),
    ((.draining, .retrying),
      ⟨scripted full [true, false] [], [ls, .exited 0 0, .handleClosed], .disconnected⟩),
    ((.killing, .listening), ⟨.fine, [ls, .disconnected], .timeout⟩),
    ((.killing, .retrying), ⟨scripted [] [true, false] [], [ls, .disconnected], .timeout⟩),
    ((.retrying, .listening), ⟨scripted [] [false] [], [], .timeout⟩)]

private theorem plays_show : ∀ play ∈ plays, play.2.shows play.1.1 play.1.2 = true := by
  decide +kernel

/-- In the runs of the server a callback can change the stage exactly as the diagram says. -/
theorem stage_follows_iff (p q : Stage) :
    (p ≠ q ∧ ∃ env srv₀ ts srv input srv', start env = some srv₀ ∧ Run (Called env) srv₀ ts srv ∧
      Called env srv input srv' ∧ srv.stage = p ∧ srv'.stage = q) ↔ (p, q) ∈ Stage.diagram := by
  constructor
  · rintro ⟨differs, env, srv₀, ts, srv, input, srv', starts, run, called, rfl, rfl⟩
    exact (proceeds_next (armed_run starts run) called).resolve_left differs
  · intro listed
    have irreflexive : ∀ edge ∈ Stage.diagram, edge.1 ≠ edge.2 := by decide
    have listing : plays.map Prod.fst = Stage.diagram := rfl
    rw [← listing] at listed
    obtain ⟨⟨_, play⟩, mem, rfl⟩ := List.mem_map.mp listed
    have shown := plays_show _ mem
    obtain ⟨srv₀, starts, shown⟩ := (Option.any_eq_true _ _).mp shown
    obtain ⟨srv, follows, shown⟩ := (Option.any_eq_true _ _).mp shown
    obtain ⟨srv', calls, shown⟩ := (Option.any_eq_true _ _).mp shown
    obtain ⟨before, after⟩ := of_decide_eq_true shown
    obtain ⟨ts, run, _⟩ := Run.of_follow .nil follows
    have sound := called_of_eq play.env
    rw [listing] at listed
    exact ⟨irreflexive _ listed, play.env, srv₀, ts, srv, play.last, srv', starts, run.imp sound,
      sound _ _ _ calls, before, after⟩

def firings (ts : List (Transition S3TPServer Input)) : ℕ :=
  (ts.map Transition.label).countP fun input => input = .timeout

/-- A firing more is needed where the timer is set for an attempt, but a process is there. -/
def debt (srv : S3TPServer) : ℕ := if srv.process ≠ none ∧ srv.timer = some .retry then 1 else 0

private theorem debt_congr (process : srv'.process = none ↔ srv.process = none)
    (timer : srv'.timer = srv.timer) : srv'.debt = srv.debt := by
  simp only [debt, ne_eq, process, timer]

/-- From one state to another without a channel: the timer has fired a number of times, and each
attempt at a channel has failed. -/
structure Waits (env : Env) (fired : ℕ) (srv srv' : S3TPServer) : Prop where
  fired : fired + srv.binds + srv'.debt = srv'.binds + srv.debt
  failed : ∀ j, srv.binds ≤ j → j < srv'.binds → ¬ (env.bind j = true ∧ env.accept j = true)

theorem Waits.of_same (binds : srv'.binds = srv.binds) (debt : srv'.debt = srv.debt) :
    Waits env 0 srv srv' where
  fired := by
    rw [binds, debt, Nat.zero_add]
  failed j ge below := by
    rw [binds] at below
    exact absurd ge (not_le.mpr below)

theorem Waits.refused {fired : ℕ} {attempting : S3TPServer}
    (fails : ¬ attempting.Connects env) (idle : attempting.process = none)
    (binds : attempting.binds = srv.binds) (nothing : srv.debt = 0) (once : fired = 1) :
    Waits env fired srv attempting.refused where
  fired := by
    have none : attempting.refused.debt = 0 := if_neg fun both => both.1 idle
    have more : attempting.refused.binds = attempting.binds + 1 := rfl
    omega
  failed j ge below := by
    have more : attempting.refused.binds = attempting.binds + 1 := rfl
    obtain rfl : j = attempting.binds := by omega
    exact fails

private theorem waits_next
    (armed : srv.Armed) (down : srv.channel = none) (down' : srv'.channel = none)
    (called : Called env srv input srv') :
    Waits env (if input = .timeout then 1 else 0) srv srv' := by
  obtain ⟨comes, h⟩ := called
  cases input with
  | data _ | disconnected | bufferFull | bufferEmpty => exact absurd down comes
  | polled =>
    obtain rfl := Option.some.inj ((onS3tpEvent_eq env srv).symm.trans h)
    exact .of_same rfl rfl
  | output stdout bytes =>
    rcases readCallback_cases h with rfl | ⟨_, _, sends⟩
    · exact .of_same rfl rfl
    · obtain rfl := Option.some.inj ((send_down down).symm.trans sends)
      exact .of_same rfl rfl
  | exited exitStatus signal =>
    obtain rfl := Option.some.inj h
    exact .of_same rfl (debt_congr Option.map_eq_none_iff rfl)
  | handleClosed =>
    cases closeCb_inv h with
    | reports _ _ _ _ exits =>
      exact absurd down (onExit_isSome_iff.mp (Option.isSome_of_eq_some exits)).1
    | same _ _ => exact .of_same rfl rfl
    | gone hp _ _ =>
      exact .of_same rfl (debt_congr (by simp [hp]) rfl)
  | timeout =>
    rw [if_pos rfl]
    cases onTimer_inv h with
    | idle timer => exact absurd timer (armed.mpr down)
    | kill timer reconnects =>
      rcases reconnect_inv reconnects with
        ⟨up, _⟩ | ⟨_, busy, _⟩ | ⟨_, _, _, rfl⟩ | ⟨_, _, fails, rfl⟩
      · exact absurd down up
      · exact absurd rfl busy
      · cases down'
      · have nothing : srv.debt = 0 := by
          apply if_neg
          rw [timer]
          simp
        exact .refused fails rfl rfl nothing rfl
    | retry timer reconnects =>
      rcases reconnect_inv reconnects with
        ⟨up, _⟩ | ⟨_, busy, rfl⟩ | ⟨_, _, _, rfl⟩ | ⟨_, idle, fails, rfl⟩
      · exact absurd down up
      · have owed : srv.debt = 1 := if_pos ⟨busy, timer⟩
        have paid : ({ srv with timer := none } : S3TPServer).killing.debt = 0 := by
          apply if_neg
          rintro ⟨_, retries⟩
          cases retries
        refine ⟨?_, fun j ge below => absurd ge (not_le.mpr below)⟩
        rw [owed, paid]
        exact Nat.add_comm 1 _
      · cases down'
      · have nothing : srv.debt = 0 := if_neg fun both => both.1 idle
        exact .refused fails idle rfl nothing rfl

private theorem waits_run {ts : List (Transition S3TPServer Input)} (armed : srv.Armed)
    (down : srv.channel = none) (run : Run (Called env) srv ts srv')
    (still : ∀ t ∈ ts, t.target.channel = none) :
    srv'.Armed ∧ srv'.channel = none ∧ Waits env (firings ts) srv srv' := by
  induction run with
  | nil => exact ⟨armed, down, .of_same rfl rfl⟩
  | @snoc ts m m' input _ called ih =>
    obtain ⟨armedThen, downThen, waited⟩ := ih fun t mem => still t (List.mem_append_left _ mem)
    have downAfter : m'.channel = none :=
      still ⟨m, input, m'⟩ (List.mem_append_right _ List.mem_cons_self)
    have waits := waits_next armedThen downThen downAfter called
    refine ⟨(keeps_next called).armed armedThen, downAfter, ?_, fun j ge below => ?_⟩
    · have count : firings (ts ++ [⟨m, input, m'⟩]) =
          firings ts + if input = .timeout then 1 else 0 := by
        rw [firings, List.map_append, List.countP_append, List.map_singleton,
          List.countP_singleton]
        simp only [decide_eq_true_eq]
        rfl
      have before := waited.fired
      have after := waits.fired
      omega
    · by_cases earlier : j < m.binds
      · exact waited.failed j ge earlier
      · exact waits.failed j (not_lt.mp earlier) below

private theorem listening_of_up (down : srv.channel = none) (up : srv'.channel ≠ none)
    (called : Called env srv input srv') : srv'.stage = .listening := by
  have from_ : srv.stage = .killing ∨ srv.stage = .retrying := by
    cases hp : srv.process with
    | none => exact Or.inr (stage_retrying down hp)
    | some process => exact Or.inl (stage_killing down hp)
  have there : srv'.stage ≠ .killing ∧ srv'.stage ≠ .retrying := by
    cases hp : srv'.process with
    | none =>
      rw [stage_idle up hp]
      split
      · decide
      · decide
    | some process =>
      rw [stage_busy up hp]
      generalize process.child = child
      cases child with
      | running | unspawned | gone => decide
      | closing => exact show Stage.exiting ≠ .killing ∧ Stage.exiting ≠ .retrying by decide
  have edges : ∀ edge ∈ Stage.diagram, edge.1 = .killing ∨ edge.1 = .retrying →
      edge.2 = .listening ∨ edge.2 = .retrying := by decide
  rcases proceeds_down down called with same | listed
  · rw [same] at from_
    rcases from_ with kills | retries
    · exact absurd kills there.1
    · exact absurd retries there.2
  · exact (edges _ listed from_).resolve_right there.2

/-- While there is no channel, every firing of the timer is an attempt at one, but for one that may
be needed to kill a process first; so the server listens again as soon as one of them succeeds. -/
theorem recovers (env : Env) {s₀ : S3TPServer} {ts₀ ts : List (Transition S3TPServer Input)}
    (starts : start env = some s₀) (before : Run (Called env) s₀ ts₀ srv)
    (down : srv.channel = none) (run : Run (Called env) srv ts srv') (n : ℕ)
    (fires : n + 1 + srv.debt ≤ firings ts)
    (connects : ∃ j ≤ n, env.bind (srv.binds + j) = true ∧ env.accept (srv.binds + j) = true) :
    ∃ t ∈ ts, t.source.channel = none ∧ t.target.stage = .listening := by
  have armed : srv.Armed := armed_run starts before
  by_contra never
  have still : ∀ t ∈ ts, t.target.channel = none := by
    clear fires
    induction run with
    | nil => simp
    | @snoc ts m m' input prior called ih =>
      have earlier := ih fun found => by
        obtain ⟨t, mem, listens⟩ := found
        exact never ⟨t, List.mem_append_left _ mem, listens⟩
      obtain ⟨_, downThen, _⟩ := waits_run armed down prior earlier
      refine List.forall_mem_append.mpr ⟨earlier, List.forall_mem_singleton.mpr ?_⟩
      by_contra up
      exact never ⟨⟨m, input, m'⟩, List.mem_append_right _ List.mem_cons_self, downThen,
        listening_of_up downThen up called⟩
  obtain ⟨_, _, waited⟩ := waits_run armed down run still
  obtain ⟨j, small, succeeds⟩ := connects
  have fired := waited.fired
  exact waited.failed (srv.binds + j) (Nat.le_add_right _ _) (by omega) succeeds

theorem recovers_third :
    ∃ ts srv, Run (Called (scripted [] [false, false] [])) new.refused ts srv ∧
      ts.map Transition.label = [.timeout, .polled, .timeout] ∧
      ∃ t ∈ ts, t.source.channel = none ∧ t.target.stage = .listening := by
  have starts : start (scripted [] [false, false] []) = some new.refused :=
    reconnect_retry rfl rfl (by decide)
  obtain ⟨ts, srv, run, labels, _⟩ :=
    exists_run_to (called_of_eq (scripted [] [false, false] [])) new.refused
      [.timeout, .polled, .timeout] (fun _ => true) (by decide +kernel)
  refine ⟨ts, srv, run, labels, recovers _ starts .nil rfl run 1 ?_ ⟨1, le_rfl, rfl, rfl⟩⟩
  rw [firings, labels]
  decide

end S3TPServer

end Horst.S3tp
