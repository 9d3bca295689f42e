import Horst.S3tp.Wiring

/-!
The lifetime of a process object and of its handles at the event loop. A callback of a
process that was destroyed before its handles were closed runs on freed memory; nothing
is said about what happens after one.
-/

set_option autoImplicit false
set_option relaxedAutoImplicit false

namespace Horst.S3tp

open Foundation

/-- A handle is closed when its close callback runs, some time after `uv_close`. -/
inductive Handle
  | isOpen | closing | closed
  deriving DecidableEq, Repr

def Handle.close : Handle → Handle
  | .isOpen => .closing
  | handle => handle

inductive Stdio
  | stdin | stdout | stderr
  deriving DecidableEq, Repr

/-- The server with the handles of its process, or of the one that it destroyed last: the
connection on which that was started, whether its exit callback has run, the handle of the
process and those of the pipes. The orphans are processes that were destroyed while
callbacks of theirs could still come, by their connections. -/
structure Hosted where
  srv : S3TPServer
  connection : Option ℕ
  exitRan : Bool
  handle : Handle
  pipe : Stdio → Handle
  orphans : List (Option ℕ)
  sound : Bool

/-- A callback of the server, the close callback of a pipe, or a callback of an orphan. -/
inductive Happening
  | callback (input : Input)
  | pipeClosed (stream : Stdio)
  | late (orphan : ℕ)
  deriving DecidableEq, Repr

def Input.ofProcess : Input → Bool
  | .output _ _ | .exited _ _ | .handleClosed => true
  | _ => false

namespace Hosted

def hosted (srv : S3TPServer) : Hosted where
  srv := srv
  connection := none
  exitRan := false
  handle := .closed
  pipe _ := .closed
  orphans := []
  sound := true

/-- After this callback others of the process can still come: that for its exit, or the one for
its handle being closed. -/
def pending (process : Process) (input : Input) : Bool :=
  match process.child with
  | .running => true
  | .closing _ _ => decide (input ≠ .handleClosed)
  | .unspawned | .gone => false

/-- The handles after a callback, by what it has made of the process: a new one; `exit_cb`, which
closes its handle and the pipes; the close callback of its handle; its input closed; its
destruction. -/
def after (w : Hosted) (input : Input) (srv' : S3TPServer) : Hosted :=
  match w.srv.process, srv'.process with
  | none, none => { w with srv := srv' }
  | none, some _ =>
      { w with
        srv := srv'
        connection := srv'.channel
        exitRan := false
        handle := .isOpen
        pipe := fun _ => .isOpen }
  | some old, some new =>
      if old.child = .running ∧ new.child ≠ .running then
        { w with
          srv := srv'
          exitRan := true
          handle := w.handle.close
          pipe := fun stream => (w.pipe stream).close }
      else if new.child = .gone then
        { w with srv := srv', handle := .closed }
      else if old.hasIn = true ∧ new.hasIn = false then
        { w with srv := srv', pipe := Function.update w.pipe .stdin (w.pipe .stdin).close }
      else
        { w with srv := srv' }
  | some old, none =>
      { w with
        srv := srv'
        handle := if input = .handleClosed then .closed else w.handle
        orphans := if pending old input = true then w.connection :: w.orphans else w.orphans }

/-- One callback; none where it cannot come, or where the server dereferences a null channel. -/
def next (env : Env) (w : Hosted) : Happening → Option Hosted
  | .callback input =>
      if w.sound = true then (w.srv.next env input).map (w.after input) else none
  | .pipeClosed stream =>
      if w.sound = true ∧ w.pipe stream = .closing then
        some { w with pipe := Function.update w.pipe stream .closed }
      else
        none
  | .late orphan =>
      if w.sound = true ∧ orphan < w.orphans.length then some { w with sound := false } else none

def Step (env : Env) (w : Hosted) (happening : Happening) (w' : Hosted) : Prop :=
  w.next env happening = some w'

/-- The exit callback of the process has run, and its handles are closed. -/
def Finished (w : Hosted) : Prop :=
  w.exitRan = true ∧ w.handle = .closed ∧ ∀ stream, w.pipe stream = .closed

/-- The callback is an exit or output callback of a process that was started on the given
connection, living or destroyed. -/
def Delivers (t : Transition Hosted Happening) (connection : Option ℕ) : Prop :=
  (∃ input, t.label = .callback input ∧ input.ofProcess = true ∧ t.source.srv.process ≠ none ∧
      t.source.connection = connection) ∨
    ∃ orphan, t.label = .late orphan ∧ t.source.orphans[orphan]? = some connection

/-- A process is destroyed only when it is finished, and no callback of a process comes during
a later connection. -/
structure Orderly (t : Transition Hosted Happening) : Prop where
  destroyed : t.source.srv.process ≠ none → t.target.srv.process = none → t.target.Finished
  delivered : ∀ connection, Delivers t connection →
    ∀ n, t.source.srv.channel = some n → connection = some n

/-- The timer that kills a process comes only when that is gone and its pipes are closed, and the
close callback that reports its end only when its pipes are closed. -/
structure Patient (t : Transition Hosted Happening) : Prop where
  killed : t.label = .callback .timeout → t.source.srv.timer = some .kill →
    ∀ process, t.source.srv.process = some process →
      process.child = .gone ∧ ∀ stream, t.source.pipe stream = .closed
  reported : t.label = .callback .handleClosed → t.source.srv.reportedExit ≠ none →
    ∀ stream, t.source.pipe stream = .closed

variable {env : Env} {w w' : Hosted} {srv' : S3TPServer} {old new : Process} {input : Input}

def Stage (w : Hosted) : Child → Prop
  | .unspawned | .running => w.handle = .isOpen
  | .closing _ _ => w.exitRan = true ∧ w.handle = .closing
  | .gone => w.exitRan = true ∧ w.handle = .closed

structure Settled (w : Hosted) : Prop where
  known : S3TPServer.Known 0 w.srv
  orphans : w.orphans = []
  current : w.srv.process ≠ none → ∀ n, w.srv.channel = some n → w.connection = some n
  stage : ∀ process, w.srv.process = some process → w.Stage process.child

section After

theorem srv_after : (w.after input srv').srv = srv' := by
  rw [after]
  split
  · rfl
  · rfl
  · split
    · rfl
    · split
      · rfl
      · split
        · rfl
        · rfl
  · rfl

theorem after_end (hp : w.srv.process = some old) (idle : srv'.process = none) :
    w.after input srv' =
      { w with
        srv := srv'
        handle := if input = .handleClosed then .closed else w.handle
        orphans := if pending old input = true then w.connection :: w.orphans else w.orphans } := by
  rw [after, hp, idle]

variable (input) in
private theorem after_kept (hp : w.srv.process = some old) (hp' : srv'.process = some new) :
    (w.after input srv').connection = w.connection ∧ (w.after input srv').orphans = w.orphans := by
  rw [after, hp, hp']
  dsimp only
  split
  · exact ⟨rfl, rfl⟩
  · split
    · exact ⟨rfl, rfl⟩
    · split
      · exact ⟨rfl, rfl⟩
      · exact ⟨rfl, rfl⟩

variable (input) in
private theorem after_same (hp : w.srv.process = some old) (hp' : srv'.process = some new)
    (child : new.child = old.child) :
    (w.after input srv').exitRan = w.exitRan ∧
      (w.after input srv').handle = if new.child = .gone then .closed else w.handle := by
  have runsOn : ¬ (old.child = .running ∧ new.child ≠ .running) := by
    rw [child]
    exact fun both => both.2 both.1
  rw [after, hp, hp']
  dsimp only
  rw [if_neg runsOn]
  by_cases gone : new.child = .gone
  · rw [if_pos gone, if_pos gone]
    exact ⟨rfl, rfl⟩
  · rw [if_neg gone, if_neg gone]
    split
    · exact ⟨rfl, rfl⟩
    · exact ⟨rfl, rfl⟩

variable (input) in
private theorem after_exit (hp : w.srv.process = some old) (hp' : srv'.process = some new)
    (running : old.child = .running) (ended : new.child ≠ .running) :
    (w.after input srv').exitRan = true ∧ (w.after input srv').handle = w.handle.close := by
  rw [after, hp, hp']
  dsimp only
  rw [if_pos ⟨running, ended⟩]
  exact ⟨rfl, rfl⟩

variable (input) in
private theorem after_gone (hp : w.srv.process = some old) (hp' : srv'.process = some new)
    (ended : old.child ≠ .running) (gone : new.child = .gone) :
    (w.after input srv').exitRan = w.exitRan ∧ (w.after input srv').handle = .closed := by
  rw [after, hp, hp']
  dsimp only
  rw [if_neg (fun both => ended both.1), if_pos gone]
  exact ⟨rfl, rfl⟩

end After

section Settled

variable (settled : Settled w)
include settled

theorem Settled.delivered {t : Transition Hosted Happening} (source : t.source = w)
    (connection : Option ℕ) (delivers : Delivers t connection) (n : ℕ)
    (up : t.source.srv.channel = some n) : connection = some n := by
  rw [source] at up
  rcases delivers with ⟨_, _, _, busy, rfl⟩ | ⟨orphan, _, left⟩
  · rw [source] at busy
    rw [source]
    exact settled.current busy n up
  · rw [source, settled.orphans] at left
    cases left

theorem Settled.kept (hp : w.srv.process = some old) (hp' : srv'.process = some new)
    (goes : w.srv.next env input = some srv')
    (channel : srv'.channel = w.srv.channel ∨ srv'.channel = none)
    (stage : (w.after input srv').Stage new.child) : Settled (w.after input srv') := by
  obtain ⟨connection, orphans⟩ := after_kept input hp hp'
  have busy : w.srv.process ≠ none := by
    rw [hp]
    exact Option.some_ne_none _
  refine ⟨?_, orphans.trans settled.orphans, ?_, ?_⟩
  · rw [srv_after]
    exact S3TPServer.known_next settled.known goes
  · intro _ n up
    rw [srv_after] at up
    rw [connection]
    rcases channel with same | dropped
    · exact settled.current busy n (same.symm.trans up)
    · rw [dropped] at up
      cases up
  · intro process h
    rw [srv_after] at h
    obtain rfl := Option.some.inj (hp'.symm.trans h)
    exact stage

theorem Settled.same (hp : w.srv.process = some old) (hp' : srv'.process = some new)
    (goes : w.srv.next env input = some srv')
    (channel : srv'.channel = w.srv.channel ∨ srv'.channel = none)
    (child : new.child = old.child) : Settled (w.after input srv') := by
  apply settled.kept hp hp' goes channel
  obtain ⟨exitRan, handle⟩ := after_same input hp hp' child
  have before := settled.stage old hp
  rw [← child] at before
  revert before handle
  cases new.child with
  | gone =>
    intro handle before
    exact ⟨exitRan.trans before.1, handle⟩
  | closing _ _ =>
    intro handle before
    exact ⟨exitRan.trans before.1, handle.trans before.2⟩
  | running =>
    intro handle before
    exact handle.trans before
  | unspawned =>
    intro handle before
    exact handle.trans before

private theorem Settled.orderly_of_kept {happening : Happening} (busy : w'.srv.process ≠ none) :
    Orderly ⟨w, happening, w'⟩ where
  destroyed _ idle := absurd idle busy
  delivered := settled.delivered rfl

private theorem Settled.orderly_of_idle {happening : Happening} (idle : w.srv.process = none) :
    Orderly ⟨w, happening, w'⟩ where
  destroyed busy := absurd idle busy
  delivered := settled.delivered rfl

private theorem Settled.orderly_destroyed
    (hp : w.srv.process = some old) (idle : srv'.process = none) :
    Orderly ⟨w, .callback input, w.after input srv'⟩ ↔
      w.exitRan = true ∧ (input ≠ .handleClosed → w.handle = .closed) ∧
        ∀ stream, w.pipe stream = .closed := by
  have busy : w.srv.process ≠ none := by
    rw [hp]
    exact Option.some_ne_none _
  have ends : (w.after input srv').srv.process = none := by
    rw [srv_after, idle]
  have finished : (w.after input srv').Finished ↔
      w.exitRan = true ∧ (input ≠ .handleClosed → w.handle = .closed) ∧
        ∀ stream, w.pipe stream = .closed := by
    rw [Finished, after_end hp idle]
    dsimp only
    by_cases closes : input = .handleClosed
    · simp [closes]
    · simp [closes]
  rw [← finished]
  constructor
  · intro orderly
    exact orderly.destroyed busy ends
  · intro done
    exact ⟨fun _ _ => done, settled.delivered rfl⟩

theorem Settled.ended (hp : w.srv.process = some old) (idle : srv'.process = none)
    (goes : w.srv.next env input = some srv') (quiet : pending old input = false) :
    Settled (w.after input srv') := by
  have none : (w.after input srv').srv.process = none := by
    rw [srv_after, idle]
  refine ⟨?_, ?_, fun busy => absurd none busy, ?_⟩
  · rw [srv_after]
    exact S3TPServer.known_next settled.known goes
  · rw [after_end hp idle]
    dsimp only
    rw [quiet, if_neg Bool.false_ne_true]
    exact settled.orphans
  · intro process h
    rw [none] at h
    cases h

end Settled

private theorem patient_of_other {happening : Happening} (timer : happening ≠ .callback .timeout)
    (handle : happening ≠ .callback .handleClosed) : Patient ⟨w, happening, w'⟩ where
  killed label := absurd label timer
  reported label := absurd label handle

private theorem patient_of_uneventful (uneventful : w.srv.Uneventful input) :
    Patient ⟨w, .callback input, w'⟩ where
  killed := by
    intro label kill
    obtain rfl := Happening.callback.inj label
    exact absurd kill uneventful
  reported := by
    intro label reported
    obtain rfl := Happening.callback.inj label
    exact absurd uneventful reported

private theorem patient_of_idle {happening : Happening} (idle : w.srv.process = none) :
    Patient ⟨w, happening, w'⟩ where
  killed := by
    intro _ _ process hp
    rw [idle] at hp
    cases hp
  reported := by
    intro _ reported
    rw [S3TPServer.reportedExit, idle] at reported
    exact absurd rfl reported

theorem Settled.hinges {happening : Happening} (kept : Settled w')
    (orderly : Orderly ⟨w, happening, w'⟩) (patient : Patient ⟨w, happening, w'⟩) :
    Hinges (Orderly ⟨w, happening, w'⟩) (Patient ⟨w, happening, w'⟩) (Settled w') :=
  .of_holds orderly patient kept

theorem Settled.reports (settled : Settled w) (hp : w.srv.process = some old) {exitStatus : Int}
    (reported : w.srv.reportedExit = some exitStatus)
    (goes : w.srv.next env .handleClosed = some srv') (idle : srv'.process = none) :
    Hinges (Orderly ⟨w, .callback .handleClosed, w.after .handleClosed srv'⟩)
      (Patient ⟨w, .callback .handleClosed, w.after .handleClosed srv'⟩)
      (Settled (w.after .handleClosed srv')) := by
  obtain ⟨process, signal, hp', child, _⟩ := S3TPServer.reportedExit_inv reported
  obtain rfl := Option.some.inj (hp.symm.trans hp')
  have stage := settled.stage old hp
  rw [child] at stage
  have quiet : pending old .handleClosed = false := by
    simp [pending, child]
  refine ⟨?_, fun _ => settled.ended hp idle goes quiet⟩
  rw [settled.orderly_destroyed hp idle]
  constructor
  · rintro ⟨_, _, pipes⟩
    exact ⟨by simp, fun _ _ => pipes⟩
  · intro patient
    have ended : w.srv.reportedExit ≠ none := by
      rw [reported]
      exact Option.some_ne_none _
    exact ⟨stage.1, fun other => absurd rfl other, patient.reported rfl ended⟩

private theorem Settled.gone_iff (settled : Settled w) (hp : w.srv.process = some old) :
    old.child = .gone ↔ w.exitRan = true ∧ w.handle = .closed := by
  have stage := settled.stage old hp
  constructor
  · intro gone
    rwa [gone] at stage
  · rintro ⟨_, shut⟩
    cases child : old.child with
    | gone => rfl
    | running =>
      rw [child] at stage
      exact absurd (stage.symm.trans shut) (by decide)
    | unspawned =>
      rw [child] at stage
      exact absurd (stage.symm.trans shut) (by decide)
    | closing _ _ =>
      rw [child] at stage
      exact absurd (stage.2.symm.trans shut) (by decide)

theorem Settled.abandons (settled : Settled w) (hp : w.srv.process = some old)
    (kill : w.srv.timer = some .kill) (goes : w.srv.next env .timeout = some srv')
    (idle : srv'.process = none) :
    Hinges (Orderly ⟨w, .callback .timeout, w.after .timeout srv'⟩)
      (Patient ⟨w, .callback .timeout, w.after .timeout srv'⟩)
      (Settled (w.after .timeout srv')) := by
  refine ⟨?_, ?_⟩
  · rw [settled.orderly_destroyed hp idle]
    constructor
    · rintro ⟨exitRan, handle, pipes⟩
      have gone : old.child = .gone := (settled.gone_iff hp).mpr ⟨exitRan, handle (by simp)⟩
      refine ⟨?_, by simp⟩
      intro _ _ process hp'
      obtain rfl := Option.some.inj (hp.symm.trans hp')
      exact ⟨gone, pipes⟩
    · intro patient
      obtain ⟨gone, pipes⟩ := patient.killed rfl kill old hp
      obtain ⟨exitRan, handle⟩ := (settled.gone_iff hp).mp gone
      exact ⟨exitRan, fun _ => handle, pipes⟩
  · intro patient
    obtain ⟨gone, _⟩ := patient.killed rfl kill old hp
    apply settled.ended hp idle goes
    simp [pending, gone]

theorem Settled.busy (settled : Settled w) (hp : w.srv.process = some old)
    (other : ∀ stdout bytes, input ≠ .output stdout bytes)
    (goes : w.srv.next env input = some srv') :
    Hinges (Orderly ⟨w, .callback input, w.after input srv'⟩)
      (Patient ⟨w, .callback input, w.after input srv'⟩) (Settled (w.after input srv')) := by
  have remains {new : Process} (hp' : srv'.process = some new) :
      Orderly ⟨w, .callback input, w.after input srv'⟩ := by
    apply settled.orderly_of_kept
    rw [srv_after, hp']
    exact Option.some_ne_none _
  have stage := settled.stage old hp
  cases S3TPServer.effect_next hp other goes with
  | holds held uneventful =>
    obtain ⟨new, hp', muted⟩ := S3TPServer.process_of_muted held.process hp
    have kept := settled.same hp hp' goes held.channel (Process.eq_of_muted muted).1
    exact kept.hinges (remains hp') (patient_of_uneventful uneventful)
  | passes _ hp' channel _ _ =>
    have kept := settled.same hp hp' goes (Or.inl channel) (old.child_passed _ _)
    exact kept.hinges (remains hp') (patient_of_other (by simp) (by simp))
  | @exits exitStatus signal running =>
    have hp' : (w.srv.exitCb exitStatus signal).process =
        some (old.exitCb exitStatus signal) := by
      rw [S3TPServer.exitCb, hp]
      rfl
    have child : (old.exitCb exitStatus signal).child = .closing exitStatus signal := by
      rw [Process.exitCb, if_pos running]
    have ended : (old.exitCb exitStatus signal).child ≠ .running := by
      rw [child]
      simp
    obtain ⟨exitRan, handle⟩ := after_exit (.exited exitStatus signal) hp hp' running ended
    refine (settled.kept hp hp' goes (Or.inl rfl) ?_).hinges (remains hp')
      (patient_of_other (by simp) (by simp))
    have open_ : w.handle = .isOpen := by
      rwa [running] at stage
    rw [child]
    refine ⟨exitRan, handle.trans ?_⟩
    rw [open_]
    rfl
  | @ceases exitStatus signal child silent =>
    have hp' : ({ w.srv with process := some { old with child := .gone } } : S3TPServer).process =
        some { old with child := .gone } := rfl
    have ended : old.child ≠ .running := by
      rw [child]
      simp
    obtain ⟨exitRan, handle⟩ := after_gone .handleClosed hp hp' ended rfl
    refine (settled.kept hp hp' goes (Or.inl rfl) ?_).hinges (remains hp')
      (patient_of_uneventful silent)
    rw [child] at stage
    exact ⟨exitRan.trans stage.1, handle⟩
  | reports reported exits =>
    exact settled.reports hp reported goes (S3TPServer.process_onExit exits)
  | abandons kill idle _ _ => exact settled.abandons hp kill goes idle

theorem Settled.output (settled : Settled w) {stdout : Bool} {bytes : List UInt8}
    (hp : w.srv.process = some old) (goes : w.srv.next env (.output stdout bytes) = some srv') :
    Settled (w.after (.output stdout bytes) srv') ∧ srv'.process ≠ none := by
  have busy : w.srv.process ≠ none := by
    rw [hp]
    exact Option.some_ne_none _
  have held : srv'.process.map Process.muted = w.srv.process.map Process.muted ∧
      (srv'.channel = w.srv.channel ∨ srv'.channel = none) := by
    rcases S3TPServer.readCallback_cases goes with rfl | ⟨type, counts, sends⟩
    · exact ⟨rfl, Or.inl rfl⟩
    · by_cases up : w.srv.channel ≠ none
      · obtain ⟨_, channel, process⟩ := S3TPServer.send_queues busy up counts sends
        exact ⟨process, Or.inl channel⟩
      · have same := (S3TPServer.send_down (not_not.mp up)).symm.trans sends
        obtain rfl := Option.some.inj same
        exact ⟨rfl, Or.inl rfl⟩
  obtain ⟨new, hp', muted⟩ := S3TPServer.process_of_muted held.1 hp
  refine ⟨settled.same hp hp' goes held.2 (Process.eq_of_muted muted).1, ?_⟩
  rw [hp']
  exact Option.some_ne_none _

theorem Settled.idle (settled : Settled w) (hp : w.srv.process = none)
    (goes : w.srv.next env input = some srv') : Settled (w.after input srv') := by
  have known : S3TPServer.Known 0 srv' := S3TPServer.known_next settled.known goes
  rcases S3TPServer.idle_next hp goes with ⟨idle, _⟩ | ⟨command, child, starts, kind, _⟩
  · have same : w.after input srv' = { w with srv := srv' } := by
      rw [after, hp, idle]
    rw [same]
    refine ⟨known, settled.orphans, fun busy => absurd idle busy, ?_⟩
    intro process h
    rw [idle] at h
    cases h
  · obtain ⟨new, hp', muted⟩ := Option.map_eq_some_iff.mp starts
    have begun : w.after input srv' =
        { w with
          srv := srv'
          connection := srv'.channel
          exitRan := false
          handle := .isOpen
          pipe := fun _ => .isOpen } := by
      rw [after, hp, hp']
    rw [begun]
    refine ⟨known, settled.orphans, fun _ n up => up, ?_⟩
    intro process h
    obtain rfl := Option.some.inj (hp'.symm.trans h)
    have young : new.muted.child = child := by rw [muted]
    replace young : new.child = child := young
    rcases kind with rfl | rfl
    · rw [young]
      rfl
    · rw [young]
      rfl

/-- What one callback does to what is known. -/
theorem Settled.step (settled : Settled w) {happening : Happening} (h : Step env w happening w') :
    Hinges (Orderly ⟨w, happening, w'⟩) (Patient ⟨w, happening, w'⟩) (Settled w') := by
  have happens : w.next env happening = some w' := h
  cases happening with
  | callback input =>
    rw [next] at happens
    split at happens
    · obtain ⟨srv', goes, rfl⟩ := Option.map_eq_some_iff.mp happens
      cases hp : w.srv.process with
      | none =>
        exact (settled.idle hp goes).hinges (settled.orderly_of_idle hp) (patient_of_idle hp)
      | some old =>
        cases input with
        | output stdout bytes =>
          obtain ⟨kept, busy⟩ := settled.output hp goes
          have remains : (w.after (.output stdout bytes) srv').srv.process ≠ none := by
            rw [srv_after]
            exact busy
          exact kept.hinges (settled.orderly_of_kept remains)
            (patient_of_other (by simp) (by simp))
        | _ => exact settled.busy hp (by simp) goes
    · cases happens
  | pipeClosed stream =>
    rw [next] at happens
    split at happens
    · obtain rfl := Option.some.inj happens
      have kept : Settled { w with pipe := Function.update w.pipe stream .closed } :=
        ⟨settled.known, settled.orphans, settled.current, settled.stage⟩
      refine kept.hinges ?_ (patient_of_other (by simp) (by simp))
      exact ⟨fun busy idle => absurd idle busy, settled.delivered rfl⟩
    · cases happens
  | late orphan =>
    rw [next, settled.orphans] at happens
    split at happens
    · rename_i there
      exact absurd there.2 (Nat.not_lt_zero orphan)
    · cases happens

private theorem settled_hosted {srv₀ : S3TPServer} (starts : S3TPServer.start env = some srv₀) :
    Settled (hosted srv₀) where
  known := S3TPServer.known_reconnect S3TPServer.known_new starts
  orphans := rfl
  current busy := absurd (S3TPServer.start_idle starts) busy
  stage := by
    intro process hp
    rw [hosted, S3TPServer.start_idle starts] at hp
    cases hp

/-- In every run, a process is destroyed only after its exit callback has run and its handles
were closed, and no callback of it comes during a later connection, if and only if the
timer that kills a process finds it gone and its pipes closed, and the close callback that
reports its end finds its pipes closed. -/
theorem orderly_iff {srv₀ : S3TPServer} {ts : List (Transition Hosted Happening)}
    (starts : S3TPServer.start env = some srv₀) (run : Run (Step env) (hosted srv₀) ts w) :
    (∀ t ∈ ts, Orderly t) ↔ ∀ t ∈ ts, Patient t := by
  apply run.forall_iff (I := Settled)
  · exact settled_hosted starts
  · intro s happening s' settled step
    exact settled.step step

/-- A command that outlives SIGTERM is disconnected, and ends during the next connection. -/
def outlives : List Happening :=
  [.callback (.data (encode .NONE [108, 115, 10])), .callback .disconnected, .callback .timeout,
    .late 0]

/-- It is destroyed before it has ended, and its callback comes on the next connection. -/
def destroyedEarly (ts : List (Transition Hosted Happening)) : Bool :=
  ts.any fun t => decide (t.label = .late 0 ∧ t.source.orphans[0]? = some (some 0) ∧
    t.source.srv.channel = some 1)

theorem stepped (env : Env) (w : Hosted) (happening : Happening) (w' : Hosted)
    (h : w.next env happening = some w') : Step env w happening w' := h

theorem orderly_iff_outlives :
    ∃ ts w, Run (Step Env.fine) (hosted S3TPServer.new.connected) ts w ∧
      ts.map Transition.label = outlives ∧ ((∀ t ∈ ts, Orderly t) ↔ ∀ t ∈ ts, Patient t) := by
  obtain ⟨ts, w, run, labels, _⟩ :=
    exists_trace (stepped Env.fine) (hosted S3TPServer.new.connected) outlives destroyedEarly
      (by decide +kernel)
  exact ⟨ts, w, run, labels, orderly_iff S3TPServer.start_fine run⟩

/-- The timer does not wait for the process that it destroys. -/
theorem late_callback :
    ¬ ∀ (env : Env) (srv₀ : S3TPServer) (ts : List (Transition Hosted Happening)) (w : Hosted),
      S3TPServer.start env = some srv₀ → Run (Step env) (hosted srv₀) ts w →
        ∀ t ∈ ts, Orderly t := by
  intro claim
  obtain ⟨ts, w, run, _, test⟩ :=
    exists_trace (stepped Env.fine) (hosted S3TPServer.new.connected) outlives destroyedEarly
      (by decide +kernel)
  obtain ⟨t, mem, early⟩ := List.any_eq_true.mp test
  obtain ⟨late, orphan, later⟩ := of_decide_eq_true early
  have orderly : Orderly t := claim _ _ ts w S3TPServer.start_fine run t mem
  have same : (some 0 : Option ℕ) = some 1 :=
    orderly.delivered (some 0) (Or.inr ⟨0, late, orphan⟩) 1 later
  cases same

end Hosted

end Horst.S3tp
