import Horst.S3tp.Wiring

/-!
The way of the input of a process: the frames that the server accepts for it, and what
the process can read before the end of its input.
-/

set_option autoImplicit false
set_option relaxedAutoImplicit false

namespace Horst.S3tp

open Foundation Foundation.Framing

/-- The input of the last command, and whether its end has not been accepted yet, after one
more frame was. -/
def Dispatch.collect : List UInt8 × Bool → Dispatch → List UInt8 × Bool
  | _, .command _ => ([], true)
  | (bytes, true), .input payload => (bytes ++ payload, true)
  | (bytes, false), .input _ => (bytes, false)
  | (bytes, _), .closeInput => (bytes, false)

/-- The payloads that were accepted for the last command up to the end of its input, and
whether that is still to come. -/
def collected (dispatches : List Dispatch) : List UInt8 × Bool :=
  dispatches.foldl Dispatch.collect ([], false)

private theorem collected_snoc (dispatches : List Dispatch) (dispatch : Dispatch) :
    collected (dispatches ++ [dispatch]) = Dispatch.collect (collected dispatches) dispatch :=
  List.foldl_append

namespace Wired

/-- Where the end of the input was accepted and the process lives, it has read or can still read
exactly the payloads that were accepted before. -/
def Delivered (w : Wired) : Prop :=
  w.alive = true → (collected w.srv.dispatched).2 = false →
    w.stdin.read ++ w.stdin.content = (collected w.srv.dispatched).1

/-- If an `ENDOFFILE` is accepted for a process that lives, none of its input is waiting for
room in the pipe. -/
def Caught (env : Env) (t : Transition Wired Event) : Prop :=
  ∀ bytes, t.label = .callback (.data bytes) → t.source.alive = true →
    t.source.srv.Completes bytes → t.source.srv.typeRead env bytes = .ENDOFFILE →
      t.source.stdin.waiting = []

/-- The pipe has got the input that was accepted for the process, and is closed with it. -/
structure Fed (process : Process) (w : Wired) : Prop where
  collected : collected w.srv.dispatched = (w.stdin.written, process.hasIn)
  closed : w.stdin.closed = !process.hasIn
  waiting : process.hasIn = false → w.stdin.waiting = []

variable {env : Env} {capacity : ℕ} {w w' : Wired} {srv' : S3TPServer} {old new : Process}

private theorem fed_opened
    {command : List UInt8} {child : Child} {srv : S3TPServer} {ds : List Dispatch}
    (process : new.muted = ⟨command, child, true, [], false⟩)
    (dispatched : srv.dispatched = ds ++ [.command command]) : Fed new (opened srv) := by
  have open_ : new.muted.hasIn = true := by rw [process]
  replace open_ : new.hasIn = true := open_
  refine ⟨?_, ?_, ?_⟩
  · have fresh : (opened srv).srv.dispatched = ds ++ [.command command] := dispatched
    rw [fresh, collected_snoc, open_]
    rfl
  · rw [open_]
    rfl
  · rw [open_]
    simp

variable (capacity) in
theorem Fed.keeps (fed : Fed old w) (hp : w.srv.process = some old)
    (hp' : srv'.process = some new) (muted : new.muted = old.muted)
    (dispatched : srv'.dispatched = w.srv.dispatched) :
    Fed new (w.after capacity srv') ∧
      (new.hasIn = false → (w.after capacity srv').stdin = w.stdin) := by
  obtain ⟨_, hasIn, written⟩ := Process.eq_of_muted muted
  have stdin : (w.after capacity srv').stdin = w.stdin.write capacity [] := by
    rw [after_busy capacity hp hp', written, List.drop_length, hasIn]
    apply if_neg
    intro both
    rw [both.1] at both
    exact absurd both.2 (by decide)
  have unchanged (shut : new.hasIn = false) : (w.after capacity srv').stdin = w.stdin := by
    rw [stdin]
    apply Pipe.write_closed
    rw [fed.closed, ← hasIn, shut]
    rfl
  refine ⟨⟨?_, ?_, ?_⟩, unchanged⟩
  · rw [srv_after, dispatched, fed.collected, stdin, Pipe.written_write_nil, hasIn]
  · rw [stdin, Pipe.closed_write, fed.closed, hasIn]
  · intro shut
    rw [unchanged shut]
    apply fed.waiting
    rw [← hasIn, shut]

section Passes

variable {type : MessageType} {payload : List UInt8}

theorem stdin_after (hp : w.srv.process = some old) (hp' : srv'.process = some new) :
    (w.after capacity srv').stdin =
      if old.hasIn = true ∧ new.hasIn = false then w.stdin.closeWriter
      else w.stdin.write capacity (new.stdin.drop old.stdin.length) := by
  rw [after_busy capacity hp hp']

variable (capacity) in
private theorem Fed.ignores (fed : Fed old w) (hp : w.srv.process = some old)
    (hp' : srv'.process = some (old.passed type payload))
    (dispatched : srv'.dispatched = w.srv.dispatched ++ [Dispatch.stdin type payload])
    (shut : old.hasIn = false) :
    Fed (old.passed type payload) (w.after capacity srv') ∧
      (w.after capacity srv').stdin = w.stdin := by
  have ignored : (old.passed type payload).hasIn = false := by
    by_cases eof : type = .ENDOFFILE
    · exact old.hasIn_passed_eof eof
    · rw [old.hasIn_passed_more eof, shut]
  have closed : w.stdin.closed = true := by
    rw [fed.closed, shut]
    rfl
  have same : (w.after capacity srv').stdin = w.stdin := by
    rw [stdin_after hp hp', if_neg (by simp [shut]), Pipe.write_closed closed]
  refine ⟨⟨?_, ?_, ?_⟩, same⟩
  · rw [srv_after, dispatched, collected_snoc, fed.collected, same, shut, ignored, Dispatch.stdin]
    split
    · rfl
    · rfl
  · rw [same, closed, ignored]
    rfl
  · intro _
    rw [same]
    exact fed.waiting shut

variable (capacity) in
theorem Fed.ends (fed : Fed old w) (hp : w.srv.process = some old)
    (hp' : srv'.process = some (old.passed type payload))
    (dispatched : srv'.dispatched = w.srv.dispatched ++ [Dispatch.stdin type payload])
    (open_ : old.hasIn = true) (eof : type = .ENDOFFILE) :
    Fed (old.passed type payload) (w.after capacity srv') ∧
      (w.after capacity srv').stdin = w.stdin.closeWriter := by
  have shut : (old.passed type payload).hasIn = false := old.hasIn_passed_eof eof
  have closes : (w.after capacity srv').stdin = w.stdin.closeWriter := by
    rw [stdin_after hp hp', if_pos ⟨open_, shut⟩]
  refine ⟨⟨?_, ?_, ?_⟩, closes⟩
  · rw [srv_after, dispatched, collected_snoc, fed.collected, closes, open_, shut,
      Dispatch.stdin, if_pos eof]
    rfl
  · rw [closes, shut]
    rfl
  · rw [closes]
    intro _
    rfl

variable (capacity) in
theorem Fed.goesOn (fed : Fed old w) (hp : w.srv.process = some old)
    (hp' : srv'.process = some (old.passed type payload))
    (dispatched : srv'.dispatched = w.srv.dispatched ++ [Dispatch.stdin type payload])
    (open_ : old.hasIn = true) (more : type ≠ .ENDOFFILE) :
    Fed (old.passed type payload) (w.after capacity srv') := by
  have openPipe : w.stdin.closed = false := by
    rw [fed.closed, open_]
    rfl
  have input : old.passed type payload = { old with stdin := old.stdin ++ payload } := by
    rw [Process.passed, if_neg more, Process.input, if_pos open_]
  have writes : (w.after capacity srv').stdin = w.stdin.write capacity payload := by
    rw [stdin_after hp hp', input, if_neg (by simp [open_]), List.drop_left]
  refine ⟨?_, ?_, ?_⟩
  · rw [srv_after, dispatched, collected_snoc, fed.collected, writes,
      Pipe.written_write openPipe, input, open_, Dispatch.stdin, if_neg more]
    rfl
  · rw [writes, Pipe.closed_write, openPipe, input, open_]
    rfl
  · rw [input, open_]
    simp

end Passes

/-- What is known of every state up to the first process whose input was cut short. -/
structure Supplied (w : Wired) : Prop where
  fed : ∀ process, w.srv.process = some process → process.child = .running → Fed process w
  delivered : w.Delivered

private theorem supplied_of_dead (dead : w.alive = false) : Supplied w where
  fed := by
    intro process hp running
    have living : w.alive = true := alive_iff.mpr ⟨process, hp, running⟩
    exact absurd (living.symm.trans dead) (by decide)
  delivered living := absurd (living.symm.trans dead) (by decide)

private theorem supplied_of_fed {process : Process} (hp : w.srv.process = some process)
    (fed : Fed process w)
    (delivered : process.hasIn = false → w.stdin.read ++ w.stdin.content = w.stdin.written) :
    Supplied w where
  fed := by
    intro process' hp' _
    obtain rfl := Option.some.inj (hp.symm.trans hp')
    exact fed
  delivered := by
    intro _ shut
    rw [fed.collected] at shut
    rw [fed.collected]
    exact delivered shut

private theorem Supplied.available (supplied : Supplied w) {process : Process}
    (hp : w.srv.process = some process) (running : process.child = .running)
    (shut : process.hasIn = false) : w.stdin.read ++ w.stdin.content = w.stdin.written := by
  have fed : Fed process w := supplied.fed process hp running
  have living : w.alive = true := alive_iff.mpr ⟨process, hp, running⟩
  have all := supplied.delivered living
  rw [fed.collected] at all
  exact all shut

private theorem caught_of_other {event : Event} (other : ∀ bytes, event ≠ .callback (.data bytes)) :
    Caught env ⟨w, event, w'⟩ := by
  intro bytes label
  exact absurd label (other bytes)

theorem Supplied.hinges {event : Event} (kept : Supplied w') (caught : Caught env ⟨w, event, w'⟩) :
    Hinges w'.Delivered (Caught env ⟨w, event, w'⟩) (Supplied w') :=
  .of_holds kept.delivered caught kept

theorem Supplied.keeps (supplied : Supplied w) (hp : w.srv.process = some old)
    (running : old.child = .running) (hp' : srv'.process = some new)
    (muted : new.muted = old.muted) (dispatched : srv'.dispatched = w.srv.dispatched) :
    Supplied (w.after capacity srv') := by
  have fed : Fed old w := supplied.fed old hp running
  obtain ⟨fed', unchanged⟩ := fed.keeps capacity hp hp' muted dispatched
  have process : (w.after capacity srv').srv.process = some new := by
    rw [srv_after, hp']
  apply supplied_of_fed process fed'
  intro shut
  rw [unchanged shut]
  apply supplied.available hp running
  rw [← (Process.eq_of_muted muted).2.1, shut]

/-- The end of the input is accepted for a process that lives: the process can get all of its
input exactly if none was waiting for room. -/
theorem Supplied.ends (supplied : Supplied w) (hp : w.srv.process = some old)
    (running : old.child = .running) {bytes payload : List UInt8}
    (completes : w.srv.Completes bytes)
    (hp' : srv'.process = some (old.passed (w.srv.typeRead env bytes) payload))
    (dispatched : srv'.dispatched =
      w.srv.dispatched ++ [Dispatch.stdin (w.srv.typeRead env bytes) payload])
    (open_ : old.hasIn = true) (eof : w.srv.typeRead env bytes = .ENDOFFILE) :
    Hinges (w.after capacity srv').Delivered
      (Caught env ⟨w, .callback (.data bytes), w.after capacity srv'⟩)
      (Supplied (w.after capacity srv')) := by
  have fed : Fed old w := supplied.fed old hp running
  obtain ⟨fed', closed⟩ := fed.ends capacity hp hp' dispatched open_ eof
  have process : (w.after capacity srv').srv.process =
      some (old.passed (w.srv.typeRead env bytes) payload) := by
    rw [srv_after, hp']
  have living : w.alive = true := alive_iff.mpr ⟨old, hp, running⟩
  have living' : (w.after capacity srv').alive = true :=
    alive_iff.mpr ⟨_, process, (old.child_passed _ _).trans running⟩
  have openPipe : w.stdin.closed = false := by
    rw [fed.closed, open_]
    rfl
  have delivered : (w.after capacity srv').Delivered ↔ w.stdin.waiting = [] := by
    have written : (w.after capacity srv').stdin.written = w.stdin.written := by
      rw [closed]
      rfl
    rw [← Pipe.closeWriter_iff openPipe, ← closed, Delivered, fed'.collected, written]
    exact ⟨fun all => all living' (old.hasIn_passed_eof eof), fun all _ _ => all⟩
  have share : (w.after capacity srv').Delivered ↔
      Caught env ⟨w, .callback (.data bytes), w.after capacity srv'⟩ := by
    rw [delivered]
    constructor
    · intro nothing _ _ _ _ _
      exact nothing
    · intro caught
      exact caught bytes rfl living completes eof
  refine ⟨share, ?_⟩
  intro caught
  apply supplied_of_fed process fed'
  intro _
  have all := share.mpr caught living'
  rw [fed'.collected] at all
  exact all (old.hasIn_passed_eof eof)

theorem Supplied.passes (supplied : Supplied w) (hp : w.srv.process = some old)
    (running : old.child = .running) {bytes payload : List UInt8}
    (completes : w.srv.Completes bytes)
    (hp' : srv'.process = some (old.passed (w.srv.typeRead env bytes) payload))
    (dispatched : srv'.dispatched =
      w.srv.dispatched ++ [Dispatch.stdin (w.srv.typeRead env bytes) payload]) :
    Hinges (w.after capacity srv').Delivered
      (Caught env ⟨w, .callback (.data bytes), w.after capacity srv'⟩)
      (Supplied (w.after capacity srv')) := by
  have fed : Fed old w := supplied.fed old hp running
  have process : (w.after capacity srv').srv.process =
      some (old.passed (w.srv.typeRead env bytes) payload) := by
    rw [srv_after, hp']
  cases open_ : old.hasIn with
  | false =>
    obtain ⟨fed', same⟩ := fed.ignores capacity hp hp' dispatched open_
    have kept : Supplied (w.after capacity srv') := by
      apply supplied_of_fed process fed'
      intro _
      rw [same]
      exact supplied.available hp running open_
    exact kept.hinges fun _ _ _ _ _ => fed.waiting open_
  | true =>
    by_cases eof : w.srv.typeRead env bytes = .ENDOFFILE
    · exact supplied.ends hp running completes hp' dispatched open_ eof
    · have goesOn : (old.passed (w.srv.typeRead env bytes) payload).hasIn = true := by
        rw [old.hasIn_passed_more eof, open_]
      have kept : Supplied (w.after capacity srv') := by
        apply supplied_of_fed process (fed.goesOn capacity hp hp' dispatched open_ eof)
        intro shut
        exact absurd (goesOn.symm.trans shut) (by decide)
      apply kept.hinges
      intro bytes' label _ _ eof'
      obtain rfl := Input.data.inj (Event.callback.inj label)
      exact absurd eof' eof

theorem Supplied.busy (supplied : Supplied w) (hp : w.srv.process = some old)
    (running : old.child = .running) {input : Input}
    (other : ∀ stdout bytes, input ≠ .output stdout bytes)
    (h : w.srv.next env input = some srv') :
    Hinges (w.after capacity srv').Delivered
      (Caught env ⟨w, .callback input, w.after capacity srv'⟩)
      (Supplied (w.after capacity srv')) := by
  cases S3TPServer.effect_next hp other h with
  | holds held uneventful =>
    obtain ⟨new, hp', muted⟩ := S3TPServer.process_of_muted held.process hp
    have kept : Supplied (w.after capacity srv') :=
      supplied.keeps hp running hp' muted held.dispatched
    apply kept.hinges
    intro bytes label _ completes
    obtain rfl := Event.callback.inj label
    exact absurd completes uneventful
  | passes completes hp' _ _ dispatched =>
    exact supplied.passes hp running completes hp' dispatched
  | @exits exitStatus signal _ =>
    apply (supplied_of_dead _).hinges (caught_of_other (by simp))
    rw [alive, srv_after, S3TPServer.exitCb, hp]
    simp [Process.exitCb, running]
  | ceases child _ =>
    rw [running] at child
    cases child
  | reports reported _ =>
    obtain ⟨process', _, hp', child, _⟩ := S3TPServer.reportedExit_inv reported
    obtain rfl := Option.some.inj (hp.symm.trans hp')
    rw [running] at child
    cases child
  | abandons _ idle _ _ =>
    apply (supplied_of_dead _).hinges (caught_of_other (by simp))
    rw [alive, srv_after, idle]
    rfl

private theorem supplied_after (dead : w.alive = false) {input : Input}
    (other : ∀ stdout bytes, input ≠ .output stdout bytes)
    (h : w.srv.next env input = some srv') : Supplied (w.after capacity srv') := by
  cases hp : w.srv.process with
  | none =>
    rcases S3TPServer.idle_next hp h with ⟨idle, _⟩ | ⟨command, child, starts, _, dispatched⟩
    · apply supplied_of_dead
      rw [alive, srv_after, idle]
      rfl
    · obtain ⟨new, hp', muted⟩ := Option.map_eq_some_iff.mp starts
      have busy : srv'.process ≠ none := by
        rw [hp']
        exact Option.some_ne_none _
      rw [after_start hp busy]
      apply supplied_of_fed hp' (fed_opened muted dispatched)
      intro _
      rfl
  | some old =>
    apply supplied_of_dead
    by_contra risen
    obtain ⟨new, hp', running⟩ := alive_iff.mp (by simpa using risen)
    rw [srv_after] at hp'
    have ran : old.child = .running := (S3TPServer.effect_next hp other h).child hp hp' running
    have was : w.alive = true := alive_iff.mpr ⟨old, hp, ran⟩
    exact absurd (was.symm.trans dead) (by decide)

theorem Supplied.callback (supplied : Supplied w) {input : Input}
    (other : ∀ stdout bytes, input ≠ .output stdout bytes)
    (h : w.srv.next env input = some srv') :
    Hinges (w.after capacity srv').Delivered
      (Caught env ⟨w, .callback input, w.after capacity srv'⟩)
      (Supplied (w.after capacity srv')) := by
  cases living : w.alive with
  | true =>
    obtain ⟨old, hp, running⟩ := alive_iff.mp living
    exact supplied.busy hp running other h
  | false =>
    apply (supplied_after living other h).hinges
    intro _ _ living'
    exact absurd (living'.symm.trans living) (by decide)

theorem Supplied.stdin (supplied : Supplied w) {pipe : Pipe UInt8}
    (written : pipe.written = w.stdin.written) (closed : pipe.closed = w.stdin.closed)
    (waiting : w.stdin.waiting = [] → pipe.waiting = [])
    (available : w.stdin.waiting = [] →
      pipe.read ++ pipe.content = w.stdin.read ++ w.stdin.content) :
    Supplied { w with stdin := pipe } := by
  cases living : w.alive with
  | true =>
    obtain ⟨process, hp, running⟩ := alive_iff.mp living
    have fed : Fed process w := supplied.fed process hp running
    have fed' : Fed process { w with stdin := pipe } := by
      refine ⟨?_, closed.trans fed.closed, fun shut => waiting (fed.waiting shut)⟩
      exact fed.collected.trans (congrArg (·, process.hasIn) written.symm)
    have hp' : ({ w with stdin := pipe } : Wired).srv.process = some process := hp
    apply supplied_of_fed hp' fed'
    intro shut
    have all := supplied.available hp running shut
    exact (available (fed.waiting shut)).trans (all.trans written.symm)
  | false =>
    have dead : ({ w with stdin := pipe } : Wired).alive = false := living
    exact supplied_of_dead dead

theorem Supplied.output (supplied : Supplied w) (stdout : Bool) (pipe : Pipe UInt8) :
    Supplied (w.setOutput stdout pipe) where
  fed := by
    intro process hp running
    have fed : Fed process w := supplied.fed process hp running
    exact ⟨fed.collected, fed.closed, fed.waiting⟩
  delivered := supplied.delivered

/-- What one event does to what is known. -/
theorem Supplied.step (supplied : Supplied w) {event : Event}
    (h : Step env capacity w event w') :
    Hinges w'.Delivered (Caught env ⟨w, event, w'⟩) (Supplied w') := by
  cases moves h with
  | callback other goes => exact supplied.callback other goes
  | @wrote stdout bytes _ =>
    have kept := supplied.output stdout ((w.output stdout).write capacity bytes)
    exact kept.hinges (caught_of_other (by simp))
  | @arrived stdout size srv' living _ _ sends =>
    have taken := supplied.output stdout ((w.output stdout).take size)
    obtain ⟨old, new, hp, running, hp', muted⟩ := process_send living sends
    have dispatched : srv'.dispatched = w.srv.dispatched := (S3TPServer.quiet_send sends).dispatched
    have kept : Supplied
        ((w.setOutput stdout ((w.output stdout).take size)).after capacity srv') :=
      taken.keeps hp running hp' muted dispatched
    exact kept.hinges (caught_of_other (by simp))
  | flushed =>
    have kept : Supplied { w with stdin := w.stdin.pump capacity } :=
      supplied.stdin rfl rfl Pipe.pump_waiting Pipe.pump_available
    exact kept.hinges (caught_of_other (by simp))
  | @consumed size =>
    have kept : Supplied { w with stdin := w.stdin.take size } :=
      supplied.stdin rfl rfl id fun _ => Pipe.take_available
    exact kept.hinges (caught_of_other (by simp))

/-- In every state of a run, the process whose end of input was accepted has got or can still get
exactly the input accepted before, if and only if whenever an `ENDOFFILE` is accepted for a
process that lives, none of its input waits for room in the pipe. -/
theorem delivered_iff {srv₀ : S3TPServer} {ts : List (Transition Wired Event)}
    (starts : S3TPServer.start env = some srv₀)
    (run : Run (Step env capacity) (opened srv₀) ts w) :
    (∀ t ∈ ts, t.target.Delivered) ↔ ∀ t ∈ ts, Caught env t := by
  apply run.forall_iff (I := Supplied)
  · apply supplied_of_dead
    rw [alive, opened, S3TPServer.start_idle starts]
    rfl
  · intro s event s' supplied step
    exact supplied.step step

/-- A pipe of two bytes, three bytes of input, and the end of the input. -/
def hastyEnd : List Event :=
  [.callback (.data (encode .NONE [99, 97, 116, 10])),
    .callback (.data (encode .STDIN [97, 98, 10])), .callback (.data (encode .ENDOFFILE [0]))]

def cutShort (ts : List (Transition Wired Event)) : Bool :=
  ts.any fun t => decide (t.target.alive = true ∧
    (collected t.target.srv.dispatched).2 = false ∧
    t.target.stdin.read ++ t.target.stdin.content ≠ (collected t.target.srv.dispatched).1)

theorem delivered_iff_hasty :
    ∃ ts w, Run (Step Env.fine 2) (opened S3TPServer.new.connected) ts w ∧
      ts.map Transition.label = hastyEnd ∧
      ((∀ t ∈ ts, t.target.Delivered) ↔ ∀ t ∈ ts, Caught Env.fine t) := by
  obtain ⟨ts, w, run, labels, _⟩ :=
    exists_trace (stepped Env.fine 2) (opened S3TPServer.new.connected) hastyEnd cutShort
      (by decide +kernel)
  exact ⟨ts, w, run, labels, delivered_iff S3TPServer.start_fine run⟩

/-- Input that the pipe could not take yet is lost with the end of the input. -/
theorem waiting_input_lost :
    ¬ ∀ (env : Env) (capacity : ℕ) (srv₀ : S3TPServer) (ts : List (Transition Wired Event))
      (w : Wired), S3TPServer.start env = some srv₀ →
        Run (Step env capacity) (opened srv₀) ts w → ∀ t ∈ ts, t.target.Delivered := by
  intro claim
  obtain ⟨ts, w, run, _, test⟩ :=
    exists_trace (stepped Env.fine 2) (opened S3TPServer.new.connected) hastyEnd cutShort
      (by decide +kernel)
  obtain ⟨t, mem, cut⟩ := List.any_eq_true.mp test
  obtain ⟨living, shut, differs⟩ := of_decide_eq_true cut
  have delivered : t.target.Delivered := claim _ _ _ ts w S3TPServer.start_fine run t mem
  exact differs (delivered living shut)

end Wired

end Horst.S3tp
