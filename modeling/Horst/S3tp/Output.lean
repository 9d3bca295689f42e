import Horst.S3tp.Wiring

/-!
The way of the output of a process to the client: the frames that are queued before the
one that tells the end of the process, and what the process has written.
-/

set_option autoImplicit false
set_option relaxedAutoImplicit false

namespace Horst.S3tp

open Foundation Foundation.Framing

namespace Wired

/-- Where the end of the process was told, the messages before that carry, for each stream,
all that the process has written to it. -/
def Complete (w : Wired) : Prop :=
  ∀ ms text rest, messages w.queue = ms ++ (.ENDOFFILE, text) :: rest →
    ∀ stdout, payloads (streamType stdout) ms = (w.output stdout).written

/-- The callback tells the client the end of its process, on a connection that stays up. -/
def Reports (t : Transition Wired Event) : Prop :=
  t.label = .callback .handleClosed ∧ t.source.srv.reportedExit ≠ none ∧
    t.target.srv.channel = t.source.srv.channel

/-- The output pipes of a process whose end is told were empty when they were closed. -/
def Drained (t : Transition Wired Event) : Prop :=
  Reports t → ∀ stdout, (t.source.output stdout).discarded = []

/-- While there is a process, the queue consists of messages other than `ENDOFFILE`, which,
unless the channel was lost, carry what was read from the output pipes. -/
structure Mirrors (ms : List (MessageType × List UInt8)) (w : Wired) : Prop where
  queue : w.queue = (ms.map fun m => encode m.1 m.2).flatten
  fits : ∀ m ∈ ms, m.2.length < 2 ^ 32
  goesOn : ∀ m ∈ ms, m.1 ≠ .ENDOFFILE
  read : w.srv.channel ≠ none →
    ∀ stdout, payloads (streamType stdout) ms = (w.output stdout).read
  shut : w.alive = false →
    ∀ stdout, (w.output stdout).content = [] ∧ (w.output stdout).waiting = []

variable {env : Env} {capacity : ℕ} {w w' : Wired} {srv' : S3TPServer} {old new : Process}
  {ms : List (MessageType × List UInt8)}

private theorem mirrors_opened {srv : S3TPServer} : Mirrors [] (opened srv) where
  queue := rfl
  fits := by simp
  goesOn := by simp
  read _ _ := rfl
  shut _ _ := ⟨rfl, rfl⟩

theorem Mirrors.carried (mirrors : Mirrors ms w) :
    (ms.map fun m => (m.1, S3tp.carried m.2)) = ms := by
  have same : ∀ m ∈ ms, (m.1, S3tp.carried m.2) = m := by
    intro m mem
    rw [carried_of_fits (mirrors.fits m mem)]
  exact (List.map_congr_left same).trans (List.map_id' ms)

theorem Mirrors.complete (mirrors : Mirrors ms w) : w.Complete := by
  intro before text rest split
  rw [mirrors.queue, messages_encode, mirrors.carried] at split
  have mem : (MessageType.ENDOFFILE, text) ∈ ms := by
    rw [split]
    exact List.mem_append_right before List.mem_cons_self
  exact absurd rfl (mirrors.goesOn _ mem)

theorem Mirrors.after (mirrors : Mirrors ms w) (hp : w.srv.process = some old)
    (hp' : srv'.process = some new) (channel : srv'.channel = w.srv.channel ∨ srv'.channel = none)
    (recedes : w.srv.Recedes srv') : Mirrors ms (w.after capacity srv') := by
  rw [after_busy capacity hp hp', recedes.queuedBetween, List.append_nil]
  refine ⟨mirrors.queue, mirrors.fits, mirrors.goesOn, ?_, ?_⟩
  · intro up stdout
    have upBefore : w.srv.channel ≠ none := by
      rcases channel with same | dropped
      · rw [← same]
        exact up
      · exact absurd dropped up
    rw [mirrors.read upBefore stdout]
    dsimp only
    split
    · rfl
    · rfl
  · intro dead stdout
    have stopped : new.child ≠ .running := by
      simpa [alive, hp'] using dead
    dsimp only
    by_cases running : old.child = .running
    · rw [if_pos ⟨running, stopped⟩]
      exact ⟨rfl, rfl⟩
    · rw [if_neg (fun both => running both.1)]
      apply mirrors.shut
      simp [alive, hp, running]

variable (capacity) in
theorem Mirrors.arrived (mirrors : Mirrors ms w) {stdout : Bool} {size : ℕ} (living : w.alive = true)
    (small : size ≤ suggestedSize)
    (h : w.srv.send env ((w.output stdout).content.take size) (streamType stdout) = some srv') :
    ∃ ms', Mirrors ms'
      ((w.setOutput stdout ((w.output stdout).take size)).after capacity srv') := by
  set bytes := (w.output stdout).content.take size
  set taken := w.setOutput stdout ((w.output stdout).take size)
  obtain ⟨old, new, hp, running, hp', muted⟩ := process_send living h
  have child : new.child = old.child := (Process.eq_of_muted muted).1
  have hpTaken : taken.srv.process = some old := hp
  have queue : (taken.after capacity srv').queue = w.queue ++ w.srv.queuedBetween srv' := by
    rw [after_busy capacity hpTaken hp']
    rfl
  have output : (taken.after capacity srv').output = taken.output :=
    output_after hpTaken hp' child
  have shut : (taken.after capacity srv').alive ≠ false := by
    have still : (taken.after capacity srv').alive = true := by
      apply alive_iff.mpr
      rw [srv_after]
      exact ⟨new, hp', child.trans running⟩
    simp [still]
  by_cases up : w.srv.channel ≠ none
  · obtain ⟨queued, channel, _⟩ :=
      S3TPServer.send_queues (alive_busy living) up (streamType_ne stdout).1 h
    have fits : bytes.length < 2 ^ 32 := by
      have le : bytes.length ≤ size := List.length_take_le _ _
      have bound : suggestedSize < 2 ^ 32 := by decide
      omega
    refine ⟨ms ++ [(streamType stdout, bytes)], ?_, ?_, ?_, ?_, fun dead => absurd dead shut⟩
    · rw [queue, S3TPServer.queuedBetween_append queued, mirrors.queue, List.map_append,
        List.flatten_append]
      simp
    · exact List.forall_mem_append.mpr ⟨mirrors.fits, List.forall_mem_singleton.mpr fits⟩
    · exact List.forall_mem_append.mpr
        ⟨mirrors.goesOn, List.forall_mem_singleton.mpr (streamType_ne stdout).2⟩
    · intro _ stdout'
      rw [output]
      have before := mirrors.read up stdout'
      by_cases this : stdout' = stdout
      · subst this
        have last : payloads (streamType stdout') (ms ++ [(streamType stdout', bytes)]) =
            payloads (streamType stdout') ms ++ bytes :=
          payloads_of_eq (rfl : (streamType stdout', bytes).1 = streamType stdout')
        rw [last, before, setOutput_self]
        rfl
      · have other : streamType stdout ≠ streamType stdout' :=
          fun h => this (streamType_inj h).symm
        rw [payloads_of_ne other, before, setOutput_of_ne this]
  · -- nothing is queued without a channel
    have down : w.srv.channel = none := not_not.mp up
    obtain rfl := Option.some.inj ((S3TPServer.send_down down).symm.trans h)
    refine ⟨ms, ?_, mirrors.fits, mirrors.goesOn, ?_, fun dead => absurd dead shut⟩
    · rw [queue, S3TPServer.Recedes.refl.queuedBetween, List.append_nil, mirrors.queue]
    · intro up'
      rw [srv_after] at up'
      exact absurd down up'

/-- The end of the process is told after all that it has written, exactly if nothing was
discarded when its pipes were closed. -/
theorem Mirrors.reported (mirrors : Mirrors ms w) (up : w.srv.channel ≠ none)
    (dead : w.alive = false) (idle : srv'.process = none) {text : List UInt8}
    (queued : srv'.queuedBytes = w.srv.queuedBytes ++ encode .ENDOFFILE text) :
    (w.after capacity srv').Complete ↔ ∀ stdout, (w.output stdout).discarded = [] := by
  have whole : messages (w.after capacity srv').queue =
      ms ++ [(.ENDOFFILE, S3tp.carried text)] := by
    have grown : w.queue ++ w.srv.queuedBetween srv' =
        ((ms ++ [(MessageType.ENDOFFILE, text)]).map fun m => encode m.1 m.2).flatten := by
      rw [S3TPServer.queuedBetween_append queued, mirrors.queue, List.map_append,
        List.flatten_append]
      simp
    have all := messages_encode (ms ++ [(.ENDOFFILE, text)])
    rw [← grown, List.map_append, mirrors.carried] at all
    rw [after_end idle]
    exact all
  have output : (w.after capacity srv').output = w.output := by
    rw [after_end idle]
  have read (stdout : Bool) : (w.output stdout).read = (w.output stdout).written ↔
      (w.output stdout).discarded = [] :=
    Pipe.read_iff (mirrors.shut dead stdout).1 (mirrors.shut dead stdout).2
  constructor
  · intro complete stdout
    apply (read stdout).mp
    rw [← mirrors.read up stdout, ← output]
    exact complete ms (S3tp.carried text) [] whole stdout
  · intro nothing before text' rest split stdout
    rw [whole] at split
    have all : before = ms := by
      rcases List.append_eq_append_iff.mp split with ⟨as, rfl, last⟩ | ⟨bs, rfl, first⟩
      · have length := congrArg List.length last
        simp only [List.length_append, List.length_cons, List.length_nil] at length
        have none : as.length = 0 := by omega
        rw [List.eq_nil_of_length_eq_zero none, List.append_nil]
      · cases bs with
        | nil => rw [List.append_nil]
        | cons m bs =>
          obtain ⟨rfl, _⟩ := List.cons.inj first
          have mem : (MessageType.ENDOFFILE, text') ∈ before ++ (.ENDOFFILE, text') :: bs :=
            List.mem_append_right before List.mem_cons_self
          exact absurd rfl (mirrors.goesOn _ mem)
    rw [all, mirrors.read up stdout, output]
    exact (read stdout).mpr (nothing stdout)

structure Tracked (w : Wired) : Prop where
  known : S3TPServer.Known 0 w.srv
  mirrors : w.srv.process ≠ none → ∃ ms, Mirrors ms w
  complete : w.Complete

private theorem complete_of_recedes (complete : w.Complete) (idle : srv'.process = none)
    (recedes : w.srv.Recedes srv') : (w.after capacity srv').Complete := by
  have same : (w.after capacity srv').queue = w.queue := by
    rw [after_end idle, recedes.queuedBetween, List.append_nil]
  intro ms text rest split
  rw [same] at split
  rw [after_end idle]
  exact complete ms text rest split

private theorem drained_of_silent {input : Input}
    (silent : input = .handleClosed → w.srv.reportedExit = none) :
    Drained ⟨w, .callback input, w'⟩ := by
  rintro ⟨label, reported, _⟩
  have closed : input = .handleClosed := Event.callback.inj label
  exact absurd (silent closed) reported

private theorem drained_of_label {event : Event} (other : event ≠ .callback .handleClosed) :
    Drained ⟨w, event, w'⟩ := by
  rintro ⟨label, _⟩
  exact absurd label other

theorem Mirrors.tracked (mirrors : Mirrors ms w) (known : S3TPServer.Known 0 w.srv) :
    Tracked w where
  known := known
  mirrors _ := ⟨ms, mirrors⟩
  complete := mirrors.complete

private theorem tracked_of_idle (idle : w.srv.process = none) (known : S3TPServer.Known 0 w.srv)
    (complete : w.Complete) : Tracked w where
  known := known
  mirrors busy := absurd idle busy
  complete := complete

theorem Tracked.hinges {event : Event} (kept : Tracked w') (drained : Drained ⟨w, event, w'⟩) :
    Hinges w'.Complete (Drained ⟨w, event, w'⟩) (Tracked w') :=
  .of_holds kept.complete drained kept

theorem Tracked.busy (tracked : Tracked w) {process : Process} {input : Input}
    (hp : w.srv.process = some process) (other : ∀ stdout bytes, input ≠ .output stdout bytes)
    (h : w.srv.next env input = some srv') :
    Hinges (w.after capacity srv').Complete
      (Drained ⟨w, .callback input, w.after capacity srv'⟩) (Tracked (w.after capacity srv')) := by
  have busy : w.srv.process ≠ none := by
    rw [hp]
    exact Option.some_ne_none _
  have known : S3TPServer.Known 0 (w.after capacity srv').srv := by
    rw [srv_after]
    exact S3TPServer.known_next tracked.known h
  obtain ⟨ms, mirrors⟩ := tracked.mirrors busy
  have ended (idle : srv'.process = none) (complete : (w.after capacity srv').Complete) :
      Tracked (w.after capacity srv') := by
    apply tracked_of_idle _ known complete
    rw [srv_after, idle]
  cases S3TPServer.effect_next hp other h with
  | holds held uneventful =>
    obtain ⟨new, hp', _⟩ := S3TPServer.process_of_muted held.process hp
    have kept : Mirrors ms (w.after capacity srv') := mirrors.after hp hp' held.channel held.recedes
    apply (kept.tracked known).hinges
    apply drained_of_silent
    rintro rfl
    exact uneventful
  | passes _ hp' channel recedes _ =>
    have kept : Mirrors ms (w.after capacity srv') := mirrors.after hp hp' (Or.inl channel) recedes
    exact (kept.tracked known).hinges (drained_of_silent (by simp))
  | @exits exitStatus signal running =>
    have hp' : (w.srv.exitCb exitStatus signal).process =
        some (process.exitCb exitStatus signal) := by
      rw [S3TPServer.exitCb, hp]
      rfl
    have kept : Mirrors ms (w.after capacity (w.srv.exitCb exitStatus signal)) :=
      mirrors.after hp hp' (Or.inl rfl) .refl
    exact (kept.tracked known).hinges (drained_of_silent (by simp))
  | ceases _ silent =>
    have kept : Mirrors ms
        (w.after capacity { w.srv with process := some { process with child := .gone } }) :=
      mirrors.after hp rfl (Or.inl rfl) .refl
    exact (kept.tracked known).hinges (drained_of_silent fun _ => silent)
  | reports reported exits =>
    have idle : srv'.process = none := S3TPServer.process_onExit exits
    obtain ⟨process', _, hp', child, _⟩ := S3TPServer.reportedExit_inv reported
    have dead : w.alive = false := by
      simp [alive, hp', child]
    rcases S3TPServer.onExit_busy busy tracked.known.below exits with
      ⟨stays, queued⟩ | ⟨lost, recedes⟩
    · have up : w.srv.channel ≠ none :=
        (S3TPServer.onExit_isSome_iff.mp (Option.isSome_of_eq_some exits)).1
      have share : (w.after capacity srv').Complete ↔ _ :=
        mirrors.reported up dead idle queued
      have told : Reports ⟨w, .callback .handleClosed, w.after capacity srv'⟩ := by
        refine ⟨rfl, ?_, srv_after.symm ▸ stays⟩
        rw [reported]
        exact Option.some_ne_none _
      refine ⟨share.trans ⟨fun nothing _ => nothing, fun drained => drained told⟩, ?_⟩
      intro drained
      exact ended idle (share.mpr (drained told))
    · have complete : (w.after capacity srv').Complete :=
        complete_of_recedes mirrors.complete idle recedes
      apply (ended idle complete).hinges
      rintro ⟨_, _, stays⟩
      rw [srv_after] at stays
      exact absurd stays lost
  | abandons _ idle recedes _ =>
    have complete : (w.after capacity srv').Complete :=
        complete_of_recedes mirrors.complete idle recedes
    exact (ended idle complete).hinges (drained_of_silent (by simp))

theorem Tracked.callback (tracked : Tracked w) {input : Input}
    (other : ∀ stdout bytes, input ≠ .output stdout bytes)
    (h : w.srv.next env input = some srv') :
    Hinges (w.after capacity srv').Complete
      (Drained ⟨w, .callback input, w.after capacity srv'⟩) (Tracked (w.after capacity srv')) := by
  cases hp : w.srv.process with
  | some process => exact tracked.busy hp other h
  | none =>
    have silent : w.srv.reportedExit = none := by
      rw [S3TPServer.reportedExit, hp]
    have known : S3TPServer.Known 0 (w.after capacity srv').srv := by
      rw [srv_after]
      exact S3TPServer.known_next tracked.known h
    have drained : Drained ⟨w, .callback input, w.after capacity srv'⟩ :=
      drained_of_silent fun _ => silent
    rcases S3TPServer.idle_next hp h with ⟨idle, recedes⟩ | ⟨command, child, starts, _⟩
    · refine (tracked_of_idle ?_ known ?_).hinges drained
      · rw [srv_after, idle]
      · exact complete_of_recedes tracked.complete idle recedes
    · have busy : srv'.process ≠ none := by
        intro idle
        rw [idle] at starts
        cases starts
      have fresh : w.after capacity srv' = opened srv' := after_start hp busy
      rw [fresh] at known drained ⊢
      exact (mirrors_opened.tracked known).hinges drained

theorem Mirrors.wrote (mirrors : Mirrors ms w) (living : w.alive = true) (stdout : Bool)
    (bytes : List UInt8) :
    Mirrors ms (w.setOutput stdout ((w.output stdout).write capacity bytes)) where
  queue := mirrors.queue
  fits := mirrors.fits
  goesOn := mirrors.goesOn
  read := by
    intro up stdout'
    rw [mirrors.read up stdout']
    by_cases same : stdout' = stdout
    · rw [same, setOutput_self, Pipe.read_write]
    · rw [setOutput_of_ne same]
  shut dead := absurd (living.symm.trans dead) (by decide)

theorem Tracked.stdin (tracked : Tracked w) (pipe : Pipe UInt8) :
    Tracked { w with stdin := pipe } where
  known := tracked.known
  mirrors busy := by
    obtain ⟨ms, mirrors⟩ := tracked.mirrors busy
    exact ⟨ms, mirrors.queue, mirrors.fits, mirrors.goesOn, mirrors.read, mirrors.shut⟩
  complete := tracked.complete

theorem Tracked.step (tracked : Tracked w) {event : Event} (h : Step env capacity w event w') :
    Hinges w'.Complete (Drained ⟨w, event, w'⟩) (Tracked w') := by
  cases moves h with
  | callback other goes => exact tracked.callback other goes
  | @wrote stdout bytes living =>
    obtain ⟨ms, mirrors⟩ := tracked.mirrors (alive_busy living)
    have written : Mirrors ms (w.setOutput stdout ((w.output stdout).write capacity bytes)) :=
      mirrors.wrote living stdout bytes
    exact (written.tracked tracked.known).hinges (drained_of_label (by simp))
  | arrived living small goes sends =>
    obtain ⟨ms, mirrors⟩ := tracked.mirrors (alive_busy living)
    obtain ⟨ms', grown⟩ := mirrors.arrived capacity living small sends
    refine (grown.tracked ?_).hinges (drained_of_label (by simp))
    rw [srv_after]
    exact S3TPServer.known_next tracked.known goes
  | flushed =>
    have same := tracked.stdin (w.stdin.pump capacity)
    exact same.hinges (drained_of_label (by simp))
  | @consumed size =>
    have same := tracked.stdin (w.stdin.take size)
    exact same.hinges (drained_of_label (by simp))

/-- In every state of a run the client was told the end of a process only after all its output,
exactly if for every process whose end is told on a connection that stays up, the output pipes
were empty when its exit callback closed them. -/
theorem complete_iff {srv₀ : S3TPServer} {ts : List (Transition Wired Event)}
    (starts : S3TPServer.start env = some srv₀)
    (run : Run (Step env capacity) (opened srv₀) ts w) :
    (∀ t ∈ ts, t.target.Complete) ↔ ∀ t ∈ ts, Drained t := by
  apply run.forall_iff (I := Tracked)
  · have known : S3TPServer.Known 0 srv₀ :=
      S3TPServer.known_reconnect S3TPServer.known_new starts
    exact mirrors_opened.tracked known
  · intro s event s' tracked step
    exact tracked.step step

/-- A child that ends while its output is stopped. -/
def stoppedEnd : List Event :=
  [.callback (.data (encode .NONE [108, 115, 10])), .callback .bufferFull, .wrote true [97, 10],
    .callback (.exited 0 0), .callback .handleClosed]

/-- The end is told first, although the child has written something. -/
def toldFirst (ts : List (Transition Wired Event)) : Bool :=
  ts.any fun t => decide (messages t.target.queue = [(.ENDOFFILE, S3TPServer.exitText 0)] ∧
    (t.target.output true).written ≠ [])

theorem complete_iff_stopped :
    ∃ ts w, Run (Step Env.fine 65536) (opened S3TPServer.new.connected) ts w ∧
      ts.map Transition.label = stoppedEnd ∧
      ((∀ t ∈ ts, t.target.Complete) ↔ ∀ t ∈ ts, Drained t) := by
  obtain ⟨ts, w, run, labels, _⟩ :=
    exists_trace (stepped Env.fine 65536) (opened S3TPServer.new.connected) stoppedEnd
      toldFirst (by decide +kernel)
  exact ⟨ts, w, run, labels, complete_iff S3TPServer.start_fine run⟩

/-- Output that is still in its pipe when the child ends is lost. -/
theorem unread_output_lost :
    ¬ ∀ (env : Env) (capacity : ℕ) (srv₀ : S3TPServer) (ts : List (Transition Wired Event))
      (w : Wired), S3TPServer.start env = some srv₀ →
        Run (Step env capacity) (opened srv₀) ts w → ∀ t ∈ ts, t.target.Complete := by
  intro claim
  obtain ⟨ts, w, run, _, test⟩ :=
    exists_trace (stepped Env.fine 65536) (opened S3TPServer.new.connected) stoppedEnd
      toldFirst (by decide +kernel)
  obtain ⟨t, mem, told⟩ := List.any_eq_true.mp test
  obtain ⟨queue, some_⟩ := of_decide_eq_true told
  have complete : t.target.Complete := claim _ _ _ ts w S3TPServer.start_fine run t mem
  exact some_ (complete [] _ [] queue true).symm

end Wired

end Horst.S3tp
