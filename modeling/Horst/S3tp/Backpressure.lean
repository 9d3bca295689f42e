import Horst.S3tp.Delivery
import Horst.S3tp.NullChannel

/-!
While output waits for the channel, the output of the process is not read.
-/

set_option autoImplicit false
set_option relaxedAutoImplicit false

namespace Horst.S3tp

open Foundation Foundation.Framing

/-- A frame with output: neither that of the start nor that of the end of a command. -/
def isOutput (message : MessageType × List UInt8) : Bool :=
  decide (message.1 ≠ .STARTED ∧ message.1 ≠ .ENDOFFILE)

private theorem Process.reading_passed
    (process : Process) (type : MessageType) (payload : List UInt8) :
    (process.passed type payload).reading = process.reading := by
  rw [passed]
  split
  · rfl
  · rw [input]
    split
    · rfl
    · rfl

namespace S3TPServer

/-- What waits are the last frames, with at most one of output. -/
def OneWaits (frames : List (MessageType × List UInt8)) (srv : S3TPServer) : Prop :=
  ∃ waiting, waiting <:+ frames ∧ srv.outbuf = encodeAll waiting ∧ waiting.countP isOutput ≤ 1

/-- While anything waits, no output of a running process is read. -/
structure Backpressure (frames : List (MessageType × List UInt8)) (srv : S3TPServer) : Prop where
  stopped : ∀ process, srv.process = some process → process.child = .running →
    srv.outbuf ≠ [] → process.reading = false
  bounded : OneWaits frames srv

def Heeds (env : Env) (early : List (Transition S3TPServer Input))
    (t : Transition S3TPServer Input) : Prop :=
  t.target.channel ≠ none → Backpressure (framesOf env (early ++ [t])) t.target

/-- The buffer of the channel is not full for the message that a command was received. -/
def Clear (env : Env) (t : Transition S3TPServer Input) : Prop :=
  t.source.Asks t.label → env.uvSpawn t.source.spawns = true →
    env.send t.source.sends ≠ .bufferFull

/-- The output of the process is read only if nothing waits. -/
def Quelled (srv : S3TPServer) : Prop := srv.process.any Process.reading = true → srv.outbuf = []

/-- What waits afterwards are the last of the frames that waited and of the new ones. -/
def Queues (ms : List (MessageType × List UInt8)) (srv srv' : S3TPServer) : Prop :=
  ∀ waiting, srv.outbuf = encodeAll waiting →
    ∃ waiting', waiting' <:+ waiting ++ ms ∧ srv'.outbuf = encodeAll waiting'

structure Tracked (frames : List (MessageType × List UInt8)) (srv : S3TPServer) : Prop where
  quelled : srv.channel ≠ none → Quelled srv
  waits : srv.channel ≠ none → OneWaits frames srv

variable {env : Env} {srv srv' srv'' : S3TPServer} {input : Input} {type : MessageType}
  {msg command : List UInt8} {ms ms' frames : List (MessageType × List UInt8)}

section Reading

private theorem Quelled.of_silent
    (silent : srv.process.any Process.reading = false) : Quelled srv := by
  intro reading
  rw [silent] at reading
  cases reading

private theorem Quelled.of_idle (idle : srv.process = none) : Quelled srv := by
  apply of_silent
  rw [idle]
  rfl

private theorem Quelled.of_empty (empty : srv.outbuf = []) : Quelled srv := fun _ => empty

private theorem silent_stopOutput : srv.stopOutput.process.any Process.reading = false := by
  rw [stopOutput]
  cases srv.process with
  | none => rfl
  | some process => rfl

private theorem silent_sendBuf (silent : srv.process.any Process.reading = false)
    (h : srv.sendBuf env = some srv') : srv'.process.any Process.reading = false := by
  rcases sendBuf_cases h with rfl | ⟨_, rfl | rfl | closes⟩
  · exact silent
  · exact silent_stopOutput
  · exact silent
  · have reconnects : (srv.tried.record .closed).dropped.reconnect env = some srv' := closes
    rcases reconnect_inv reconnects with ⟨_, rfl⟩ | ⟨_, _, rfl⟩ | ⟨_, _, _, rfl⟩ | ⟨_, _, _, rfl⟩
    · exact silent
    · exact silent
    · exact silent
    · exact silent

private theorem silent_send (silent : srv.process.any Process.reading = false)
    (h : srv.send env msg type = some srv') : srv'.process.any Process.reading = false := by
  rcases send_cases h with rfl | ⟨_, sends⟩
  · exact silent
  · have queued : (srv.queued type msg).process.any Process.reading = false := silent
    exact silent_sendBuf queued sends

private theorem silent_adopt {process : Process} (unspawned : process.child = .unspawned)
    (silent : process.reading = false) (h : srv.adopt env process = some srv') :
    srv'.process.any Process.reading = false := by
  obtain ⟨srv₁, sends, ends⟩ := Option.bind_eq_some_iff.mp h
  obtain rfl := Option.some.inj ends
  set adopted : S3TPServer := { srv with process := some process }
  have busy : adopted.process ≠ none := Option.some_ne_none process
  have same : srv₁.process.map Process.muted = some process.muted := muted_send busy sends
  obtain ⟨new, hp, muted⟩ := Option.map_eq_some_iff.mp same
  have child : new.child = .unspawned := (Process.eq_of_muted muted).1.trans unspawned
  have silentBefore : adopted.process.any Process.reading = false := silent
  have silentAfter := silent_send silentBefore sends
  rw [hp] at silentAfter
  have notRunning : new.child ≠ .running := by
    rw [child]
    decide
  rw [startOutput, hp, Option.map_some, Process.startOutput, if_neg notRunning]
  exact silentAfter

private theorem outbuf_reconnect (down : srv.channel = none) (h : srv.reconnect env = some srv')
    (up : srv'.channel ≠ none) : srv'.outbuf = [] := by
  rcases reconnect_inv h with ⟨here, _⟩ | ⟨_, _, rfl⟩ | ⟨_, _, _, rfl⟩ | ⟨_, _, _, rfl⟩
  · exact absurd down here
  · exact absurd down up
  · rfl
  · rfl

private theorem outbuf_sendBuf (answered : env.send srv.sends ≠ .bufferFull)
    (h : srv.sendBuf env = some srv') (up : srv'.channel ≠ none) : srv'.outbuf = [] := by
  by_cases pending : srv.outbuf = []
  · obtain rfl := Option.some.inj ((sendBuf_idle pending).symm.trans h)
    exact pending
  · have upBefore : srv.channel ≠ none :=
      (sendBuf_isSome_iff.mp (Option.isSome_of_eq_some h)).resolve_left pending
    cases answer : env.send srv.sends with
    | accepted =>
      obtain rfl := Option.some.inj ((sendBuf_accepted pending upBefore answer).symm.trans h)
      rfl
    | bufferFull => exact absurd answer answered
    | failed =>
      have reconnects : (srv.tried.record .closed).dropped.reconnect env = some srv' :=
        (sendBuf_failed pending upBefore answer).symm.trans h
      exact outbuf_reconnect rfl reconnects up

private theorem quelled_sendBuf (h : srv.sendBuf env = some srv') (up : srv'.channel ≠ none) :
    Quelled srv' := by
  by_cases pending : srv.outbuf = []
  · obtain rfl := Option.some.inj ((sendBuf_idle pending).symm.trans h)
    exact .of_empty pending
  · by_cases full : env.send srv.sends = .bufferFull
    · have upBefore : srv.channel ≠ none :=
        (sendBuf_isSome_iff.mp (Option.isSome_of_eq_some h)).resolve_left pending
      obtain rfl := Option.some.inj ((sendBuf_full pending upBefore full).symm.trans h)
      exact .of_silent silent_stopOutput
    · exact .of_empty (outbuf_sendBuf full h up)

theorem Quelled.send (quelled : Quelled srv) (h : srv.send env msg type = some srv')
    (up : srv'.channel ≠ none) : Quelled srv' := by
  rcases send_cases h with rfl | ⟨_, sends⟩
  · exact quelled
  · exact quelled_sendBuf sends up

private theorem quelled_adopt {process : Process} (answered : env.send srv.sends ≠ .bufferFull)
    (up : srv.channel ≠ none) (h : srv.adopt env process = some srv')
    (upAfter : srv'.channel ≠ none) : Quelled srv' := by
  obtain ⟨srv₁, sends, ends⟩ := Option.bind_eq_some_iff.mp h
  obtain rfl := Option.some.inj ends
  set adopted : S3TPServer := { srv with process := some process }
  have upNow : adopted.channel ≠ none := up
  have queued : (adopted.queued .STARTED []).sendBuf env = some srv₁ :=
    sendBuf_of_send upNow (by decide) sends
  have answeredNow : env.send (adopted.queued .STARTED []).sends ≠ .bufferFull := answered
  have empty : srv₁.outbuf = [] := outbuf_sendBuf answeredNow queued upAfter
  exact .of_empty empty

private theorem quelled_startProcess (up : srv.channel ≠ none)
    (clear : env.uvSpawn srv.spawns = true → env.send srv.sends ≠ .bufferFull)
    (h : srv.startProcess env command = some srv') (upAfter : srv'.channel ≠ none) :
    Quelled srv' := by
  cases startProcess_inv h with
  | spawned spawned adopts =>
    have upAsked : (srv.asked command).channel ≠ none := up
    have answered : env.send (srv.asked command).sends ≠ .bufferFull := clear spawned
    exact quelled_adopt answered upAsked adopts upAfter
  | fails _ _ adopts => exact .of_silent (silent_adopt rfl rfl adopts)

theorem Quelled.onDataReceived {bytes : List UInt8} (quelled : Quelled srv)
    (up : srv.channel ≠ none)
    (clear : srv.Asks (.data bytes) → env.uvSpawn srv.spawns = true →
      env.send srv.sends ≠ .bufferFull)
    (h : srv.onDataReceived env bytes = some srv') (upAfter : srv'.channel ≠ none) :
    Quelled srv' := by
  cases receive_inv h with
  | short _ _ => exact quelled
  | zero _ _ _ closes =>
    have reconnects : ((srv.headed bytes).record .closed).dropped.reconnect env = some srv' :=
      closes
    exact .of_empty (outbuf_reconnect rfl reconnects upAfter)
  | more _ _ _ => exact quelled
  | @whole srv₁ whole dispatches =>
    cases dispatch_inv dispatches with
    | @input process running =>
      have hp : srv.process = some process := running
      have same : (process.passed (srv.typeRead env bytes) (srv.headed bytes).payload).reading =
          process.reading := process.reading_passed _ _
      intro reading
      apply quelled
      rw [hp]
      exact same.symm.trans reading
    | command idle starts =>
      have upHeaded : (srv.headed bytes).channel ≠ none := up
      have started : Quelled srv₁ :=
        quelled_startProcess upHeaded (clear ⟨idle, whole⟩) starts upAfter
      exact started

theorem Quelled.closeCb (quelled : Quelled srv) (h : srv.closeCb env = some srv') :
    Quelled srv' := by
  cases closeCb_inv h with
  | reports _ _ _ _ exits => exact .of_idle (process_onExit exits)
  | same _ _ => exact quelled
  | gone hp _ _ =>
    intro reading
    apply quelled
    rw [hp]
    exact reading

theorem Quelled.exitCb (quelled : Quelled srv) (exitStatus signal : Int) :
    Quelled (srv.exitCb exitStatus signal) := by
  intro reading
  apply quelled
  cases hp : srv.process with
  | none =>
    rw [S3TPServer.exitCb, hp] at reading
    cases reading
  | some process =>
    rw [S3TPServer.exitCb, hp] at reading
    have still : (process.exitCb exitStatus signal).reading = true := reading
    rw [Process.exitCb] at still
    split at still
    · cases still
    · exact still

theorem Quelled.onTimer (quelled : Quelled srv) (h : srv.onTimer env = some srv')
    (up : srv'.channel ≠ none) : Quelled srv' := by
  cases onTimer_inv h with
  | idle _ => exact quelled
  | kill _ reconnects =>
    have idle : srv'.process = none := Option.map_eq_none_iff.mp (sameProcess_reconnect reconnects)
    exact .of_idle idle
  | retry _ reconnects =>
    rcases reconnect_inv reconnects with
      ⟨_, rfl⟩ | ⟨down, _, rfl⟩ | ⟨_, _, _, rfl⟩ | ⟨_, _, _, rfl⟩
    · exact quelled
    · exact absurd down up
    · exact .of_empty rfl
    · exact .of_empty rfl

theorem Quelled.next (quelled : Quelled srv) (up : srv.channel ≠ none)
    (h : srv.next env input = some srv') (upAfter : srv'.channel ≠ none)
    (clear : Clear env ⟨srv, input, srv'⟩) : Quelled srv' := by
  cases input with
  | data bytes => exact quelled.onDataReceived up clear h upAfter
  | disconnected =>
    have reconnects : srv.dropped.reconnect env = some srv' := h
    exact .of_empty (outbuf_reconnect rfl reconnects upAfter)
  | bufferFull =>
    obtain rfl := Option.some.inj h
    exact .of_silent silent_stopOutput
  | bufferEmpty => exact quelled_sendBuf h upAfter
  | polled =>
    obtain rfl := Option.some.inj ((onS3tpEvent_eq env srv).symm.trans h)
    exact quelled
  | output stdout bytes =>
    rcases readCallback_cases h with rfl | ⟨type, _, sends⟩
    · exact quelled
    · exact quelled.send sends upAfter
  | exited exitStatus signal =>
    obtain rfl := Option.some.inj h
    exact quelled.exitCb exitStatus signal
  | handleClosed => exact quelled.closeCb h
  | timeout => exact quelled.onTimer h upAfter

private theorem outbuf_next_down (down : srv.channel = none) (called : Called env srv input srv')
    (up : srv'.channel ≠ none) : srv'.outbuf = [] := by
  obtain ⟨comes, goes⟩ := called
  have h : srv.next env input = some srv' := goes
  cases input with
  | data bytes => exact absurd down comes
  | disconnected => exact absurd down comes
  | bufferFull => exact absurd down comes
  | bufferEmpty => exact absurd down comes
  | polled =>
    obtain rfl := Option.some.inj ((onS3tpEvent_eq env srv).symm.trans h)
    exact absurd down up
  | output stdout bytes =>
    rcases readCallback_cases h with rfl | ⟨type, _, sends⟩
    · exact absurd down up
    · obtain rfl := Option.some.inj ((send_down down).symm.trans sends)
      exact absurd down up
  | exited exitStatus signal =>
    obtain rfl := Option.some.inj h
    exact absurd down up
  | handleClosed =>
    cases closeCb_inv h with
    | reports _ _ _ _ exits =>
      have upBefore : srv.channel ≠ none :=
        (onExit_isSome_iff.mp (Option.isSome_of_eq_some exits)).1
      exact absurd down upBefore
    | same _ _ => exact absurd down up
    | gone _ _ _ => exact absurd down up
  | timeout =>
    cases onTimer_inv h with
    | idle _ => exact absurd down up
    | kill _ reconnects =>
      have forgotten : ({ srv with timer := none } : S3TPServer).forgetProcess.channel = none :=
        down
      exact outbuf_reconnect forgotten reconnects up
    | retry _ reconnects =>
      have stopped : ({ srv with timer := none } : S3TPServer).channel = none := down
      exact outbuf_reconnect stopped reconnects up

end Reading

section Frames

theorem Queues.trans (h : Queues ms srv srv') (h' : Queues ms' srv' srv'') :
    Queues (ms ++ ms') srv srv'' := by
  intro waiting outbuf
  obtain ⟨waiting', ⟨early, whole⟩, outbuf'⟩ := h waiting outbuf
  obtain ⟨waiting'', last, outbuf''⟩ := h' waiting' outbuf'
  refine ⟨waiting'', last.trans ⟨early, ?_⟩, outbuf''⟩
  rw [← List.append_assoc, whole, List.append_assoc]

private theorem Queues.of_outbuf (h : srv'.outbuf = srv.outbuf) : Queues [] srv srv' := by
  intro waiting outbuf
  have last : waiting <:+ waiting ++ [] := ⟨[], (List.append_nil waiting).symm⟩
  exact ⟨waiting, last, h.trans outbuf⟩

private theorem queues_of_empty (h : srv'.outbuf = []) : Queues ms srv srv' :=
  fun _ _ => ⟨[], List.nil_suffix, h⟩

private theorem queues_queued : Queues [(type, msg)] srv (srv.queued type msg) := by
  intro waiting outbuf
  refine ⟨waiting ++ [(type, msg)], List.suffix_rfl, ?_⟩
  rw [encodeAll_append, encodeAll_singleton, ← outbuf]
  rfl

private theorem queues_reconnect (h : srv.reconnect env = some srv') : Queues [] srv srv' := by
  rcases reconnect_inv h with ⟨_, rfl⟩ | ⟨_, _, rfl⟩ | ⟨_, _, _, rfl⟩ | ⟨_, _, _, rfl⟩
  · exact .of_outbuf rfl
  · exact .of_outbuf rfl
  · exact queues_of_empty rfl
  · exact queues_of_empty rfl

private theorem queues_close (h : srv.close env = some srv') : Queues [] srv srv' := by
  have reconnected : Queues [] (srv.record .closed).dropped srv' := queues_reconnect h
  exact reconnected

private theorem queues_sendBuf (h : srv.sendBuf env = some srv') : Queues [] srv srv' := by
  rcases sendBuf_cases h with rfl | ⟨_, rfl | rfl | closes⟩
  · exact .of_outbuf rfl
  · exact .of_outbuf rfl
  · exact queues_of_empty rfl
  · have closed : Queues [] srv.tried srv' := queues_close closes
    exact closed

private theorem queues_send (h : srv.send env msg type = some srv') :
    Queues (srv.sendReplies msg type) srv srv' := by
  rw [send] at h
  rw [sendReplies]
  split at h
  · rename_i nothing
    obtain rfl := Option.some.inj h
    rw [if_pos (Or.inl nothing)]
    exact .of_outbuf rfl
  · rename_i something
    split at h
    · rename_i down
      obtain rfl := Option.some.inj h
      rw [if_pos (Or.inr down)]
      exact .of_outbuf rfl
    · rename_i up
      rw [if_neg (not_or.mpr ⟨something, up⟩)]
      have sends : (srv.queued type msg).sendBuf env = some srv' := of_bind_updateEvents h
      exact queues_queued.trans (queues_sendBuf sends)

private theorem queues_finish (h : srv.finish env = some srv') : Queues [] srv srv' := by
  rw [finish] at h
  split at h
  · exact queues_sendBuf h
  · rw [disconnect] at h
    split at h
    · cases h
    · obtain rfl := Option.some.inj h
      exact .of_outbuf rfl

private theorem queues_onExit {exitCode : Int} (h : srv.onExit env exitCode = some srv') :
    Queues (srv.sendReplies (exitText exitCode) .ENDOFFILE) srv srv' := by
  obtain ⟨srv₁, sends, ends⟩ := Option.bind_eq_some_iff.mp h
  have finished : Queues [] srv₁.forgetProcess srv' := queues_finish ends
  have sent : Queues (srv.sendReplies (exitText exitCode) .ENDOFFILE) srv srv₁ := queues_send sends
  have queued : Queues (_ ++ []) srv srv' := sent.trans finished
  rwa [List.append_nil] at queued

private theorem queues_adopt {process : Process} (h : srv.adopt env process = some srv') :
    Queues (srv.sendReplies [] .STARTED) srv srv' := by
  obtain ⟨srv₁, sends, ends⟩ := Option.bind_eq_some_iff.mp h
  obtain rfl := Option.some.inj ends
  set adopted : S3TPServer := { srv with process := some process }
  have sent : Queues (adopted.sendReplies [] .STARTED) adopted srv₁ := queues_send sends
  exact sent

private theorem queues_startProcess (h : srv.startProcess env command = some srv') :
    Queues (srv.startProcessReplies env command) srv srv' := by
  rw [startProcessReplies]
  cases startProcess_inv h with
  | spawned spawned adopts =>
    rw [if_pos spawned]
    have adopted : Queues ((srv.asked command).sendReplies [] .STARTED) (srv.asked command) srv' :=
      queues_adopt adopts
    exact adopted
  | @fails srv₁ _ fails exits adopts =>
    have ended : Queues ((srv.asked command).sendReplies (exitText (-1)) .ENDOFFILE)
        (srv.asked command) srv₁ := queues_onExit exits
    have queued : Queues (_ ++ srv₁.sendReplies [] .STARTED) (srv.asked command) srv' :=
      ended.trans (queues_adopt adopts)
    simp only [fails, exits, Option.elim_some, if_false, Bool.false_eq_true]
    exact queued

private theorem queues_data {bytes : List UInt8} (h : srv.onDataReceived env bytes = some srv') :
    Queues (srv.replies env (.data bytes)) srv srv' := by
  cases receive_inv h with
  | short _ notYet =>
    rw [replies_incomplete notYet]
    exact .of_outbuf rfl
  | zero _ _ notYet closes =>
    rw [replies_incomplete notYet]
    have closed : Queues [] (srv.headed bytes) srv' := queues_close closes
    exact closed
  | more _ _ notYet =>
    rw [replies_incomplete notYet]
    exact .of_outbuf rfl
  | @whole srv₁ whole dispatches =>
    cases dispatch_inv dispatches with
    | @input process running =>
      have hp : srv.process = some process := running
      rw [replies_busy hp]
      exact .of_outbuf rfl
    | command idle starts =>
      have asks : srv.Asks (.data bytes) := ⟨idle, whole⟩
      rw [replies_asks asks]
      have started : Queues _ (srv.headed bytes) srv₁ := queues_startProcess starts
      exact started

private theorem queues_closeCb (h : srv.closeCb env = some srv') :
    Queues (srv.replies env .handleClosed) srv srv' := by
  rw [replies]
  cases closeCb_inv h with
  | reports _ _ _ reported exits =>
    rw [reported]
    exact queues_onExit exits
  | same _ silent =>
    rw [silent]
    exact .of_outbuf rfl
  | gone _ _ silent =>
    rw [silent]
    exact .of_outbuf rfl

private theorem queues_next (h : srv.next env input = some srv') :
    Queues (srv.replies env input) srv srv' := by
  cases input with
  | data bytes => exact queues_data h
  | disconnected =>
    have reconnects : srv.dropped.reconnect env = some srv' := h
    have reconnected : Queues [] srv.dropped srv' := queues_reconnect reconnects
    exact reconnected
  | bufferFull =>
    obtain rfl := Option.some.inj h
    exact .of_outbuf rfl
  | bufferEmpty =>
    have sends : srv.startOutput.sendBuf env = some srv' := h
    have sent : Queues [] srv.startOutput srv' := queues_sendBuf sends
    exact sent
  | polled =>
    obtain rfl := Option.some.inj ((onS3tpEvent_eq env srv).symm.trans h)
    exact .of_outbuf rfl
  | output stdout bytes =>
    have reads : srv.readCallback env stdout bytes = some srv' := h
    rw [readCallback] at reads
    rw [replies]
    split at reads
    · rename_i comes
      rw [if_pos comes]
      exact queues_send reads
    · rename_i silent
      obtain rfl := Option.some.inj reads
      rw [if_neg silent]
      exact .of_outbuf rfl
  | exited exitStatus signal =>
    obtain rfl := Option.some.inj h
    exact .of_outbuf rfl
  | handleClosed => exact queues_closeCb h
  | timeout =>
    cases onTimer_inv h with
    | idle _ => exact .of_outbuf rfl
    | kill _ reconnects =>
      have reconnected : Queues [] ({ srv with timer := none } : S3TPServer).forgetProcess srv' :=
        queues_reconnect reconnects
      exact reconnected
    | retry _ reconnects =>
      have reconnected : Queues [] { srv with timer := none } srv' := queues_reconnect reconnects
      exact reconnected

private theorem waiting_nil
    {waiting : List (MessageType × List UInt8)} (h : encodeAll waiting = []) :
    waiting = [] := by
  cases waiting with
  | nil => rfl
  | cons message rest =>
    rw [encodeAll_cons] at h
    exact absurd (List.append_eq_nil_iff.mp h).1 (encode_ne_nil _ _)

private theorem countP_sendReplies (quiet : isOutput (type, msg) = false) :
    (srv.sendReplies msg type).countP isOutput = 0 := by
  rw [sendReplies]
  split
  · rfl
  · rw [List.countP_singleton, quiet]
    rfl

private theorem countP_startProcessReplies :
    (srv.startProcessReplies env command).countP isOutput = 0 := by
  have started (adopting : S3TPServer) : (adopting.sendReplies [] .STARTED).countP isOutput = 0 :=
    countP_sendReplies rfl
  rw [startProcessReplies]
  split
  · exact started _
  · rw [List.countP_append, countP_sendReplies rfl]
    cases (srv.asked command).onExit env (-1) with
    | none => rfl
    | some ended =>
      rw [Nat.zero_add]
      exact started ended

private theorem countP_replies (env : Env) (srv : S3TPServer) (input : Input) :
    (srv.replies env input).countP isOutput = 0 ∨
      srv.process.any Process.reading = true ∧ (srv.replies env input).countP isOutput ≤ 1 := by
  cases input with
  | data bytes =>
    left
    rw [replies]
    split
    · exact countP_startProcessReplies
    · rfl
  | output stdout bytes =>
    rw [replies]
    split
    · rename_i comes
      refine Or.inr ⟨comes.1, le_trans List.countP_le_length ?_⟩
      rw [sendReplies]
      split
      · exact Nat.zero_le 1
      · exact le_rfl
    · exact Or.inl rfl
  | handleClosed =>
    left
    rw [replies]
    cases srv.reportedExit with
    | none => rfl
    | some exitStatus => exact countP_sendReplies rfl
  | disconnected => exact Or.inl rfl
  | bufferFull => exact Or.inl rfl
  | bufferEmpty => exact Or.inl rfl
  | polled => exact Or.inl rfl
  | exited exitStatus signal => exact Or.inl rfl
  | timeout => exact Or.inl rfl

private theorem OneWaits.of_empty (empty : srv.outbuf = []) : OneWaits frames srv :=
  ⟨[], List.nil_suffix, empty, Nat.zero_le 1⟩

theorem OneWaits.next (one : OneWaits frames srv) (quelled : Quelled srv)
    (h : srv.next env input = some srv') :
    OneWaits (frames ++ srv.replies env input) srv' := by
  obtain ⟨waiting, ⟨early, whole⟩, outbuf, most⟩ := one
  obtain ⟨waiting', last, outbuf'⟩ := queues_next h waiting outbuf
  refine ⟨waiting', last.trans ⟨early, ?_⟩, outbuf', ?_⟩
  · rw [← List.append_assoc, whole]
  · have count : waiting'.countP isOutput ≤ (waiting ++ srv.replies env input).countP isOutput :=
      last.sublist.countP_le
    rw [List.countP_append] at count
    rcases countP_replies env srv input with none | ⟨reading, added⟩
    · omega
    · have empty : waiting = [] := waiting_nil (outbuf.symm.trans (quelled reading))
      rw [empty, List.countP_nil] at count
      omega

end Frames

private theorem Tracked.backpressure (tracked : Tracked frames srv) (up : srv.channel ≠ none) :
    Backpressure frames srv where
  stopped := by
    intro process hp _ pending
    apply eq_false_of_ne_true
    intro reading
    apply pending
    apply tracked.quelled up
    rw [hp]
    exact reading
  bounded := tracked.waits up

private theorem adopt_full {process : Process} (up : srv.channel ≠ none)
    (full : env.send srv.sends = .bufferFull) (running : process.child = .running)
    (h : srv.adopt env process = some srv') :
    srv'.channel ≠ none ∧ ∃ new, srv'.process = some new ∧ new.child = .running ∧
      new.reading = true ∧ srv'.outbuf ≠ [] := by
  obtain ⟨srv₁, sends, ends⟩ := Option.bind_eq_some_iff.mp h
  obtain rfl := Option.some.inj ends
  set adopted : S3TPServer := { srv with process := some process }
  have upNow : adopted.channel ≠ none := up
  have counts : MessageType.STARTED ≠ .NONE := by decide
  obtain rfl := Option.some.inj ((send_full upNow counts full).symm.trans sends)
  have runs : process.stopOutput.child = .running := running
  refine ⟨up, process.stopOutput.startOutput, rfl, ?_, ?_, outbuf_queued_ne_nil⟩
  · rw [Process.startOutput, if_pos runs]
    exact runs
  · rw [Process.startOutput, if_pos runs]

private theorem not_backpressure (up : srv.channel ≠ none) (asks : srv.Asks input)
    (spawned : env.uvSpawn srv.spawns = true) (full : env.send srv.sends = .bufferFull)
    (h : srv.next env input = some srv') :
    srv'.channel ≠ none ∧ ¬ Backpressure frames srv' := by
  cases input with
  | data bytes =>
    have receives : srv.onDataReceived env bytes = some srv' := h
    rw [receive_complete asks.2] at receives
    obtain ⟨srv₁, dispatches, erases⟩ := Option.bind_eq_some_iff.mp receives
    obtain rfl := Option.some.inj erases
    have idle : (srv.headed bytes).process = none := asks.1
    have spawnedNow : env.uvSpawn (srv.headed bytes).spawns = true := spawned
    have starts := (dispatch_idle idle).symm.trans dispatches
    cases startProcess_inv starts with
    | fails fails _ _ =>
      rw [spawnedNow] at fails
      cases fails
    | spawned _ adopts =>
      have upAsked : ((srv.headed bytes).asked (srv.headed bytes).payload).channel ≠ none := up
      obtain ⟨upAfter, process, hp, running, reading, pending⟩ :=
        adopt_full upAsked full rfl adopts
      refine ⟨upAfter, fun backpressure => ?_⟩
      have stopped : process.reading = false :=
        backpressure.stopped process hp running pending
      rw [reading] at stopped
      cases stopped
  | _ => exact asks.elim

theorem Tracked.next (tracked : Tracked frames srv) (called : Called env srv input srv')
    (clear : Clear env ⟨srv, input, srv'⟩) : Tracked (frames ++ srv.replies env input) srv' := by
  have h : srv.next env input = some srv' := called.2
  by_cases up : srv.channel ≠ none
  · have quelled : Quelled srv := tracked.quelled up
    refine ⟨fun upAfter => quelled.next up h upAfter clear, fun _ => ?_⟩
    exact (tracked.waits up).next quelled h
  · have empty : srv'.channel ≠ none → srv'.outbuf = [] :=
      outbuf_next_down (not_not.mp up) called
    exact ⟨fun upAfter => .of_empty (empty upAfter), fun upAfter => .of_empty (empty upAfter)⟩

private theorem asks_up (called : Called env srv input srv') (asks : srv.Asks input) :
    srv.channel ≠ none := by
  cases input with
  | data bytes => exact called.1
  | _ => exact asks.elim

/-- What one callback does to the backpressure. -/
theorem Tracked.step {ts : List (Transition S3TPServer Input)}
    (tracked : Tracked (framesOf env ts) srv) (called : Called env srv input srv') :
    Hinges (Heeds env ts ⟨srv, input, srv'⟩) (Clear env ⟨srv, input, srv'⟩)
      (Tracked (framesOf env (ts ++ [⟨srv, input, srv'⟩])) srv') := by
  rw [Heeds, framesOf_snoc]
  by_cases clear : Clear env ⟨srv, input, srv'⟩
  · have kept : Tracked (framesOf env ts ++ srv.replies env input) srv' :=
      tracked.next called clear
    exact .of_holds kept.backpressure clear kept
  · refine ⟨iff_of_false ?_ clear, fun holds => absurd holds clear⟩
    intro heeds
    apply clear
    intro asks spawned full
    have up : srv.channel ≠ none := asks_up called asks
    obtain ⟨upAfter, fails⟩ := not_backpressure up asks spawned full called.2
    exact fails (heeds upAfter)

/-- From a server without a connection or with a new one on, whenever a frame waits on a
connection, the output of the process is not read, and at most one frame of output waits,
exactly if no message that a command was received meets a full buffer. -/
theorem backpressure_iff {srv₀ : S3TPServer} {ts : List (Transition S3TPServer Input)}
    (fresh : srv₀.channel ≠ none → srv₀.process = none ∧ srv₀.outbuf = [])
    (run : Run (Called env) srv₀ ts srv) :
    Throughout (Heeds env) ts ↔ ∀ t ∈ ts, Clear env t := by
  rw [← throughout_forall]
  refine run.throughout_iff (I := fun ts srv => Tracked (framesOf env ts) srv) ?_ ?_ ?_
  · exact ⟨fun up => .of_idle (fresh up).1, fun up => .of_empty (fresh up).2⟩
  · intro ts srv input srv' _ tracked called clear
    exact (tracked.step called).keeps clear
  · intro ts srv input srv' _ tracked called
    exact (tracked.step called).share

/-- The output of a command meets a full buffer until the third attempt to send it. -/
def heldOutput : List Input :=
  [.data (encode .NONE [108, 115, 10]), .output true [104, 105, 10], .bufferEmpty, .bufferFull,
    .bufferEmpty, .bufferEmpty, .exited 0 0, .handleClosed]

theorem backpressure_iff_slow :
    ∃ ts srv, Run (Called slow) new.connected ts srv ∧ ts.map Transition.label = heldOutput ∧
      (∃ t ∈ ts, t.target.outbuf = encode .STDOUT [104, 105, 10]) ∧
      (Throughout (Heeds slow) ts ↔ ∀ t ∈ ts, Clear slow t) := by
  obtain ⟨ts, srv, run, labels, held⟩ :=
    exists_trace (called_of_eq slow) new.connected heldOutput
      (fun ts => ts.any fun t => t.target.outbuf = encode .STDOUT [104, 105, 10])
      (by decide +kernel)
  obtain ⟨t, mem, waits⟩ := List.any_eq_true.mp held
  exact ⟨ts, srv, run, labels, ⟨t, mem, of_decide_eq_true waits⟩,
    backpressure_iff (fun _ => ⟨rfl, rfl⟩) run⟩

def crowded : Env := { Env.fine with send := fun _ => .bufferFull }

/-- The message that a command was received waits, and still the output is read. -/
theorem started_while_full :
    ¬ ∀ (env : Env) (srv₀ srv : S3TPServer) (ts : List (Transition S3TPServer Input)),
      start env = some srv₀ → Run (Called env) srv₀ ts srv → Throughout (Heeds env) ts := by
  intro claim
  have starts : start crowded = some new.connected := reconnect_bind rfl rfl ⟨rfl, rfl⟩
  obtain ⟨ts, srv, run, _, full⟩ :=
    exists_trace (called_of_eq crowded) new.connected [.data (encode .NONE [108, 115, 10])]
      (fun ts => ts.any fun t => t.target.channel ≠ none ∧ t.target.outbuf ≠ [] ∧
        t.target.process = some ⟨[108, 115, 10], .running, true, [], true⟩)
      (by decide +kernel)
  obtain ⟨t, mem, passes⟩ := List.any_eq_true.mp full
  obtain ⟨up, pending, hp⟩ := of_decide_eq_true passes
  obtain ⟨early, late, split⟩ := List.append_of_mem mem
  have heeds : Heeds crowded early t := claim crowded _ srv ts starts run early t late split
  have stopped := (heeds up).stopped _ hp rfl pending
  cases stopped

end S3TPServer

end Horst.S3tp
