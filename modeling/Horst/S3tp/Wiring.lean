import Horst.Foundation.Pipe
import Horst.S3tp.Commands
import Horst.S3tp.Reassembly
import Mathlib.Logic.Function.Basic

/-!
The server with the pipes of its process: what the child writes and reads, what the
event loop carries between the pipes and the server, and what is queued for the client.
-/

set_option autoImplicit false
set_option relaxedAutoImplicit false

namespace Horst.S3tp

open Foundation Foundation.Framing

namespace LogEntry

def sent? : LogEntry → Option (List UInt8)
  | .sent bytes => some bytes
  | _ => none

end LogEntry

namespace Process

def muted (process : Process) : Process := { process with reading := false }

variable (process : Process)

@[simp] theorem muted_startOutput : process.startOutput.muted = process.muted := by
  rw [startOutput]
  split
  · rfl
  · rfl

@[simp] theorem child_passed (type : MessageType) (payload : List UInt8) :
    (process.passed type payload).child = process.child := by
  rw [passed]
  split
  · rfl
  · rw [input]
    split
    · rfl
    · rfl

theorem hasIn_passed_eof {type : MessageType} {payload : List UInt8} (eof : type = .ENDOFFILE) :
    (process.passed type payload).hasIn = false := by
  rw [passed, if_pos eof]
  rfl

theorem hasIn_passed_more {type : MessageType} {payload : List UInt8} (more : type ≠ .ENDOFFILE) :
    (process.passed type payload).hasIn = process.hasIn := by
  rw [passed, if_neg more, input]
  split
  · rfl
  · rfl

theorem eq_of_muted {new old : Process} (h : new.muted = old.muted) :
    new.child = old.child ∧ new.hasIn = old.hasIn ∧ new.stdin = old.stdin := by
  have child : new.muted.child = old.muted.child := by rw [h]
  have hasIn : new.muted.hasIn = old.muted.hasIn := by rw [h]
  have stdin : new.muted.stdin = old.muted.stdin := by rw [h]
  exact ⟨child, hasIn, stdin⟩

end Process

namespace S3TPServer

def sentBytes (srv : S3TPServer) : List UInt8 := (srv.log.filterMap LogEntry.sent?).flatten

/-- The bytes that the channels have taken, and those that wait for it. -/
def queuedBytes (srv : S3TPServer) : List UInt8 := srv.sentBytes ++ srv.outbuf

def queuedBetween (srv srv' : S3TPServer) : List UInt8 :=
  srv'.queuedBytes.drop srv.queuedBytes.length

variable {env : Env} {srv srv' srv'' : S3TPServer} {type : MessageType} {msg : List UInt8}

private theorem sentBytes_record {entry : LogEntry} (h : entry.sent? = none) :
    (srv.record entry).sentBytes = srv.sentBytes := by
  rw [sentBytes, log_record, List.filterMap_append]
  simp [h, sentBytes]

theorem queuedBytes_record {entry : LogEntry} (h : entry.sent? = none) :
    (srv.record entry).queuedBytes = srv.queuedBytes := by
  rw [queuedBytes, sentBytes_record h]
  rfl

theorem queuedBytes_queued :
    (srv.queued type msg).queuedBytes = srv.queuedBytes ++ encode type msg :=
  (List.append_assoc _ _ _).symm

theorem queuedBytes_flushed : srv.flushed.queuedBytes = srv.queuedBytes := by
  have nothing : (if srv.process = none then [LogEntry.disconnect] else []).filterMap
      LogEntry.sent? = [] := by
    split
    · rfl
    · rfl
  have sent : srv.flushed.sentBytes = srv.sentBytes ++ srv.outbuf := by
    have last : (LogEntry.sent srv.outbuf ::
        if srv.process = none then [LogEntry.disconnect] else []).filterMap LogEntry.sent? =
        [srv.outbuf] := by
      rw [List.filterMap_cons, nothing]
      rfl
    rw [sentBytes, flushed, List.filterMap_append, last, List.flatten_append,
      List.flatten_singleton]
    rfl
  rw [queuedBytes, sent]
  exact List.append_nil _

theorem queuedBetween_append {bytes : List UInt8}
    (h : srv'.queuedBytes = srv.queuedBytes ++ bytes) : srv.queuedBetween srv' = bytes := by
  rw [queuedBetween, h]
  exact List.drop_left

/-- Nothing is queued, and what was queued but not sent may be given up. -/
def Recedes (srv srv' : S3TPServer) : Prop := srv'.queuedBytes <+: srv.queuedBytes

theorem Recedes.of_eq (h : srv'.queuedBytes = srv.queuedBytes) : Recedes srv srv' :=
  ⟨[], by rw [h, List.append_nil]⟩

theorem Recedes.refl : Recedes srv srv := .of_eq rfl

theorem Recedes.trans (h : Recedes srv srv') (h' : Recedes srv' srv'') : Recedes srv srv'' :=
  List.IsPrefix.trans h' h

theorem Recedes.queuedBetween (h : Recedes srv srv') : srv.queuedBetween srv' = [] := by
  apply List.drop_eq_nil_of_le
  exact h.length_le

private theorem recedes_reset (sent : srv'.sentBytes = srv.sentBytes) (outbuf : srv'.outbuf = []) :
    Recedes srv srv' := by
  rw [Recedes, queuedBytes, outbuf, List.append_nil, sent]
  exact List.prefix_append _ _

private theorem recedes_connected : Recedes srv srv.connected := by
  have sent : (srv.record (.bound srv.binds srv.process [] [] 0)).sentBytes = srv.sentBytes :=
    sentBytes_record rfl
  exact recedes_reset sent rfl

private theorem recedes_arrived {bytes : List UInt8} : Recedes srv (srv.arrived bytes) := by
  have recorded : (srv.record (.received srv.channel bytes)).queuedBytes = srv.queuedBytes :=
    queuedBytes_record rfl
  exact .of_eq recorded

private theorem recedes_reconnect (h : srv.reconnect env = some srv') : Recedes srv srv' := by
  rcases reconnect_inv h with ⟨_, rfl⟩ | ⟨_, _, rfl⟩ | ⟨_, _, _, rfl⟩ | ⟨_, _, _, rfl⟩
  · exact .refl
  · exact .of_eq (queuedBytes_record rfl)
  · exact recedes_connected
  · exact recedes_reset rfl rfl

private theorem recedes_close (h : srv.close env = some srv') : Recedes srv srv' := by
  have closed : Recedes srv (srv.record .closed) := .of_eq (queuedBytes_record rfl)
  have reconnects : Recedes (srv.record .closed).dropped srv' := recedes_reconnect h
  exact closed.trans reconnects

private theorem recedes_sendBuf (h : srv.sendBuf env = some srv') : Recedes srv srv' := by
  rcases sendBuf_cases h with rfl | ⟨_, rfl | rfl | closes⟩
  · exact .refl
  · exact .refl
  · exact .of_eq queuedBytes_flushed
  · have after : Recedes srv.tried srv' := recedes_close closes
    exact after

private theorem recedes_onTimer (h : srv.onTimer env = some srv') : Recedes srv srv' := by
  cases onTimer_inv h with
  | idle _ => exact .refl
  | kill _ reconnects =>
    have after : Recedes ({ srv with timer := none } : S3TPServer).forgetProcess srv' :=
      recedes_reconnect reconnects
    exact after
  | retry _ reconnects =>
    have after : Recedes { srv with timer := none } srv' := recedes_reconnect reconnects
    exact after

/-- The process is the same but for whether its output is read, the channel is the same or
was dropped, and nothing is queued or dispatched. -/
structure Holding (srv srv' : S3TPServer) : Prop where
  process : srv'.process.map Process.muted = srv.process.map Process.muted
  channel : srv'.channel = srv.channel ∨ srv'.channel = none
  recedes : Recedes srv srv'
  dispatched : srv'.dispatched = srv.dispatched

theorem process_of_muted {old : Process}
    (same : srv'.process.map Process.muted = srv.process.map Process.muted)
    (hp : srv.process = some old) :
    ∃ new, srv'.process = some new ∧ new.muted = old.muted := by
  rw [hp] at same
  exact Option.map_eq_some_iff.mp same

theorem Holding.refl : Holding srv srv := ⟨rfl, Or.inl rfl, .refl, rfl⟩

theorem Holding.trans (h : Holding srv srv') (h' : Holding srv' srv'') : Holding srv srv'' where
  process := h'.process.trans h.process
  channel := by
    rcases h'.channel with same | dropped
    · rw [same]
      exact h.channel
    · exact Or.inr dropped
  recedes := h.recedes.trans h'.recedes
  dispatched := h'.dispatched.trans h.dispatched

private theorem holding_stopOutput : Holding srv srv.stopOutput where
  process := by
    rw [stopOutput, Option.map_map]
    rfl
  channel := Or.inl rfl
  recedes := .refl
  dispatched := rfl

private theorem holding_startOutput : Holding srv srv.startOutput where
  process := by
    rw [startOutput, Option.map_map]
    apply Option.map_congr
    intro process _
    exact process.muted_startOutput
  channel := Or.inl rfl
  recedes := .refl
  dispatched := rfl

private theorem holding_dropped : Holding srv srv.dropped := ⟨rfl, Or.inr rfl, .refl, rfl⟩

private theorem holding_reconnect (busy : srv.process ≠ none) (h : srv.reconnect env = some srv') :
    Holding srv srv' := by
  rcases reconnect_inv h with ⟨_, rfl⟩ | ⟨_, _, rfl⟩ | ⟨_, idle, _⟩ | ⟨_, idle, _⟩
  · exact .refl
  · have recedes := recedes_reconnect h
    have dispatched := (quiet_reconnect h).dispatched
    exact ⟨rfl, Or.inl rfl, recedes, dispatched⟩
  · exact absurd idle busy
  · exact absurd idle busy

private theorem holding_close (busy : srv.process ≠ none) (h : srv.close env = some srv') :
    Holding srv srv' where
  process := by
    have reconnects : Holding (srv.record .closed).dropped srv' := holding_reconnect busy h
    exact reconnects.process
  channel := by
    have closes : srv.close env = _ := close_kill busy
    obtain rfl := Option.some.inj (closes.symm.trans h)
    exact Or.inr rfl
  recedes := recedes_close h
  dispatched := (quiet_close h).dispatched

private theorem holding_sendBuf (busy : srv.process ≠ none) (h : srv.sendBuf env = some srv') :
    Holding srv srv' := by
  rcases sendBuf_cases h with rfl | ⟨_, rfl | rfl | closes⟩
  · exact .refl
  · have stopped : Holding srv.tried srv.tried.stopOutput := holding_stopOutput
    exact ⟨stopped.process, Or.inl rfl, .refl, rfl⟩
  · exact ⟨rfl, Or.inl rfl, recedes_sendBuf h, quiet_flushed.dispatched⟩
  · have after : Holding srv.tried srv' := holding_close busy closes
    exact ⟨after.process, after.channel, after.recedes, after.dispatched⟩

theorem send_queues (busy : srv.process ≠ none) (up : srv.channel ≠ none) (counts : type ≠ .NONE)
    (h : srv.send env msg type = some srv') :
    srv'.queuedBytes = srv.queuedBytes ++ encode type msg ∧ srv'.channel = srv.channel ∧
      srv'.process.map Process.muted = srv.process.map Process.muted := by
  cases answer : env.send srv.sends with
  | accepted =>
    obtain rfl := Option.some.inj ((send_accepted up counts answer).symm.trans h)
    refine ⟨?_, rfl, rfl⟩
    rw [queuedBytes_flushed, queuedBytes_queued]
  | bufferFull =>
    obtain rfl := Option.some.inj ((send_full up counts answer).symm.trans h)
    have stopped : Holding (srv.queued type msg).tried (srv.queued type msg).tried.stopOutput :=
      holding_stopOutput
    have queued : (srv.queued type msg).queuedBytes = _ := queuedBytes_queued
    exact ⟨queued, rfl, stopped.process⟩
  | failed =>
    rw [send_lost up counts answer (Or.inl busy)] at h
    cases h

theorem start_fine : start Env.fine = some new.connected := reconnect_bind rfl rfl ⟨rfl, rfl⟩

theorem start_idle (h : start env = some srv) : srv.process = none := by
  have same : SameProcess new srv := sameProcess_reconnect h
  exact Option.map_eq_none_iff.mp same

theorem process_onExit {exitStatus : Int} (h : srv.onExit env exitStatus = some srv') :
    srv'.process = none := by
  obtain ⟨srv₁, _, ends⟩ := Option.bind_eq_some_iff.mp h
  have same : SameProcess srv₁.forgetProcess srv' := by
    rw [finish] at ends
    split at ends
    · exact sameProcess_sendBuf ends
    · rw [disconnect] at ends
      split at ends
      · cases ends
      · obtain rfl := Option.some.inj ends
        rfl
  exact Option.map_eq_none_iff.mp same

theorem onExit_busy {exitStatus : Int} (busy : srv.process ≠ none)
    (below : ∀ n, srv.channel = some n → n < srv.binds)
    (h : srv.onExit env exitStatus = some srv') :
    srv'.channel = srv.channel ∧
        srv'.queuedBytes = srv.queuedBytes ++ encode .ENDOFFILE (exitText exitStatus) ∨
      srv'.channel ≠ srv.channel ∧ Recedes srv srv' := by
  have counts : MessageType.ENDOFFILE ≠ .NONE := by decide
  have up : srv.channel ≠ none := (onExit_isSome_iff.mp (Option.isSome_of_eq_some h)).1
  have queued : (srv.queued .ENDOFFILE (exitText exitStatus)).queuedBytes = _ := queuedBytes_queued
  rw [onExit] at h
  cases answer : env.send srv.sends with
  | failed =>
    rw [send_lost up counts answer (Or.inl busy)] at h
    cases h
  | accepted =>
    rw [send_accepted up counts answer, Option.bind_some] at h
    set sent := ((srv.queued .ENDOFFILE (exitText exitStatus)).flushed).forgetProcess
    have upSent : sent.channel ≠ none := up
    obtain rfl := Option.some.inj ((finish_idle_up rfl upSent).symm.trans h)
    refine Or.inl ⟨rfl, ?_⟩
    rw [queuedBytes_record rfl]
    exact queuedBytes_flushed.trans queued
  | bufferFull =>
    rw [send_full up counts answer, Option.bind_some] at h
    set full := ((srv.queued .ENDOFFILE (exitText exitStatus)).tried.stopOutput).forgetProcess
    have pending : full.outbuf ≠ [] := outbuf_queued_ne_nil
    have upFull : full.channel ≠ none := up
    have whole : full.queuedBytes = srv.queuedBytes ++ encode .ENDOFFILE (exitText exitStatus) :=
      queued
    rw [finish_pending pending] at h
    cases second : env.send full.sends with
    | accepted =>
      obtain rfl := Option.some.inj ((sendBuf_accepted pending upFull second).symm.trans h)
      exact Or.inl ⟨rfl, queuedBytes_flushed.trans whole⟩
    | bufferFull =>
      obtain rfl := Option.some.inj ((sendBuf_full pending upFull second).symm.trans h)
      exact Or.inl ⟨rfl, whole⟩
    | failed =>
      -- the connection is lost, and with it the rest
      rw [sendBuf_failed pending upFull second] at h
      have idle : full.tried.process = none := rfl
      have closed : Recedes srv (srv.record .closed) := .of_eq (queuedBytes_record rfl)
      by_cases connects : full.tried.Connects env
      · have closes : full.tried.close env = _ := close_bind idle connects
        obtain rfl := Option.some.inj (closes.symm.trans h)
        set lost := (full.tried.record .closed).dropped
        have dropped : (srv.record .closed).sentBytes = srv.sentBytes := sentBytes_record rfl
        have bound : (lost.record (.bound lost.binds lost.process [] [] 0)).sentBytes =
            lost.sentBytes := sentBytes_record rfl
        refine Or.inr ⟨?_, recedes_reset (bound.trans dropped) rfl⟩
        intro same
        have lt : srv.binds < srv.binds := below srv.binds same.symm
        exact lt_irrefl _ lt
      · have closes : full.tried.close env = _ := close_retry idle connects
        obtain rfl := Option.some.inj (closes.symm.trans h)
        refine Or.inr ⟨?_, closed.trans (recedes_reset rfl rfl)⟩
        intro same
        exact up same.symm

/-- The callback neither completes a frame nor ends a process nor gives one up. -/
def Uneventful (srv : S3TPServer) : Input → Prop
  | .data bytes => ¬ srv.Completes bytes
  | .handleClosed => srv.reportedExit = none
  | .timeout => srv.timer ≠ some .kill
  | _ => True

inductive Effect (env : Env) (srv : S3TPServer) (process : Process) : Input → S3TPServer → Prop
  | holds {input : Input} {srv' : S3TPServer} :
      Holding srv srv' → srv.Uneventful input → Effect env srv process input srv'
  | passes {bytes : List UInt8} {srv' : S3TPServer} :
      srv.Completes bytes →
      srv'.process = some (process.passed (srv.typeRead env bytes) (srv.headed bytes).payload) →
      srv'.channel = srv.channel → Recedes srv srv' →
      srv'.dispatched = srv.dispatched ++
        [Dispatch.stdin (srv.typeRead env bytes) (srv.headed bytes).payload] →
      Effect env srv process (.data bytes) srv'
  | exits {exitStatus signal : Int} :
      process.child = .running →
      Effect env srv process (.exited exitStatus signal) (srv.exitCb exitStatus signal)
  | ceases {exitStatus signal : Int} :
      process.child = .closing exitStatus signal → srv.reportedExit = none →
      Effect env srv process .handleClosed
        { srv with process := some { process with child := .gone } }
  | reports {exitStatus : Int} {srv' : S3TPServer} :
      srv.reportedExit = some exitStatus → srv.onExit env exitStatus = some srv' →
      Effect env srv process .handleClosed srv'
  | abandons {srv' : S3TPServer} :
      srv.timer = some .kill → srv'.process = none → Recedes srv srv' →
      srv'.dispatched = srv.dispatched → Effect env srv process .timeout srv'

private theorem effect_data
    {process : Process} {bytes : List UInt8} (hp : srv.process = some process)
    (h : srv.onDataReceived env bytes = some srv') : Effect env srv process (.data bytes) srv' := by
  have busy : srv.process ≠ none := by
    rw [hp]
    exact Option.some_ne_none _
  have arrived : Recedes srv (srv.arrived bytes) := recedes_arrived
  have held : Holding srv (srv.arrived bytes) := ⟨rfl, Or.inl rfl, arrived, dispatched_arrived⟩
  have headed : Holding srv (srv.headed bytes) := ⟨rfl, Or.inl rfl, arrived, dispatched_arrived⟩
  cases receive_inv h with
  | short _ notYet => exact .holds held notYet
  | zero _ _ notYet closes => exact .holds (headed.trans (holding_close busy closes)) notYet
  | more _ _ notYet => exact .holds headed notYet
  | @whole srv₁ whole dispatches =>
    have running : (srv.headed bytes).process = some process := hp
    obtain rfl := Option.some.inj ((dispatch_running running).symm.trans dispatches)
    set dispatch := Dispatch.stdin (srv.typeRead env bytes) (srv.headed bytes).payload
    have recorded : ((srv.headed bytes).record (.dispatched srv.channel dispatch)).queuedBytes =
        (srv.headed bytes).queuedBytes := queuedBytes_record rfl
    have added : ((srv.headed bytes).record (.dispatched srv.channel dispatch)).dispatched =
        (srv.headed bytes).dispatched ++ [dispatch] := dispatched_record
    refine .passes whole ?_ ?_ ?_ ?_
    · rfl
    · rfl
    · exact arrived.trans (.of_eq recorded)
    · exact added.trans (congrArg (· ++ [dispatch]) headed.dispatched)

theorem effect_next {process : Process} {input : Input} (hp : srv.process = some process)
    (other : ∀ stdout bytes, input ≠ .output stdout bytes) (h : srv.next env input = some srv') :
    Effect env srv process input srv' := by
  have busy : srv.process ≠ none := by
    rw [hp]
    exact Option.some_ne_none _
  cases input with
  | data bytes => exact effect_data hp h
  | disconnected => exact .holds (holding_dropped.trans (holding_reconnect busy h)) trivial
  | bufferFull =>
    obtain rfl := Option.some.inj h
    exact .holds holding_stopOutput trivial
  | bufferEmpty =>
    have busy' : srv.startOutput.process ≠ none := by
      rw [startOutput, hp]
      exact Option.some_ne_none _
    exact .holds (holding_startOutput.trans (holding_sendBuf busy' h)) trivial
  | polled =>
    obtain rfl := Option.some.inj ((onS3tpEvent_eq env srv).symm.trans h)
    exact .holds .refl trivial
  | output stdout bytes => exact absurd rfl (other stdout bytes)
  | exited exitStatus signal =>
    obtain rfl := Option.some.inj h
    by_cases running : process.child = .running
    · exact .exits running
    · have same : srv.exitCb exitStatus signal = srv := by
        rw [exitCb, hp, Option.map_some, Process.exitCb, if_neg running, ← hp]
      rw [same]
      exact .holds .refl trivial
  | handleClosed =>
    cases closeCb_inv h with
    | reports _ _ _ reported exits => exact .reports reported exits
    | same _ silent => exact .holds .refl silent
    | gone hp' child silent =>
      obtain rfl := Option.some.inj (hp.symm.trans hp')
      exact .ceases child silent
  | timeout =>
    have recedes : Recedes srv srv' := recedes_onTimer h
    have dispatched : srv'.dispatched = srv.dispatched := (quiet_onTimer h).dispatched
    cases onTimer_inv h with
    | idle timer =>
      refine .holds .refl ?_
      rw [Uneventful, timer]
      simp
    | kill timer reconnects =>
      have same := sameProcess_reconnect reconnects
      have idle : srv'.process = none := by
        apply Option.map_eq_none_iff.mp
        exact same
      exact .abandons timer idle recedes dispatched
    | retry timer reconnects =>
      have held : Holding { srv with timer := none } srv' := holding_reconnect busy reconnects
      refine .holds ⟨held.process, held.channel, recedes, dispatched⟩ ?_
      rw [Uneventful, timer]
      simp

theorem Effect.child {process new : Process} {input : Input}
    (effect : Effect env srv process input srv') (hp : srv.process = some process)
    (hp' : srv'.process = some new) (running : new.child = .running) :
    process.child = .running := by
  cases effect with
  | holds held _ =>
    obtain ⟨new', h', muted⟩ := process_of_muted held.process hp
    obtain rfl := Option.some.inj (hp'.symm.trans h')
    exact (Process.eq_of_muted muted).1.symm.trans running
  | passes _ passed _ _ _ =>
    obtain rfl := Option.some.inj (passed.symm.trans hp')
    exact (process.child_passed _ _).symm.trans running
  | exits runs => exact runs
  | ceases _ _ =>
    obtain rfl := Option.some.inj hp'
    cases running
  | reports _ exits =>
    rw [process_onExit exits] at hp'
    cases hp'
  | abandons _ idle _ _ =>
    rw [idle] at hp'
    cases hp'

theorem SameProcess.trans (h : SameProcess srv srv') (h' : SameProcess srv' srv'') :
    SameProcess srv srv'' :=
  Eq.trans h' h

theorem muted_send (busy : srv.process ≠ none) (h : srv.send env msg type = some srv') :
    srv'.process.map Process.muted = srv.process.map Process.muted := by
  rcases send_cases h with rfl | ⟨_, sends⟩
  · rfl
  · have held : Holding (srv.queued type msg) srv' := holding_sendBuf busy sends
    exact held.process

private theorem muted_adopt {process : Process} (h : srv.adopt env process = some srv') :
    srv'.process.map Process.muted = some process.muted := by
  obtain ⟨srv₁, sends, ends⟩ := Option.bind_eq_some_iff.mp h
  obtain rfl := Option.some.inj ends
  have busy : ({ srv with process := some process } : S3TPServer).process ≠ none :=
    Option.some_ne_none _
  have sent : srv₁.process.map Process.muted = some process.muted := muted_send busy sends
  exact holding_startOutput.process.trans sent

theorem muted_startProcess {command : List UInt8}
    (h : srv.startProcess env command = some srv') :
    srv'.process.map Process.muted =
      some ⟨command, if env.uvSpawn srv.spawns = true then .running else .unspawned, true, [],
        false⟩ := by
  rw [startProcess_eq] at h
  obtain ⟨srv₁, _, adopts⟩ := Option.bind_eq_some_iff.mp h
  exact muted_adopt adopts

private theorem process_of_same (idle : srv.process = none) (same : SameProcess srv srv') :
    srv'.process = none := by
  rw [SameProcess, idle] at same
  exact Option.map_eq_none_iff.mp same

private theorem idle_data {bytes : List UInt8} (idle : srv.process = none)
    (h : srv.onDataReceived env bytes = some srv') :
    srv'.process = none ∧ Recedes srv srv' ∨
      ∃ command child, srv'.process.map Process.muted = some ⟨command, child, true, [], false⟩ ∧
        (child = .running ∨ child = .unspawned) ∧
        srv'.dispatched = srv.dispatched ++ [.command command] := by
  have arrived : Recedes srv (srv.arrived bytes) := recedes_arrived
  have headed : Recedes srv (srv.headed bytes) := arrived
  cases receive_inv h with
  | short => exact Or.inl ⟨idle, arrived⟩
  | zero _ _ _ closes =>
    have same : SameProcess ((srv.headed bytes).record .closed).dropped srv' :=
      sameProcess_reconnect closes
    exact Or.inl ⟨process_of_same idle same, headed.trans (recedes_close closes)⟩
  | more => exact Or.inl ⟨idle, headed⟩
  | @whole srv₁ _ dispatches =>
    right
    have waiting : (srv.headed bytes).process = none := idle
    have starts : (srv.headed bytes).startProcess env (srv.headed bytes).payload = some srv₁ :=
      (dispatch_idle waiting).symm.trans dispatches
    have process : srv₁.process.map Process.muted = _ := muted_startProcess starts
    refine ⟨_, _, process, ?_, ?_⟩
    · split
      · exact Or.inl rfl
      · exact Or.inr rfl
    · have started : srv₁.dispatched = _ := (quiet_startProcess starts).dispatched
      have asked : ((srv.headed bytes).asked (srv.headed bytes).payload).dispatched = _ :=
        dispatched_record
      exact started.trans (asked.trans (congrArg (· ++ _) dispatched_arrived))

private theorem idle_onTimer (idle : srv.process = none) (h : srv.onTimer env = some srv') :
    srv'.process = none := by
  cases onTimer_inv h with
  | idle _ => exact idle
  | kill _ reconnects =>
    have same := sameProcess_reconnect reconnects
    exact Option.map_eq_none_iff.mp same
  | retry _ reconnects =>
    have same : SameProcess { srv with timer := none } srv' := sameProcess_reconnect reconnects
    exact process_of_same idle same

theorem idle_next {input : Input} (idle : srv.process = none)
    (h : srv.next env input = some srv') :
    srv'.process = none ∧ Recedes srv srv' ∨
      ∃ command child, srv'.process.map Process.muted = some ⟨command, child, true, [], false⟩ ∧
        (child = .running ∨ child = .unspawned) ∧
        srv'.dispatched = srv.dispatched ++ [.command command] := by
  cases input with
  | data bytes => exact idle_data idle h
  | disconnected =>
    have same : SameProcess srv.dropped srv' := sameProcess_reconnect h
    have recedes : Recedes srv.dropped srv' := recedes_reconnect h
    exact Or.inl ⟨process_of_same idle same, recedes⟩
  | bufferFull =>
    obtain rfl := Option.some.inj h
    exact Or.inl ⟨process_of_same idle sameProcess_stopOutput, .refl⟩
  | bufferEmpty =>
    have same : SameProcess srv.startOutput srv' := sameProcess_sendBuf h
    have recedes : Recedes srv.startOutput srv' := recedes_sendBuf h
    exact Or.inl ⟨process_of_same idle (sameProcess_startOutput.trans same), recedes⟩
  | polled =>
    obtain rfl := Option.some.inj ((onS3tpEvent_eq env srv).symm.trans h)
    exact Or.inl ⟨idle, .refl⟩
  | output stdout bytes =>
    have silent : srv.readCallback env stdout bytes = some srv := by
      rw [readCallback, idle]
      exact if_neg (fun comes => Bool.false_ne_true comes.1)
    obtain rfl := Option.some.inj (silent.symm.trans h)
    exact Or.inl ⟨idle, .refl⟩
  | exited exitStatus signal =>
    obtain rfl := Option.some.inj h
    exact Or.inl ⟨process_of_same idle sameProcess_exitCb, .refl⟩
  | handleClosed =>
    have silent : srv.closeCb env = some srv := by
      rw [closeCb, idle]
    obtain rfl := Option.some.inj (silent.symm.trans h)
    exact Or.inl ⟨idle, .refl⟩
  | timeout => exact Or.inl ⟨idle_onTimer idle h, recedes_onTimer h⟩

end S3TPServer

/-- The server with the pipes of its process: the standard input, and for the standard output
and error a pipe each, known by whether it is the former. The queue is what was queued for the
client since the process was started. -/
structure Wired where
  srv : S3TPServer
  stdin : Pipe UInt8
  output : Bool → Pipe UInt8
  queue : List UInt8

def suggestedSize : ℕ := 65536

/-- What happens at the server and at the ends of the pipes: a callback, a write of the child,
a read of its output or of its input, and further progress with queued input. -/
inductive Event
  | callback (input : Input)
  | wrote (stdout : Bool) (bytes : List UInt8)
  | arrived (stdout : Bool) (size : ℕ)
  | flushed
  | consumed (size : ℕ)
  deriving DecidableEq, Repr

def Input.isOutput : Input → Bool
  | .output _ _ => true
  | _ => false

def streamType (stdout : Bool) : MessageType := if stdout = true then .STDOUT else .STDERR

theorem streamType_inj {stdout stdout' : Bool} (h : streamType stdout = streamType stdout') :
    stdout = stdout' := by
  revert h
  cases stdout <;> cases stdout' <;> decide

theorem streamType_ne (stdout : Bool) :
    streamType stdout ≠ .NONE ∧ streamType stdout ≠ .ENDOFFILE := by
  cases stdout <;> decide

namespace Wired

def opened (srv : S3TPServer) : Wired := ⟨srv, .empty, fun _ => .empty, []⟩

def alive (w : Wired) : Bool := w.srv.process.any fun process => process.child = .running

/-- The pipes after a callback: a new process comes with new ones, what was written to the
process goes to its standard input, and pipes are closed where the callback does that. -/
def after (capacity : ℕ) (w : Wired) (srv' : S3TPServer) : Wired :=
  match w.srv.process, srv'.process with
  | none, some _ => opened srv'
  | some old, some new =>
      { srv := srv'
        stdin :=
          if old.hasIn = true ∧ new.hasIn = false then w.stdin.closeWriter
          else w.stdin.write capacity (new.stdin.drop old.stdin.length)
        output := fun stdout =>
          if old.child = .running ∧ new.child ≠ .running then (w.output stdout).closeReader
          else w.output stdout
        queue := w.queue ++ w.srv.queuedBetween srv' }
  | _, none => { w with srv := srv', queue := w.queue ++ w.srv.queuedBetween srv' }

def setOutput (w : Wired) (stdout : Bool) (pipe : Pipe UInt8) : Wired :=
  { w with output := Function.update w.output stdout pipe }

theorem setOutput_self {w : Wired} {stdout : Bool} {pipe : Pipe UInt8} :
    (w.setOutput stdout pipe).output stdout = pipe := by
  simp [setOutput]

theorem setOutput_of_ne {w : Wired} {stdout stdout' : Bool} {pipe : Pipe UInt8}
    (h : stdout' ≠ stdout) : (w.setOutput stdout pipe).output stdout' = w.output stdout' := by
  simp [setOutput, h]

/-- One event; none where it cannot happen, or where the server dereferences a null channel. -/
def next (env : Env) (capacity : ℕ) (w : Wired) : Event → Option Wired
  | .callback input =>
      -- output comes out of its pipe
      if input.isOutput = true then none else (w.srv.next env input).map (w.after capacity)
  | .wrote stdout bytes =>
      let pipe := w.output stdout
      -- the child waits for room
      if w.alive = true ∧ pipe.content.length + bytes.length ≤ capacity then
        some (w.setOutput stdout (pipe.write capacity bytes))
      else
        none
  | .arrived stdout size =>
      let pipe := w.output stdout
      let bytes := pipe.content.take size
      if w.alive = true ∧ w.srv.process.any Process.reading = true ∧ bytes ≠ [] ∧
          size ≤ suggestedSize then
        (w.srv.next env (.output stdout bytes)).map
          ((w.setOutput stdout (pipe.take size)).after capacity)
      else
        none
  | .flushed => some { w with stdin := w.stdin.pump capacity }
  | .consumed size => if w.alive = true then some { w with stdin := w.stdin.take size } else none

def Step (env : Env) (capacity : ℕ) (w : Wired) (event : Event) (w' : Wired) : Prop :=
  w.next env capacity event = some w'

theorem stepped (env : Env) (capacity : ℕ) (w : Wired) (event : Event) (w' : Wired)
    (h : w.next env capacity event = some w') : Step env capacity w event w' := h

section After

variable {capacity : ℕ} {w : Wired} {srv' : S3TPServer} {old new : Process}

theorem srv_after : (w.after capacity srv').srv = srv' := by
  rw [after]
  split
  · rfl
  · rfl
  · rfl

theorem after_start (idle : w.srv.process = none) (busy : srv'.process ≠ none) :
    w.after capacity srv' = opened srv' := by
  obtain ⟨process, hp⟩ := Option.ne_none_iff_exists'.mp busy
  rw [after, idle, hp]

theorem after_end (idle : srv'.process = none) :
    w.after capacity srv' =
      { w with srv := srv', queue := w.queue ++ w.srv.queuedBetween srv' } := by
  rw [after, idle]
  cases w.srv.process with
  | none => rfl
  | some _ => rfl

variable (capacity) in
theorem after_busy (hp : w.srv.process = some old) (hp' : srv'.process = some new) :
    w.after capacity srv' =
      { srv := srv'
        stdin :=
          if old.hasIn = true ∧ new.hasIn = false then w.stdin.closeWriter
          else w.stdin.write capacity (new.stdin.drop old.stdin.length)
        output := fun stdout =>
          if old.child = .running ∧ new.child ≠ .running then (w.output stdout).closeReader
          else w.output stdout
        queue := w.queue ++ w.srv.queuedBetween srv' } := by
  rw [after, hp, hp']

theorem output_after (hp : w.srv.process = some old) (hp' : srv'.process = some new)
    (child : new.child = old.child) : (w.after capacity srv').output = w.output := by
  have goesOn : ¬ (old.child = .running ∧ new.child ≠ .running) := by
    rw [child]
    exact fun both => both.2 both.1
  rw [after_busy capacity hp hp']
  simp only [goesOn, if_false]

theorem alive_busy (h : w.alive = true) : w.srv.process ≠ none := by
  intro idle
  rw [alive, idle] at h
  cases h

theorem alive_iff : w.alive = true ↔
    ∃ process, w.srv.process = some process ∧ process.child = .running := by
  rw [alive, Option.any_eq_true]
  simp

theorem process_send {env : Env} {type : MessageType} {msg : List UInt8} (living : w.alive = true)
    (h : w.srv.send env msg type = some srv') :
    ∃ old new, w.srv.process = some old ∧ old.child = .running ∧ srv'.process = some new ∧
      new.muted = old.muted := by
  obtain ⟨old, hp, running⟩ := alive_iff.mp living
  obtain ⟨new, hp', muted⟩ :=
    S3TPServer.process_of_muted (S3TPServer.muted_send (alive_busy living) h) hp
  exact ⟨old, new, hp, running, hp', muted⟩

inductive Moves (env : Env) (capacity : ℕ) (w : Wired) : Event → Wired → Prop
  | callback {input : Input} {srv' : S3TPServer} :
      (∀ stdout bytes, input ≠ .output stdout bytes) → w.srv.next env input = some srv' →
      Moves env capacity w (.callback input) (w.after capacity srv')
  | wrote {stdout : Bool} {bytes : List UInt8} :
      w.alive = true →
      Moves env capacity w (.wrote stdout bytes)
        (w.setOutput stdout ((w.output stdout).write capacity bytes))
  | arrived {stdout : Bool} {size : ℕ} {srv' : S3TPServer} :
      w.alive = true → size ≤ suggestedSize →
      w.srv.next env (.output stdout ((w.output stdout).content.take size)) = some srv' →
      w.srv.send env ((w.output stdout).content.take size) (streamType stdout) = some srv' →
      Moves env capacity w (.arrived stdout size)
        ((w.setOutput stdout ((w.output stdout).take size)).after capacity srv')
  | flushed : Moves env capacity w .flushed { w with stdin := w.stdin.pump capacity }
  | consumed {size : ℕ} :
      Moves env capacity w (.consumed size) { w with stdin := w.stdin.take size }

theorem moves {env : Env} {event : Event} {w' : Wired} (h : Step env capacity w event w') :
    Moves env capacity w event w' := by
  have happens : w.next env capacity event = some w' := h
  cases event with
  | callback input =>
    rw [next] at happens
    split at happens
    · cases happens
    · rename_i other
      obtain ⟨srv', goes, rfl⟩ := Option.map_eq_some_iff.mp happens
      refine .callback ?_ goes
      rintro stdout bytes rfl
      exact other rfl
  | wrote stdout bytes =>
    rw [next] at happens
    split at happens
    · rename_i room
      obtain rfl := Option.some.inj happens
      exact .wrote room.1
    · cases happens
  | arrived stdout size =>
    rw [next] at happens
    split at happens
    · rename_i comes
      obtain ⟨living, reading, nonempty, small⟩ := comes
      obtain ⟨srv', goes, rfl⟩ := Option.map_eq_some_iff.mp happens
      exact .arrived living small goes ((if_pos ⟨reading, nonempty⟩).symm.trans goes)
    · cases happens
  | flushed =>
    obtain rfl := Option.some.inj happens
    exact .flushed
  | consumed size =>
    rw [next] at happens
    split at happens
    · obtain rfl := Option.some.inj happens
      exact .consumed
    · cases happens

end After

end Wired

end Horst.S3tp
