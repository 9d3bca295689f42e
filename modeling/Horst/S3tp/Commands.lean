import Horst.S3tp.Chronicle
import Horst.S3tp.NullChannel

/-!
The processes started on one connection. As long as none was started, the bytes of the
connection are in the buffer; so the first frame is the command.
-/

set_option autoImplicit false
set_option relaxedAutoImplicit false

namespace Horst.S3tp

open Foundation Foundation.Framing

namespace S3TPServer

variable {env : Env} {srv srv' : S3TPServer} {type : MessageType} {msg : List UInt8} {c : ℕ}

def SameProcess (srv srv' : S3TPServer) : Prop :=
  srv'.process.map Process.isUnspawned = srv.process.map Process.isUnspawned

private theorem SameProcess.of_map {update : Process → Process}
    (h : srv'.process = srv.process.map update)
    (keeps : ∀ process, (update process).isUnspawned = process.isUnspawned) :
    SameProcess srv srv' := by
  rw [SameProcess, h]
  cases srv.process with
  | none => rfl
  | some process => exact congrArg some (keeps process)

theorem sameProcess_stopOutput : SameProcess srv srv.stopOutput :=
  .of_map rfl Process.isUnspawned_stopOutput

theorem sameProcess_startOutput : SameProcess srv srv.startOutput :=
  .of_map rfl Process.isUnspawned_startOutput

theorem sameProcess_exitCb {exitStatus signal : Int} :
    SameProcess srv (srv.exitCb exitStatus signal) :=
  .of_map rfl fun process => process.isUnspawned_exitCb exitStatus signal

theorem SameProcess.busy (h : SameProcess srv srv') (busy : srv.process ≠ none) :
    srv'.process ≠ none := by
  intro idle
  rw [SameProcess, idle] at h
  exact busy (Option.map_eq_none_iff.mp h.symm)

theorem SameProcess.unspawned (h : SameProcess srv srv') {process' : Process}
    (hp : srv'.process = some process') :
    ∃ process, srv.process = some process ∧ process.isUnspawned = process'.isUnspawned := by
  rw [SameProcess, hp] at h
  exact Option.map_eq_some_iff.mp h.symm

theorem sameProcess_reconnect (h : srv.reconnect env = some srv') : SameProcess srv srv' := by
  rcases reconnect_inv h with ⟨_, rfl⟩ | ⟨_, _, rfl⟩ | ⟨_, _, _, rfl⟩ | ⟨_, _, _, rfl⟩
  · rfl
  · rfl
  · rfl
  · rfl

theorem sameProcess_sendBuf (h : srv.sendBuf env = some srv') : SameProcess srv srv' := by
  rcases sendBuf_cases h with rfl | ⟨_, rfl | rfl | closes⟩
  · rfl
  · exact sameProcess_stopOutput
  · rfl
  · have after : SameProcess (srv.tried.record .closed).dropped srv' := sameProcess_reconnect closes
    exact after

private theorem sameProcess_send
    (h : srv.send env msg type = some srv') : SameProcess srv srv' := by
  rcases send_cases h with rfl | ⟨_, sends⟩
  · rfl
  · have after : SameProcess (srv.queued type msg) srv' := sameProcess_sendBuf sends
    exact after

/-- What is known about connection `c` in every state: its number was given out in order, no
process is about to be killed while a channel is there, and until a process was started
on the connection, the buffer holds what it has brought. The process can then only be one
that could not be spawned for an earlier connection. -/
structure Known (c : ℕ) (srv : S3TPServer) : Prop where
  below : ∀ n, srv.channel = some n → n < srv.binds
  fresh : srv.binds ≤ c → srv.starts c = [] ∧ srv.receivedOn c = []
  killing : srv.timer = some .kill → srv.channel = none ∧ srv.process ≠ none
  unspawned : srv.channel = some c → srv.starts c = [] →
    ∀ process, srv.process = some process → process.isUnspawned = true
  buffered : srv.channel = some c → srv.starts c = [] → srv.process = none →
    srv.buf = srv.receivedOn c ∧
      (srv.expected = 0 ∨ headerSize ≤ srv.buf.length ∧ srv.expected = ofBytes srv.buf)

private theorem Known.transport
    (known : Known c srv) (quiet : Quiet srv srv') (same : SameProcess srv srv')
    (channel : srv'.channel = srv.channel) (buf : srv'.buf = srv.buf)
    (expected : srv'.expected = srv.expected) (timer : srv'.timer = srv.timer)
    (binds : srv'.binds = srv.binds) : Known c srv' where
  below := by
    rw [channel, binds]
    exact known.below
  fresh := by
    rw [binds, quiet.starts, quiet.receivedOn]
    exact known.fresh
  killing := by
    intro kill
    rw [timer] at kill
    rw [channel]
    exact ⟨(known.killing kill).1, same.busy (known.killing kill).2⟩
  unspawned := by
    intro up silent process' hp
    rw [channel] at up
    rw [quiet.starts] at silent
    obtain ⟨process, h, unspawned⟩ := same.unspawned hp
    rw [← unspawned]
    exact known.unspawned up silent process h
  buffered := by
    intro up silent idle
    rw [channel] at up
    rw [quiet.starts] at silent
    rw [buf, expected, quiet.receivedOn]
    refine known.buffered up silent ?_
    rw [SameProcess, idle] at same
    exact Option.map_eq_none_iff.mp same.symm

theorem Known.record {entry : LogEntry} (known : Known c srv) (plain : entry.isPlain = true) :
    Known c (srv.record entry) :=
  known.transport (.record plain) rfl rfl rfl rfl rfl rfl

theorem Known.dropped (known : Known c srv) : Known c srv.dropped where
  below := by simp [S3TPServer.dropped]
  fresh := known.fresh
  killing kill := ⟨rfl, (known.killing kill).2⟩
  unspawned := by simp [S3TPServer.dropped]
  buffered := by simp [S3TPServer.dropped]

theorem known_new : Known c new where
  below := by simp [new]
  fresh := by simp [new, starts, receivedOn]
  killing := by simp [new]
  unspawned := by simp [new]
  buffered := by simp [new]

theorem known_reconnect (known : Known c srv) (h : srv.reconnect env = some srv') :
    Known c srv' := by
  rcases reconnect_inv h with ⟨_, rfl⟩ | ⟨down, busy, rfl⟩ | ⟨down, idle, _, rfl⟩ |
    ⟨down, idle, _, rfl⟩
  · exact known
  · have recorded : Known c (srv.record .killed) := known.record rfl
    exact
      { below := recorded.below
        fresh := recorded.fresh
        killing := fun _ => ⟨down, busy⟩
        unspawned := recorded.unspawned
        buffered := recorded.buffered }
  · have starts : srv.connected.starts c = srv.starts c := quiet_connected.starts c
    have received : srv.connected.receivedOn c = srv.receivedOn c := quiet_connected.receivedOn c
    have later : srv.binds + 1 ≤ c →
        srv.connected.starts c = [] ∧ srv.connected.receivedOn c = [] := by
      intro le
      rw [starts, received]
      exact known.fresh (by omega)
    exact
      { below := by simp [connected]
        fresh := later
        killing := fun kill => absurd idle (known.killing kill).2
        unspawned := by simp [connected, resetBuffers, idle]
        buffered := by
          intro up silent _
          have number : srv.binds = c := Option.some.inj up
          rw [received]
          exact ⟨(known.fresh (by omega)).2.symm, Or.inl rfl⟩ }
  · have later : srv.binds + 1 ≤ c → srv.starts c = [] ∧ srv.receivedOn c = [] :=
      fun le => known.fresh (by omega)
    exact
      { below := by simp [refused]
        fresh := later
        killing := by simp [refused]
        unspawned := by simp [refused]
        buffered := by simp [refused] }

private theorem known_close
    (known : Known c srv) (h : srv.close env = some srv') : Known c srv' := by
  have recorded : Known c (srv.record .closed) := known.record rfl
  exact known_reconnect recorded.dropped h

private theorem known_sendBuf (known : Known c srv) (h : srv.sendBuf env = some srv') :
    Known c srv' := by
  have tried : Known c srv.tried := known.transport (.of_log rfl) rfl rfl rfl rfl rfl rfl
  rcases sendBuf_cases h with rfl | ⟨_, rfl | rfl | closes⟩
  · exact known
  · exact tried.transport (.of_log rfl) sameProcess_stopOutput rfl rfl rfl rfl rfl
  · exact known.transport quiet_flushed rfl rfl rfl rfl rfl rfl
  · exact known_close tried closes

private theorem known_send (known : Known c srv) (h : srv.send env msg type = some srv') :
    Known c srv' := by
  rcases send_cases h with rfl | ⟨_, sends⟩
  · exact known
  · have queued : Known c (srv.queued type msg) :=
      known.transport (.of_log rfl) rfl rfl rfl rfl rfl rfl
    exact known_sendBuf queued sends

private theorem known_finish
    (known : Known c srv) (h : srv.finish env = some srv') : Known c srv' := by
  rw [finish] at h
  split at h
  · exact known_sendBuf known h
  · rw [disconnect] at h
    split at h
    · cases h
    · obtain rfl := Option.some.inj h
      exact known.record rfl

theorem Known.forgetProcess (known : Known c srv) (up : srv.channel ≠ none)
    (ran : ∀ process, srv.process = some process → process.isUnspawned = false) :
    Known c srv.forgetProcess where
  below := known.below
  fresh := known.fresh
  killing kill := absurd (known.killing kill).1 up
  unspawned := by simp [S3TPServer.forgetProcess]
  buffered := by
    intro upc silent _
    refine known.buffered upc silent ?_
    by_contra busy
    obtain ⟨process, hp⟩ := Option.ne_none_iff_exists'.mp busy
    have failed := known.unspawned upc silent process hp
    rw [ran process hp] at failed
    cases failed

private theorem known_onExit {exitCode : Int} (known : Known c srv)
    (ran : ∀ process, srv.process = some process → process.isUnspawned = false)
    (h : srv.onExit env exitCode = some srv') : Known c srv' := by
  obtain ⟨srv₁, sends, ends⟩ := Option.bind_eq_some_iff.mp h
  have up : srv₁.forgetProcess.channel ≠ none :=
    finish_isSome_iff.mp (Option.isSome_of_eq_some ends)
  have ran₁ : ∀ process, srv₁.process = some process → process.isUnspawned = false := by
    intro process' hp
    obtain ⟨process, hq, unspawned⟩ := (sameProcess_send sends).unspawned hp
    rw [← unspawned]
    exact ran process hq
  exact known_finish ((known_send known sends).forgetProcess up ran₁) ends

private theorem known_adopt {process : Process} (known : Known c srv)
    (fits : srv.channel = some c → srv.starts c = [] → process.isUnspawned = true)
    (h : srv.adopt env process = some srv') : Known c srv' ∧ srv'.process ≠ none := by
  obtain ⟨srv₁, sends, ends⟩ := Option.bind_eq_some_iff.mp h
  obtain rfl := Option.some.inj ends
  have adopted : Known c { srv with process := some process } :=
    { below := known.below
      fresh := known.fresh
      killing := fun kill => ⟨(known.killing kill).1, Option.some_ne_none _⟩
      unspawned := by
        intro up silent process' hp
        obtain rfl := Option.some.inj hp
        exact fits up silent
      buffered := by simp }
  have sent : Known c srv₁ := known_send adopted sends
  have started : SameProcess srv₁ srv₁.startOutput := sameProcess_startOutput
  have busy : srv₁.process ≠ none := (sameProcess_send sends).busy (Option.some_ne_none _)
  exact ⟨sent.transport (.of_log rfl) started rfl rfl rfl rfl rfl, started.busy busy⟩

private theorem starts_asked {command : List UInt8} :
    (srv.asked command).starts c =
      srv.starts c ++ if srv.channel = some c then [command] else [] := by
  rw [starts, asked, log_record, List.filterMap_append]
  cases h : srv.channel with
  | none => simp [LogEntry.start?, starts]
  | some n =>
    by_cases same : n = c
    · simp [LogEntry.start?, starts, same]
    · simp [LogEntry.start?, starts, same]

private theorem starts_asked_ne_nil {command : List UInt8} (up : srv.channel = some c) :
    (srv.asked command).starts c ≠ [] := by
  rw [starts_asked, if_pos up]
  simp

private theorem receivedOn_asked {command : List UInt8} :
    (srv.asked command).receivedOn c = srv.receivedOn c := by
  rw [receivedOn, asked, log_record, List.filterMap_append]
  simp [LogEntry.chunk?, receivedOn]

theorem Known.asked (known : Known c srv) {command : List UInt8} :
    Known c (srv.asked command) where
  below := known.below
  fresh := by
    intro le
    have other : srv.channel ≠ some c := by
      intro up
      have lt : c < srv.binds := known.below c up
      have le' : srv.binds ≤ c := le
      omega
    rw [starts_asked, receivedOn_asked, if_neg other, List.append_nil]
    exact known.fresh le
  killing := known.killing
  unspawned := by
    intro up silent
    exact absurd silent (starts_asked_ne_nil up)
  buffered := by
    intro up silent
    exact absurd silent (starts_asked_ne_nil up)

private theorem known_startProcess {command : List UInt8} (known : Known c srv)
    (idle : srv.process = none) (h : srv.startProcess env command = some srv') :
    Known c srv' ∧ srv'.process ≠ none := by
  cases startProcess_inv h with
  | spawned _ adopts =>
    refine known_adopt known.asked ?_ adopts
    intro up silent
    exact absurd silent (starts_asked_ne_nil up)
  | @fails srv₁ _ _ exits adopts =>
    have exited : Known c srv₁ := by
      refine known_onExit known.asked ?_ exits
      intro process hp
      exact absurd (idle.symm.trans hp) (by simp)
    refine known_adopt exited ?_ adopts
    intro _ _
    simp [Process.isUnspawned]

theorem Known.eraseFrame (known : Known c srv) (busy : srv.process ≠ none) :
    Known c srv.eraseFrame where
  below := known.below
  fresh := known.fresh
  killing := known.killing
  unspawned := known.unspawned
  buffered _ _ idle := absurd idle busy

private theorem starts_arrived
    {bytes : List UInt8} : (srv.arrived bytes).starts c = srv.starts c := by
  rw [starts, arrived, log_record, List.filterMap_append]
  simp [LogEntry.start?, starts]

private theorem receivedOn_arrived {bytes : List UInt8} :
    (srv.arrived bytes).receivedOn c =
      srv.receivedOn c ++ if srv.channel = some c then bytes else [] := by
  rw [receivedOn, arrived, log_record, List.filterMap_append]
  cases h : srv.channel with
  | none => simp [LogEntry.chunk?, receivedOn]
  | some n =>
    by_cases same : n = c
    · simp [LogEntry.chunk?, receivedOn, same]
    · simp [LogEntry.chunk?, receivedOn, same]

theorem Known.arrived (known : Known c srv) {bytes : List UInt8} :
    Known c (srv.arrived bytes) where
  below := known.below
  fresh := by
    intro le
    have other : srv.channel ≠ some c := by
      intro up
      have lt : c < srv.binds := known.below c up
      have le' : srv.binds ≤ c := le
      omega
    rw [starts_arrived, receivedOn_arrived, if_neg other, List.append_nil]
    exact known.fresh le
  killing := known.killing
  unspawned := by
    rw [starts_arrived]
    exact known.unspawned
  buffered := by
    intro up silent idle
    rw [starts_arrived] at silent
    obtain ⟨buf, header⟩ := known.buffered up silent idle
    have current : srv.channel = some c := up
    rw [receivedOn_arrived, if_pos current, ← buf]
    refine ⟨rfl, header.imp_right ?_⟩
    rintro ⟨long, read⟩
    have four : 4 ≤ srv.buf.length := le_trans (by decide) long
    have longer : srv.buf.length ≤ (srv.buf ++ bytes).length := by simp
    exact ⟨le_trans long longer, read.trans (ofBytes_append four _).symm⟩

theorem Known.header_eq (known : Known c srv) {bytes : List UInt8} (up : srv.channel = some c)
    (silent : srv.starts c = []) (idle : srv.process = none) :
    srv.header bytes = ofBytes (srv.receivedOn c ++ bytes) := by
  obtain ⟨buf, waiting⟩ := known.buffered up silent idle
  rw [header, ← buf]
  by_cases fresh : srv.expected = 0
  · rw [if_pos fresh]
  · obtain ⟨long, read⟩ := waiting.resolve_left fresh
    have four : 4 ≤ srv.buf.length := le_trans (by decide) long
    rw [if_neg fresh, read, ofBytes_append four]

theorem Known.headed (known : Known c srv) {bytes : List UInt8}
    (long : headerSize ≤ (srv.buf ++ bytes).length) : Known c (srv.headed bytes) where
  below := known.below
  fresh := known.arrived.fresh
  killing := known.killing
  unspawned := known.arrived.unspawned
  buffered := by
    intro up silent idle
    obtain ⟨buf, _⟩ := known.arrived.buffered up silent idle
    have notStarted : srv.starts c = [] := starts_arrived.symm.trans silent
    have waiting : srv.buf = srv.receivedOn c := (known.buffered up notStarted idle).1
    refine ⟨buf, Or.inr ⟨long, ?_⟩⟩
    have read : srv.header bytes = _ := known.header_eq up notStarted idle
    rw [← waiting] at read
    exact read

section Dispatched

variable {payload : List UInt8}

private theorem starts_dispatched :
    (srv.record (.dispatched srv.channel (Dispatch.stdin type payload))).starts c =
      srv.starts c := by
  rw [starts, log_record, List.filterMap_append, Dispatch.stdin]
  cases srv.channel <;> split <;> simp [LogEntry.start?, starts]

private theorem receivedOn_dispatched {dispatch : Dispatch} :
    (srv.record (.dispatched srv.channel dispatch)).receivedOn c = srv.receivedOn c := by
  rw [receivedOn, log_record, List.filterMap_append]
  simp [LogEntry.chunk?, receivedOn]

end Dispatched

private theorem known_dispatch (known : Known c srv) (h : srv.dispatch env type = some srv') :
    Known c srv' ∧ srv'.process ≠ none := by
  cases dispatch_inv h with
  | @input process hp =>
    refine ⟨?_, Option.some_ne_none _⟩
    have same : (srv.record (.dispatched srv.channel (Dispatch.stdin type srv.payload))).starts c =
        srv.starts c := starts_dispatched
    exact
      { below := known.below
        fresh := fun le => ⟨same.trans (known.fresh le).1,
          receivedOn_dispatched.trans (known.fresh le).2⟩
        killing := fun kill => ⟨(known.killing kill).1, Option.some_ne_none _⟩
        unspawned := by
          intro up silent process' passed
          obtain rfl := Option.some.inj passed
          rw [Process.isUnspawned_passed]
          exact known.unspawned up (same.symm.trans silent) process hp
        buffered := by simp }
  | command idle starts => exact known_startProcess known idle starts

private theorem known_onDataReceived {bytes : List UInt8} (known : Known c srv)
    (h : srv.onDataReceived env bytes = some srv') : Known c srv' := by
  cases receive_inv h with
  | short => exact known.arrived
  | zero long _ _ closes => exact known_close (known.headed long) closes
  | more long => exact known.headed long
  | whole whole dispatches =>
    obtain ⟨known₁, busy⟩ := known_dispatch (known.headed whole.1) dispatches
    exact known₁.eraseFrame busy

private theorem known_closeCb (known : Known c srv) (h : srv.closeCb env = some srv') :
    Known c srv' := by
  cases closeCb_inv h with
  | reports hp closing _ _ exits =>
    refine known_onExit known ?_ exits
    intro process' hp'
    obtain rfl := Option.some.inj (hp.symm.trans hp')
    simp [Process.isUnspawned, closing]
  | same _ _ => exact known
  | gone hp closing _ =>
    refine known.transport (.of_log rfl) ?_ rfl rfl rfl rfl rfl
    rw [SameProcess, hp]
    simp [Process.isUnspawned, closing]

private theorem known_onTimer (known : Known c srv) (h : srv.onTimer env = some srv') :
    Known c srv' := by
  cases onTimer_inv h with
  | idle _ => exact known
  | retry _ reconnects =>
    have stopped : Known c { srv with timer := none } :=
      { below := known.below
        fresh := known.fresh
        killing := by simp
        unspawned := known.unspawned
        buffered := known.buffered }
    exact known_reconnect stopped reconnects
  | kill timer reconnects =>
    have down : srv.channel = none := (known.killing timer).1
    have forgotten : Known c ({ srv with timer := none } : S3TPServer).forgetProcess :=
      { below := known.below
        fresh := known.fresh
        killing := by simp [S3TPServer.forgetProcess]
        unspawned := by simp [S3TPServer.forgetProcess]
        buffered := by simp [S3TPServer.forgetProcess, down] }
    exact known_reconnect forgotten reconnects

theorem known_next {input : Input} (known : Known c srv) (h : srv.next env input = some srv') :
    Known c srv' := by
  cases input with
  | data bytes => exact known_onDataReceived known h
  | disconnected => exact known_reconnect known.dropped h
  | bufferFull =>
    obtain rfl := Option.some.inj h
    exact known.transport (.of_log rfl) sameProcess_stopOutput rfl rfl rfl rfl rfl
  | bufferEmpty =>
    have started : Known c srv.startOutput :=
      known.transport (.of_log rfl) sameProcess_startOutput rfl rfl rfl rfl rfl
    exact known_sendBuf started h
  | polled =>
    obtain rfl := Option.some.inj ((onS3tpEvent_eq env srv).symm.trans h)
    exact known
  | output stdout bytes =>
    rcases readCallback_cases h with rfl | ⟨_, _, sends⟩
    · exact known
    · exact known_send known sends
  | exited exitStatus signal =>
    obtain rfl := Option.some.inj h
    exact known.transport (.of_log rfl) sameProcess_exitCb rfl rfl rfl rfl rfl
  | handleClosed => exact known_closeCb known h
  | timeout => exact known_onTimer known h

/-- The command that a callback starts a process for on connection `c`. -/
def begun (c : ℕ) (srv : S3TPServer) : Input → Option (List UInt8)
  | .data bytes =>
      if srv.channel = some c ∧ srv.process = none ∧ srv.Completes bytes then
        some (srv.headed bytes).payload
      else
        none
  | _ => none

def brought (c : ℕ) (srv : S3TPServer) : Input → List UInt8
  | .data bytes => if srv.channel = some c then bytes else []
  | _ => []

private theorem starts_headed {bytes : List UInt8} : (srv.headed bytes).starts c = srv.starts c :=
  starts_arrived

private theorem receivedOn_headed {bytes : List UInt8} :
    (srv.headed bytes).receivedOn c =
      srv.receivedOn c ++ if srv.channel = some c then bytes else [] :=
  receivedOn_arrived

private theorem chronicle_dispatch (h : srv.dispatch env type = some srv') :
    srv'.starts c = srv.starts c ++
        (if srv.channel = some c ∧ srv.process = none then [srv.payload] else []) ∧
      srv'.receivedOn c = srv.receivedOn c := by
  cases dispatch_inv h with
  | input hp =>
    simp only [hp, reduceCtorEq, and_false, if_false, List.append_nil]
    exact ⟨starts_dispatched, receivedOn_dispatched⟩
  | command idle starts =>
    have quiet : Quiet (srv.asked srv.payload) srv' := quiet_startProcess starts
    rw [quiet.starts, quiet.receivedOn, starts_asked, receivedOn_asked]
    simp [idle]

private theorem chronicle_data {bytes : List UInt8} (h : srv.onDataReceived env bytes = some srv') :
    srv'.starts c = srv.starts c ++ (begun c srv (.data bytes)).toList ∧
      srv'.receivedOn c = srv.receivedOn c ++ brought c srv (.data bytes) := by
  have silent (notYet : ¬ srv.Completes bytes) :
      srv.starts c ++ (begun c srv (.data bytes)).toList = srv.starts c := by
    rw [begun, if_neg (fun begins => notYet begins.2.2), Option.toList_none, List.append_nil]
  cases receive_inv h with
  | short _ notYet =>
    rw [silent notYet]
    exact ⟨starts_arrived, receivedOn_arrived⟩
  | zero _ _ notYet closes =>
    have quiet : Quiet (srv.headed bytes) srv' := quiet_close closes
    rw [silent notYet, quiet.starts, quiet.receivedOn]
    exact ⟨starts_headed, receivedOn_headed⟩
  | more _ _ notYet =>
    rw [silent notYet]
    exact ⟨starts_headed, receivedOn_headed⟩
  | whole whole dispatches =>
    obtain ⟨starts, received⟩ := chronicle_dispatch (c := c) dispatches
    rw [starts_headed] at starts
    rw [receivedOn_headed] at received
    refine ⟨starts.trans ?_, received⟩
    rw [begun, channel_headed, process_headed]
    by_cases begins : srv.channel = some c ∧ srv.process = none
    · rw [if_pos begins, if_pos ⟨begins.1, begins.2, whole⟩, Option.toList_some]
    · rw [if_neg begins, if_neg (fun all => begins ⟨all.1, all.2.1⟩), Option.toList_none]

private theorem chronicle_next {input : Input} (h : srv.next env input = some srv') :
    srv'.starts c = srv.starts c ++ (begun c srv input).toList ∧
      srv'.receivedOn c = srv.receivedOn c ++ brought c srv input := by
  cases input with
  | data bytes => exact chronicle_data h
  | _ =>
    have quiet : Quiet srv srv' := quiet_next (by simp) h
    simp [quiet.starts, quiet.receivedOn, begun, brought]

/-- The first process of a connection is started for the payload of its first frame. -/
theorem Known.first {input : Input} {command line rest : List UInt8} (known : Known c srv)
    (silent : srv.starts c = []) (begins : begun c srv input = some command)
    (stream : srv.receivedOn c ++ brought c srv input <+: encode type line ++ rest) :
    command = carried line := by
  cases input with
  | data bytes =>
    rw [begun] at begins
    split at begins
    · rename_i conditions
      obtain ⟨up, idle, long, positive, whole⟩ := conditions
      obtain rfl := Option.some.inj begins
      have buf : srv.buf = srv.receivedOn c := (known.buffered up silent idle).1
      rw [brought, if_pos up, ← buf] at stream
      obtain ⟨tail, complete⟩ := stream
      have four : 4 ≤ (srv.buf ++ bytes).length := le_trans (by decide) long
      have length : srv.header bytes = UInt32.ofNat line.length := by
        rw [known.header_eq up silent idle, ← buf, ← ofBytes_append four tail, complete,
          ofBytes_encode]
      rw [length] at whole
      have enough : (UInt32.ofNat line.length).toNat ≤
          ((srv.buf ++ bytes).drop headerSize).length := by
        rw [List.length_drop]
        omega
      have front : headerSize ≤ (srv.buf ++ bytes).length := long
      calc (srv.headed bytes).payload
          = ((srv.buf ++ bytes).drop headerSize).take (UInt32.ofNat line.length).toNat := by
            rw [← length]
            rfl
        _ = ((srv.buf ++ bytes ++ tail).drop headerSize).take
              (UInt32.ofNat line.length).toNat := by
            rw [List.drop_append_of_le_length front, List.take_append_of_le_length enough]
        _ = carried line := by
            rw [complete, payload_encode]
    · cases begins
  | _ => cases begins

/-- A frame is completed on connection `c` when the process that was started on it has gone. -/
def Restarts (c : ℕ) (srv : S3TPServer) : Input → Prop
  | .data bytes =>
      srv.channel = some c ∧ srv.process = none ∧ srv.starts c ≠ [] ∧ srv.Completes bytes
  | _ => False

private theorem restarts_iff {input : Input} :
    Restarts c srv input ↔ srv.starts c ≠ [] ∧ begun c srv input ≠ none := by
  cases input with
  | data bytes =>
    rw [Restarts, begun]
    constructor
    · rintro ⟨up, idle, again, whole⟩
      exact ⟨again, by simp [up, idle, whole]⟩
    · rintro ⟨again, begins⟩
      split at begins
      · rename_i conditions
        exact ⟨conditions.1, conditions.2.1, again, conditions.2.2⟩
      · exact absurd rfl begins
  | _ => simp [Restarts, begun]

/-- At most the command of the first frame was started on connection `c`. -/
def AtMost (c : ℕ) (command : List UInt8) (srv : S3TPServer) : Prop :=
  srv.starts c = [] ∨ srv.starts c = [command]

private theorem atMost_next {input : Input} {line rest : List UInt8} (known : Known c srv)
    (h : srv.next env input = some srv')
    (stream : srv'.receivedOn c <+: encode type line ++ rest) :
    AtMost c (carried line) srv' ↔ AtMost c (carried line) srv ∧ ¬ Restarts c srv input := by
  obtain ⟨starts, received⟩ := chronicle_next (c := c) h
  rw [received] at stream
  rw [AtMost, AtMost, starts, restarts_iff]
  cases begins : begun c srv input with
  | none => simp
  | some command =>
    by_cases silent : srv.starts c = []
    · obtain rfl := known.first silent begins stream
      simp [silent]
    · have two : 2 ≤ (srv.starts c ++ [command]).length := by
        have one : 0 < (srv.starts c).length := List.length_pos_iff.mpr silent
        rw [List.length_append, List.length_singleton]
        omega
      have more : ¬ (srv.starts c ++ [command] = [] ∨
          srv.starts c ++ [command] = [carried line]) := by
        rintro (nothing | single)
        · rw [nothing] at two
          simp at two
        · rw [single] at two
          simp at two
      exact iff_of_false more fun both => both.2 ⟨silent, Option.some_ne_none _⟩

private theorem receivedOn_back
    {input : Input} {stream : List UInt8} (h : srv.next env input = some srv')
    (later : srv'.receivedOn c <+: stream) : srv.receivedOn c <+: stream := by
  rw [(chronicle_next h).2] at later
  exact (List.prefix_append _ _).trans later

/-- On a connection whose bytes begin with a command frame, at most one process is started,
and for that command, exactly in the runs in which no frame is completed on it when its
process has gone. -/
theorem single_command_iff (env : Env) {srv₀ : S3TPServer} (starts : start env = some srv₀)
    {ts : List (Transition S3TPServer Input)} (run : Run (Step env) srv₀ ts srv) (c : ℕ)
    (type : MessageType) {line : List UInt8} (fits : line.length < 2 ^ 32) (rest : List UInt8)
    (stream : srv.receivedOn c <+: encode type line ++ rest) :
    (srv.starts c = [] ∨ srv.starts c = [line]) ↔ ∀ t ∈ ts, ¬ Restarts c t.source t.label := by
  have known₀ : Known c srv₀ := known_reconnect known_new starts
  have silent : srv₀.starts c = [] := (quiet_reconnect starts).starts c
  have guarded := run.guarded (fun s input s' h later => receivedOn_back h later) stream
  have accumulated : AtMost c (carried line) srv ↔ ∀ t ∈ ts, ¬ Restarts c t.source t.label := by
    refine guarded.accumulates known₀ ?_ (Or.inl silent) ?_
    · intro s input s' known step
      exact known_next known step.1
    · intro s input s' known step
      exact atMost_next known step.1 step.2
  rw [carried_of_fits fits] at accumulated
  exact accumulated

/-- A command, and then a frame of input for it. -/
theorem single_command_iff_input :
    ∃ srv₀ ts srv, start Env.fine = some srv₀ ∧ Run (Step Env.fine) srv₀ ts srv ∧
      ts.map Transition.label = [.data (encode .NONE [99, 97, 116, 10]),
        .data (encode .STDIN [108, 115, 10])] ∧
      ((srv.starts 0 = [] ∨ srv.starts 0 = [[99, 97, 116, 10]]) ↔
        ∀ t ∈ ts, ¬ Restarts 0 t.source t.label) := by
  obtain ⟨srv₀, ts, srv, starts, run, labels, test⟩ := exists_run Env.fine
    [.data (encode .NONE [99, 97, 116, 10]), .data (encode .STDIN [108, 115, 10])]
    (fun srv => decide (srv.receivedOn 0 <+:
      encode .NONE [99, 97, 116, 10] ++ encode .STDIN [108, 115, 10])) (by decide +kernel)
  exact ⟨srv₀, ts, srv, starts, run, labels,
    single_command_iff _ starts run 0 .NONE (by decide) _ (of_decide_eq_true test)⟩

/-- When the process of the command has gone, its input is run as a command. -/
theorem input_as_command :
    ¬ ∀ (env : Env) (srv₀ srv : S3TPServer) (ts : List (Transition S3TPServer Input)),
      start env = some srv₀ → Run (Step env) srv₀ ts srv →
      ∀ (c : ℕ) (type : MessageType) (line rest : List UInt8), line.length < 2 ^ 32 →
        srv.receivedOn c <+: encode type line ++ rest →
        srv.starts c = [] ∨ srv.starts c = [line] := by
  intro claim
  obtain ⟨srv₀, ts, srv, starts, run, _, test⟩ := exists_run Env.fine
    [.data (encode .NONE [99, 97, 116, 10]), .exited 0 0, .handleClosed,
      .data (encode .STDIN [108, 115, 10])]
    (fun srv => decide (srv.receivedOn 0 <+:
      encode .NONE [99, 97, 116, 10] ++ encode .STDIN [108, 115, 10] ∧
      srv.starts 0 = [[99, 97, 116, 10], [108, 115, 10]])) (by decide +kernel)
  obtain ⟨stream, both⟩ := of_decide_eq_true test
  have single := claim _ _ _ _ starts run 0 .NONE [99, 97, 116, 10] _ (by decide) stream
  rw [both] at single
  revert single
  decide

end S3TPServer

end Horst.S3tp
