import Horst.S3tp.Methods

/-!
What the chronicle of the server tells about a connection, and which methods leave
that untouched.
-/

set_option autoImplicit false
set_option relaxedAutoImplicit false

namespace Horst.S3tp

open Foundation Foundation.Framing

namespace LogEntry

def isPlain : LogEntry → Bool
  | .received _ _ | .dispatched _ _ => false
  | _ => true

def start? (c : ℕ) : LogEntry → Option (List UInt8)
  | .dispatched (some n) (.command line) => if n = c then some line else none
  | _ => none

def chunk? (c : ℕ) : LogEntry → Option (List UInt8)
  | .received (some n) bytes => if n = c then some bytes else none
  | _ => none

def dispatch? : LogEntry → Option Dispatch
  | .dispatched _ dispatch => some dispatch
  | _ => none

private theorem start?_of_isPlain {c : ℕ} {entry : LogEntry} (h : entry.isPlain = true) :
    entry.start? c = none := by
  cases entry with
  | received _ _ => cases h
  | dispatched _ _ => cases h
  | _ => rfl

private theorem chunk?_of_isPlain {c : ℕ} {entry : LogEntry} (h : entry.isPlain = true) :
    entry.chunk? c = none := by
  cases entry with
  | received _ _ => cases h
  | dispatched _ _ => cases h
  | _ => rfl

private theorem dispatch?_of_isPlain {entry : LogEntry} (h : entry.isPlain = true) :
    entry.dispatch? = none := by
  cases entry with
  | received _ _ => cases h
  | dispatched _ _ => cases h
  | _ => rfl

end LogEntry

namespace S3TPServer

/-- The commands that processes were started for on a connection. -/
def starts (c : ℕ) (srv : S3TPServer) : List (List UInt8) :=
  srv.log.filterMap (LogEntry.start? c)

def receivedOn (c : ℕ) (srv : S3TPServer) : List UInt8 :=
  (srv.log.filterMap (LogEntry.chunk? c)).flatten

/-- What was made of the frames received so far. -/
def dispatched (srv : S3TPServer) : List Dispatch := srv.log.filterMap LogEntry.dispatch?

def closes (srv : S3TPServer) : ℕ := srv.log.count .closed

variable {env : Env} {srv srv' srv'' : S3TPServer} {type : MessageType} {msg : List UInt8}

def Quiet (srv srv' : S3TPServer) : Prop :=
  ∃ ls, srv'.log = srv.log ++ ls ∧ ∀ l ∈ ls, l.isPlain = true

theorem Quiet.of_log (h : srv'.log = srv.log) : Quiet srv srv' :=
  ⟨[], by rw [h, List.append_nil], by simp⟩

theorem Quiet.refl : Quiet srv srv := .of_log rfl

theorem Quiet.trans (h : Quiet srv srv') (h' : Quiet srv' srv'') : Quiet srv srv'' := by
  obtain ⟨ls, log, plain⟩ := h
  obtain ⟨ls', log', plain'⟩ := h'
  refine ⟨ls ++ ls', by rw [log', log, List.append_assoc], ?_⟩
  intro l mem
  rcases List.mem_append.mp mem with first | second
  · exact plain l first
  · exact plain' l second

theorem Quiet.record {entry : LogEntry} (plain : entry.isPlain = true) :
    Quiet srv (srv.record entry) :=
  ⟨[entry], rfl, by simpa using plain⟩

theorem Quiet.starts (h : Quiet srv srv') (c : ℕ) : srv'.starts c = srv.starts c := by
  obtain ⟨ls, log, plain⟩ := h
  have none : ls.filterMap (LogEntry.start? c) = [] :=
    List.filterMap_eq_nil_iff.mpr fun l mem => LogEntry.start?_of_isPlain (plain l mem)
  rw [S3TPServer.starts, log, List.filterMap_append, none, List.append_nil]
  rfl

theorem Quiet.receivedOn (h : Quiet srv srv') (c : ℕ) :
    srv'.receivedOn c = srv.receivedOn c := by
  obtain ⟨ls, log, plain⟩ := h
  have none : ls.filterMap (LogEntry.chunk? c) = [] :=
    List.filterMap_eq_nil_iff.mpr fun l mem => LogEntry.chunk?_of_isPlain (plain l mem)
  rw [S3TPServer.receivedOn, log, List.filterMap_append, none, List.append_nil]
  rfl

theorem Quiet.dispatched (h : Quiet srv srv') : srv'.dispatched = srv.dispatched := by
  obtain ⟨ls, log, plain⟩ := h
  have none : ls.filterMap LogEntry.dispatch? = [] :=
    List.filterMap_eq_nil_iff.mpr fun l mem => LogEntry.dispatch?_of_isPlain (plain l mem)
  rw [S3TPServer.dispatched, log, List.filterMap_append, none, List.append_nil]
  rfl

theorem quiet_connected : Quiet srv srv.connected :=
  ⟨[.bound srv.binds srv.process [] [] 0], rfl, by simp [LogEntry.isPlain]⟩

theorem quiet_reconnect (h : srv.reconnect env = some srv') : Quiet srv srv' := by
  rcases reconnect_inv h with ⟨_, rfl⟩ | ⟨_, _, rfl⟩ | ⟨_, _, _, rfl⟩ | ⟨_, _, _, rfl⟩
  · exact .refl
  · exact .record rfl
  · exact quiet_connected
  · exact .of_log rfl

theorem quiet_close (h : srv.close env = some srv') : Quiet srv srv' := by
  have closed : Quiet srv (srv.record .closed) := .record rfl
  have reconnects : Quiet (srv.record .closed).dropped srv' := quiet_reconnect h
  exact closed.trans reconnects

theorem quiet_flushed : Quiet srv srv.flushed := by
  refine ⟨_, rfl, ?_⟩
  intro l mem
  rcases List.mem_cons.mp mem with rfl | mem
  · rfl
  · split at mem
    · obtain rfl := List.mem_singleton.mp mem
      rfl
    · cases mem

private theorem quiet_sendBuf (h : srv.sendBuf env = some srv') : Quiet srv srv' := by
  rcases sendBuf_cases h with rfl | ⟨_, rfl | rfl | closes⟩
  · exact .refl
  · exact .of_log rfl
  · exact quiet_flushed
  · have after : Quiet srv.tried srv' := quiet_close closes
    exact after

theorem quiet_send (h : srv.send env msg type = some srv') : Quiet srv srv' := by
  rcases send_cases h with rfl | ⟨_, sends⟩
  · exact .refl
  · have after : Quiet (srv.queued type msg) srv' := quiet_sendBuf sends
    exact after

private theorem quiet_finish (h : srv.finish env = some srv') : Quiet srv srv' := by
  rw [finish] at h
  split at h
  · exact quiet_sendBuf h
  · rw [disconnect] at h
    split at h
    · cases h
    · obtain rfl := Option.some.inj h
      exact .record rfl

private theorem quiet_onExit {exitCode : Int} (h : srv.onExit env exitCode = some srv') :
    Quiet srv srv' := by
  obtain ⟨srv₁, sends, ends⟩ := Option.bind_eq_some_iff.mp h
  have after : Quiet srv₁.forgetProcess srv' := quiet_finish ends
  exact (quiet_send sends).trans after

private theorem quiet_adopt {process : Process} (h : srv.adopt env process = some srv') :
    Quiet srv srv' := by
  obtain ⟨srv₁, sends, ends⟩ := Option.bind_eq_some_iff.mp h
  obtain rfl := Option.some.inj ends
  have after : Quiet { srv with process := some process } srv₁ := quiet_send sends
  exact after

theorem quiet_startProcess {command : List UInt8}
    (h : srv.startProcess env command = some srv') : Quiet (srv.asked command) srv' := by
  cases startProcess_inv h with
  | spawned _ adopts => exact quiet_adopt adopts
  | fails _ exits adopts => exact (quiet_onExit exits).trans (quiet_adopt adopts)

private theorem quiet_closeCb (h : srv.closeCb env = some srv') : Quiet srv srv' := by
  cases closeCb_inv h with
  | reports _ _ _ _ exits => exact quiet_onExit exits
  | same _ _ => exact .refl
  | gone _ _ _ => exact .of_log rfl

theorem quiet_onTimer (h : srv.onTimer env = some srv') : Quiet srv srv' := by
  cases onTimer_inv h with
  | idle _ => exact .refl
  | kill _ reconnects =>
    have after : Quiet ({ srv with timer := none } : S3TPServer).forgetProcess srv' :=
      quiet_reconnect reconnects
    exact after
  | retry _ reconnects =>
    have after : Quiet { srv with timer := none } srv' := quiet_reconnect reconnects
    exact after

theorem quiet_next {input : Input} (other : ∀ bytes, input ≠ .data bytes)
    (h : srv.next env input = some srv') : Quiet srv srv' := by
  cases input with
  | data bytes => exact absurd rfl (other bytes)
  | disconnected =>
    have after : Quiet srv.dropped srv' := quiet_reconnect h
    exact after
  | bufferFull =>
    obtain rfl := Option.some.inj h
    exact .of_log rfl
  | bufferEmpty =>
    have after : Quiet srv.startOutput srv' := quiet_sendBuf h
    exact after
  | polled =>
    obtain rfl := Option.some.inj ((onS3tpEvent_eq env srv).symm.trans h)
    exact .refl
  | output stdout bytes =>
    rcases readCallback_cases h with rfl | ⟨_, _, sends⟩
    · exact .refl
    · exact quiet_send sends
  | exited exitStatus signal =>
    obtain rfl := Option.some.inj h
    exact .of_log rfl
  | handleClosed => exact quiet_closeCb h
  | timeout => exact quiet_onTimer h

def Grows (srv srv' : S3TPServer) : Prop := srv.log <+: srv'.log

theorem Quiet.grows (h : Quiet srv srv') : Grows srv srv' := by
  obtain ⟨ls, log, _⟩ := h
  exact ⟨ls, log.symm⟩

theorem Grows.trans (h : Grows srv srv') (h' : Grows srv' srv'') : Grows srv srv'' :=
  List.IsPrefix.trans h h'

private theorem grows_record {entry : LogEntry} : Grows srv (srv.record entry) := ⟨[entry], rfl⟩

theorem Grows.dispatched (h : Grows srv srv') : srv.dispatched <+: srv'.dispatched := by
  obtain ⟨ls, log⟩ := h
  rw [S3TPServer.dispatched, S3TPServer.dispatched, ← log, List.filterMap_append]
  exact List.prefix_append _ _

theorem Grows.closes (h : Grows srv srv') : srv.closes ≤ srv'.closes := by
  obtain ⟨ls, log⟩ := h
  rw [S3TPServer.closes, S3TPServer.closes, ← log, List.count_append]
  exact Nat.le_add_right _ _

private theorem grows_dispatch (h : srv.dispatch env type = some srv') : Grows srv srv' := by
  cases dispatch_inv h with
  | input _ => exact grows_record
  | command _ starts =>
    have asked : Grows srv (srv.asked srv.payload) := grows_record
    exact asked.trans (quiet_startProcess starts).grows

private theorem grows_data {bytes : List UInt8} (h : srv.onDataReceived env bytes = some srv') :
    Grows srv srv' := by
  have arrived : Grows srv (srv.arrived bytes) := grows_record
  have headed : Grows srv (srv.headed bytes) := grows_record
  cases receive_inv h with
  | short => exact arrived
  | zero _ _ _ closes => exact headed.trans (quiet_close closes).grows
  | more => exact headed
  | @whole srv₁ _ dispatches =>
    have dispatched : Grows (srv.headed bytes) srv₁ := grows_dispatch dispatches
    exact headed.trans dispatched

theorem grows_next {input : Input} (h : srv.next env input = some srv') : Grows srv srv' := by
  cases input with
  | data bytes => exact grows_data h
  | _ => exact (quiet_next (by simp) h).grows

theorem grows_follow {inputs : List Input} (h : follow (next env) inputs srv = some srv') :
    Grows srv srv' := by
  refine follow_invariant ?_ h (List.prefix_refl srv.log)
  intro s input s' step grown
  exact Grows.trans grown (grows_next step)

end S3TPServer

end Horst.S3tp
