import Horst.S3tp.Server

/-!
What the methods of the server that use the channel make of a state, case by case.
-/

set_option autoImplicit false
set_option relaxedAutoImplicit false

namespace Horst.S3tp

open Foundation Foundation.Framing

namespace Process

def isUnspawned (process : Process) : Bool := decide (process.child = .unspawned)

def passed (type : MessageType) (payload : List UInt8) (process : Process) : Process :=
  if type = .ENDOFFILE then process.closeInput else process.input payload

variable (process : Process)

@[simp] theorem isUnspawned_startOutput : process.startOutput.isUnspawned = process.isUnspawned := by
  rw [startOutput]
  split <;> rfl

@[simp] theorem isUnspawned_stopOutput : process.stopOutput.isUnspawned = process.isUnspawned :=
  rfl

@[simp] theorem isUnspawned_passed (type : MessageType) (payload : List UInt8) :
    (process.passed type payload).isUnspawned = process.isUnspawned := by
  rw [passed]
  split
  · rfl
  · rw [input]
    split <;> rfl

@[simp] theorem isUnspawned_exitCb (exitStatus signal : Int) :
    (process.exitCb exitStatus signal).isUnspawned = process.isUnspawned := by
  rw [exitCb]
  split
  · rename_i running
    simp [isUnspawned, running]
  · rfl

end Process

namespace S3TPServer

def Connects (env : Env) (srv : S3TPServer) : Prop :=
  env.bind srv.binds = true ∧ env.accept srv.binds = true

instance (env : Env) (srv : S3TPServer) : Decidable (srv.Connects env) :=
  inferInstanceAs (Decidable (_ ∧ _))

section Updates

variable (srv : S3TPServer)

def killing : S3TPServer := { srv.record .killed with timer := some .kill }

def connected : S3TPServer :=
  { srv.resetBuffers.record (.bound srv.binds srv.process [] [] 0) with
    binds := srv.binds + 1
    channel := some srv.binds }

def refused : S3TPServer :=
  { srv.resetBuffers with binds := srv.binds + 1, channel := none, timer := some .retry }

def dropped : S3TPServer := { srv with channel := none }

def queued (type : MessageType) (msg : List UInt8) : S3TPServer :=
  { srv with outbuf := srv.outbuf ++ encode type msg }

def tried : S3TPServer := { srv with sends := srv.sends + 1 }

/-- The channel took everything; with no process left, the connection is closed softly. -/
def flushed : S3TPServer :=
  { srv with
    sends := srv.sends + 1
    outbuf := []
    log := srv.log ++ .sent srv.outbuf :: if srv.process = none then [.disconnect] else [] }

def asked (command : List UInt8) : S3TPServer :=
  { srv.record (.dispatched srv.channel (.command command)) with spawns := srv.spawns + 1 }

end Updates

variable {env : Env} {srv srv' : S3TPServer} {type : MessageType} {msg : List UInt8}

theorem outbuf_queued_ne_nil : (srv.queued type msg).outbuf ≠ [] :=
  List.append_ne_nil_of_right_ne_nil _ (encode_ne_nil _ _)

theorem updateEvents_up (up : srv.channel ≠ none) : srv.updateEvents = some srv := by
  obtain ⟨n, hn⟩ := Option.ne_none_iff_exists'.mp up
  rw [updateEvents, hn]

private theorem updateEvents_down (down : srv.channel = none) : srv.updateEvents = none := by
  rw [updateEvents, down]

theorem disconnect_up (up : srv.channel ≠ none) :
    srv.disconnect = some (srv.record .disconnect) := by
  obtain ⟨n, hn⟩ := Option.ne_none_iff_exists'.mp up
  rw [disconnect, hn]

theorem disconnect_down (down : srv.channel = none) : srv.disconnect = none := by
  rw [disconnect, down]

private theorem reconnect_up (up : srv.channel ≠ none) : srv.reconnect env = some srv := if_pos up

private theorem reconnect_kill (down : srv.channel = none) (busy : srv.process ≠ none) :
    srv.reconnect env = some srv.killing := by
  obtain ⟨process, hp⟩ := Option.ne_none_iff_exists'.mp busy
  rw [reconnect, if_neg (not_not_intro down), hp]
  rfl

theorem reconnect_bind (down : srv.channel = none) (idle : srv.process = none)
    (connects : srv.Connects env) : srv.reconnect env = some srv.connected := by
  rw [reconnect, if_neg (not_not_intro down), idle]
  exact if_pos connects

theorem reconnect_retry (down : srv.channel = none) (idle : srv.process = none)
    (fails : ¬ srv.Connects env) : srv.reconnect env = some srv.refused := by
  rw [reconnect, if_neg (not_not_intro down), idle]
  exact if_neg fails

theorem reconnect_cases (env : Env) (srv : S3TPServer) :
    srv.channel ≠ none ∧ srv.reconnect env = some srv ∨
    srv.channel = none ∧ srv.process ≠ none ∧ srv.reconnect env = some srv.killing ∨
    srv.channel = none ∧ srv.process = none ∧ srv.Connects env ∧
      srv.reconnect env = some srv.connected ∨
    srv.channel = none ∧ srv.process = none ∧ ¬ srv.Connects env ∧
      srv.reconnect env = some srv.refused := by
  by_cases up : srv.channel ≠ none
  · exact Or.inl ⟨up, reconnect_up up⟩
  · have down : srv.channel = none := not_not.mp up
    by_cases busy : srv.process ≠ none
    · exact Or.inr (Or.inl ⟨down, busy, reconnect_kill down busy⟩)
    · have idle : srv.process = none := not_not.mp busy
      by_cases connects : srv.Connects env
      · exact Or.inr (Or.inr (Or.inl ⟨down, idle, connects, reconnect_bind down idle connects⟩))
      · exact Or.inr (Or.inr (Or.inr ⟨down, idle, connects, reconnect_retry down idle connects⟩))

/-- What `reconnect` has done, from the state that it leaves. -/
theorem reconnect_inv (h : srv.reconnect env = some srv') :
    srv.channel ≠ none ∧ srv' = srv ∨
    srv.channel = none ∧ srv.process ≠ none ∧ srv' = srv.killing ∨
    srv.channel = none ∧ srv.process = none ∧ srv.Connects env ∧ srv' = srv.connected ∨
    srv.channel = none ∧ srv.process = none ∧ ¬ srv.Connects env ∧ srv' = srv.refused := by
  rcases reconnect_cases env srv with
    ⟨up, e⟩ | ⟨down, busy, e⟩ | ⟨down, idle, connects, e⟩ | ⟨down, idle, fails, e⟩
  · exact Or.inl ⟨up, Option.some.inj (h.symm.trans e)⟩
  · exact Or.inr (Or.inl ⟨down, busy, Option.some.inj (h.symm.trans e)⟩)
  · exact Or.inr (Or.inr (Or.inl ⟨down, idle, connects, Option.some.inj (h.symm.trans e)⟩))
  · exact Or.inr (Or.inr (Or.inr ⟨down, idle, fails, Option.some.inj (h.symm.trans e)⟩))

theorem close_kill (busy : srv.process ≠ none) :
    srv.close env = some (srv.record .closed).dropped.killing :=
  reconnect_kill rfl busy

theorem close_bind (idle : srv.process = none) (connects : srv.Connects env) :
    srv.close env = some (srv.record .closed).dropped.connected :=
  reconnect_bind rfl idle connects

theorem close_retry (idle : srv.process = none) (fails : ¬ srv.Connects env) :
    srv.close env = some (srv.record .closed).dropped.refused :=
  reconnect_retry rfl idle fails

theorem sendBuf_idle (idle : srv.outbuf = []) : srv.sendBuf env = some srv := if_pos idle

theorem sendBuf_down (pending : srv.outbuf ≠ []) (down : srv.channel = none) :
    srv.sendBuf env = none := by
  rw [sendBuf, if_neg pending, down]

section Up

variable (pending : srv.outbuf ≠ []) (up : srv.channel ≠ none)
include pending up

theorem sendBuf_full (h : env.send srv.sends = .bufferFull) :
    srv.sendBuf env = some srv.tried.stopOutput := by
  obtain ⟨n, hn⟩ := Option.ne_none_iff_exists'.mp up
  simp only [sendBuf, pending, hn, h, if_false]
  rw [tried, hn]

theorem sendBuf_failed (h : env.send srv.sends = .failed) :
    srv.sendBuf env = srv.tried.close env := by
  obtain ⟨n, hn⟩ := Option.ne_none_iff_exists'.mp up
  simp only [sendBuf, pending, hn, h, if_false]
  rw [tried, hn]

theorem sendBuf_accepted (h : env.send srv.sends = .accepted) :
    srv.sendBuf env = some srv.flushed := by
  obtain ⟨n, hn⟩ := Option.ne_none_iff_exists'.mp up
  simp only [sendBuf, pending, hn, h, if_false, process_record]
  by_cases idle : srv.process = none
  · rw [if_pos idle, disconnect_up (by simp)]
    simp [flushed, record, idle, hn]
  · rw [if_neg idle]
    simp [flushed, record, idle, hn]

end Up

section Send

variable (up : srv.channel ≠ none) (counts : type ≠ .NONE)

theorem send_down (down : srv.channel = none) : srv.send env msg type = some srv := by
  rw [send, if_pos down, ite_self]

include up counts

theorem send_up :
    srv.send env msg type = ((srv.queued type msg).sendBuf env).bind updateEvents := by
  rw [send, if_neg (fun h => counts h.2), if_neg up]
  rfl

theorem send_full (h : env.send srv.sends = .bufferFull) :
    srv.send env msg type = some (srv.queued type msg).tried.stopOutput := by
  rw [send_up up counts, sendBuf_full outbuf_queued_ne_nil up h]
  exact updateEvents_up up

theorem send_accepted (h : env.send srv.sends = .accepted) :
    srv.send env msg type = some (srv.queued type msg).flushed := by
  rw [send_up up counts, sendBuf_accepted outbuf_queued_ne_nil up h]
  exact updateEvents_up up

theorem send_lost (h : env.send srv.sends = .failed)
    (lost : srv.process ≠ none ∨ ¬ srv.Connects env) : srv.send env msg type = none := by
  rw [send_up up counts, sendBuf_failed outbuf_queued_ne_nil up h]
  by_cases busy : srv.process ≠ none
  · have closes : (srv.queued type msg).tried.close env = _ := close_kill busy
    rw [closes, Option.bind_some]
    apply updateEvents_down
    rfl
  · have fails : ¬ srv.Connects env := lost.resolve_left busy
    have closes : (srv.queued type msg).tried.close env = _ := close_retry (not_not.mp busy) fails
    rw [closes, Option.bind_some]
    apply updateEvents_down
    rfl

theorem send_rebound (h : env.send srv.sends = .failed) (idle : srv.process = none)
    (connects : srv.Connects env) :
    srv.send env msg type =
      some (((srv.queued type msg).tried.record .closed).dropped.connected) := by
  have closes : (srv.queued type msg).tried.close env = _ := close_bind idle connects
  rw [send_up up counts, sendBuf_failed outbuf_queued_ne_nil up h, closes, Option.bind_some]
  apply updateEvents_up
  exact Option.some_ne_none _

end Send

theorem sendBuf_cases (h : srv.sendBuf env = some srv') :
    srv' = srv ∨ srv.channel ≠ none ∧
      (srv' = srv.tried.stopOutput ∨ srv' = srv.flushed ∨ srv.tried.close env = some srv') := by
  by_cases pending : srv.outbuf = []
  · exact Or.inl (Option.some.inj ((sendBuf_idle pending).symm.trans h)).symm
  · by_cases up : srv.channel ≠ none
    · refine Or.inr ⟨up, ?_⟩
      cases answer : env.send srv.sends with
      | bufferFull =>
        exact Or.inl (Option.some.inj ((sendBuf_full pending up answer).symm.trans h)).symm
      | accepted =>
        have sent := (sendBuf_accepted pending up answer).symm.trans h
        exact Or.inr (Or.inl (Option.some.inj sent).symm)
      | failed => exact Or.inr (Or.inr ((sendBuf_failed pending up answer).symm.trans h))
    · rw [sendBuf_down pending (not_not.mp up)] at h
      cases h

theorem of_bind_updateEvents {result : Option S3TPServer}
    (h : result.bind updateEvents = some srv') : result = some srv' := by
  obtain ⟨srv₁, ends, updates⟩ := Option.bind_eq_some_iff.mp h
  rw [updateEvents] at updates
  split at updates
  · cases updates
  · obtain rfl := Option.some.inj updates
    exact ends

theorem sendBuf_of_send (up : srv.channel ≠ none) (counts : type ≠ .NONE)
    (h : srv.send env msg type = some srv') : (srv.queued type msg).sendBuf env = some srv' :=
  of_bind_updateEvents ((send_up up counts).symm.trans h)

/-- If `send` returns, it is either a no-op or `sendBuf` after the message was queued. -/
theorem send_cases (h : srv.send env msg type = some srv') :
    srv' = srv ∨ srv.channel ≠ none ∧ (srv.queued type msg).sendBuf env = some srv' := by
  rw [send] at h
  split at h
  · exact Or.inl (Option.some.inj h).symm
  · split at h
    · exact Or.inl (Option.some.inj h).symm
    · rename_i up
      exact Or.inr ⟨up, of_bind_updateEvents h⟩

theorem finish_idle (idle : srv.outbuf = []) : srv.finish env = srv.disconnect :=
  if_neg (not_not_intro idle)

theorem finish_idle_up (idle : srv.outbuf = []) (up : srv.channel ≠ none) :
    srv.finish env = some (srv.record .disconnect) :=
  (finish_idle idle).trans (disconnect_up up)

theorem finish_pending (pending : srv.outbuf ≠ []) : srv.finish env = srv.sendBuf env :=
  if_pos pending

theorem startProcess_eq {command : List UInt8} :
    srv.startProcess env command =
      (if env.uvSpawn srv.spawns = true then some (srv.asked command)
        else (srv.asked command).onExit env (-1)).bind
        (adopt env ⟨command, if env.uvSpawn srv.spawns = true then .running else .unspawned,
          true, [], false⟩) :=
  rfl

variable (env) (srv) in
inductive Begun (command : List UInt8) : S3TPServer → Prop
  | spawned {srv' : S3TPServer} : env.uvSpawn srv.spawns = true →
      (srv.asked command).adopt env ⟨command, .running, true, [], false⟩ = some srv' →
      Begun command srv'
  | fails {srv₁ srv' : S3TPServer} : env.uvSpawn srv.spawns = false →
      (srv.asked command).onExit env (-1) = some srv₁ →
      srv₁.adopt env ⟨command, .unspawned, true, [], false⟩ = some srv' → Begun command srv'

theorem startProcess_inv {command : List UInt8} (h : srv.startProcess env command = some srv') :
    Begun env srv command srv' := by
  rw [startProcess_eq] at h
  cases spawned : env.uvSpawn srv.spawns with
  | true =>
    simp only [spawned, if_true, Option.bind_some] at h
    exact .spawned spawned h
  | false =>
    simp only [spawned, if_false, Bool.false_eq_true] at h
    obtain ⟨srv₁, exits, adopts⟩ := Option.bind_eq_some_iff.mp h
    exact .fails spawned exits adopts

def payload (srv : S3TPServer) : List UInt8 :=
  (srv.buf.drop headerSize).take srv.expected.toNat

theorem dispatch_running {process : Process} (hp : srv.process = some process) :
    srv.dispatch env type =
      some { srv.record (.dispatched srv.channel (Dispatch.stdin type srv.payload)) with
        process := some (process.passed type srv.payload) } := by
  rw [dispatch, hp]
  by_cases eof : type = .ENDOFFILE
  · simp [Dispatch.stdin, Process.passed, eof]
  · simp [Dispatch.stdin, Process.passed, eof, payload]

theorem dispatch_idle (idle : srv.process = none) :
    srv.dispatch env type = srv.startProcess env srv.payload := by
  rw [dispatch, idle]
  rfl

variable (env) (srv) (type) in
/-- What `dispatch` has done, from the state that it leaves. -/
inductive Taken : S3TPServer → Prop
  | input {process : Process} : srv.process = some process →
      Taken { srv.record (.dispatched srv.channel (Dispatch.stdin type srv.payload)) with
        process := some (process.passed type srv.payload) }
  | command {srv' : S3TPServer} : srv.process = none →
      srv.startProcess env srv.payload = some srv' → Taken srv'

theorem dispatch_inv (h : srv.dispatch env type = some srv') : Taken env srv type srv' := by
  cases hp : srv.process with
  | some process =>
    obtain rfl := Option.some.inj ((dispatch_running hp).symm.trans h)
    exact .input hp
  | none => exact .command hp ((dispatch_idle hp).symm.trans h)

section Close

/-- The exit status that the callback of `uv_close` hands on: none for a process that was
killed by SIGTERM, or that has not ended. -/
def reportedExit (srv : S3TPServer) : Option Int :=
  match srv.process with
  | some process =>
      match process.child with
      | .closing exitStatus signal => if signal ≠ SIGTERM then some exitStatus else none
      | _ => none
  | none => none

theorem reportedExit_closing {process : Process} {exitStatus signal : Int}
    (hp : srv.process = some process) (child : process.child = .closing exitStatus signal) :
    srv.reportedExit = if signal ≠ SIGTERM then some exitStatus else none := by
  rw [reportedExit, hp]
  simp [child]

theorem reportedExit_open {process : Process} (hp : srv.process = some process)
    (other : ∀ exitStatus signal, process.child ≠ .closing exitStatus signal) :
    srv.reportedExit = none := by
  rw [reportedExit, hp]
  cases child : process.child with
  | closing exitStatus signal => exact absurd child (other exitStatus signal)
  | unspawned => simp [child]
  | running => simp [child]
  | gone => simp [child]

theorem closeCb_closing (env : Env) {process : Process} {exitStatus signal : Int}
    (hp : srv.process = some process) (child : process.child = .closing exitStatus signal) :
    srv.closeCb env =
      if signal ≠ SIGTERM then srv.onExit env exitStatus
      else some { srv with process := some { process with child := .gone } } := by
  rw [closeCb, hp]
  simp [child]

theorem closeCb_open (env : Env) {process : Process} (hp : srv.process = some process)
    (other : ∀ exitStatus signal, process.child ≠ .closing exitStatus signal) :
    srv.closeCb env = some srv := by
  rw [closeCb, hp]
  cases child : process.child with
  | closing exitStatus signal => exact absurd child (other exitStatus signal)
  | unspawned => simp [child]
  | running => simp [child]
  | gone => simp [child]

variable (env) (srv) in
inductive HandleClosed : S3TPServer → Prop
  | reports {process : Process} {exitStatus signal : Int} {srv' : S3TPServer} :
      srv.process = some process → process.child = .closing exitStatus signal →
      signal ≠ SIGTERM → srv.reportedExit = some exitStatus →
      srv.onExit env exitStatus = some srv' → HandleClosed srv'
  | same :
      (∀ process exitStatus signal, srv.process = some process →
        process.child ≠ .closing exitStatus signal) →
      srv.reportedExit = none → HandleClosed srv
  | gone {process : Process} {exitStatus : Int} :
      srv.process = some process → process.child = .closing exitStatus SIGTERM →
      srv.reportedExit = none →
      HandleClosed { srv with process := some { process with child := .gone } }

theorem closeCb_inv (h : srv.closeCb env = some srv') : HandleClosed env srv srv' := by
  cases hp : srv.process with
  | none =>
    have same : srv.closeCb env = some srv := by rw [closeCb, hp]
    obtain rfl := Option.some.inj (same.symm.trans h)
    exact .same (by simp [hp]) (by rw [reportedExit, hp])
  | some process =>
    by_cases ended : ∃ exitStatus signal, process.child = .closing exitStatus signal
    · obtain ⟨exitStatus, signal, child⟩ := ended
      have reported := reportedExit_closing hp child
      rw [closeCb_closing env hp child] at h
      by_cases counts : signal ≠ SIGTERM
      · rw [if_pos counts] at h reported
        exact .reports hp child counts reported h
      · rw [if_neg counts] at h reported
        obtain rfl := not_not.mp counts
        obtain rfl := Option.some.inj h
        exact .gone hp child reported
    · have other : ∀ exitStatus signal, process.child ≠ .closing exitStatus signal :=
        fun exitStatus signal child => ended ⟨exitStatus, signal, child⟩
      obtain rfl := Option.some.inj ((closeCb_open env hp other).symm.trans h)
      refine .same ?_ (reportedExit_open hp other)
      intro process' exitStatus signal hp'
      obtain rfl := Option.some.inj (hp.symm.trans hp')
      exact other exitStatus signal

theorem reportedExit_inv {exitStatus : Int} (h : srv.reportedExit = some exitStatus) :
    ∃ process signal, srv.process = some process ∧
      process.child = .closing exitStatus signal ∧ signal ≠ SIGTERM := by
  cases hp : srv.process with
  | none =>
    rw [reportedExit, hp] at h
    cases h
  | some process =>
    by_cases ended : ∃ status signal, process.child = .closing status signal
    · obtain ⟨status, signal, child⟩ := ended
      rw [reportedExit_closing hp child] at h
      split at h
      · rename_i counts
        obtain rfl := Option.some.inj h
        exact ⟨process, signal, rfl, child, counts⟩
      · cases h
    · have open_ : srv.reportedExit = none :=
        reportedExit_open hp fun status signal child => ended ⟨status, signal, child⟩
      rw [open_] at h
      cases h

end Close

variable (env) (srv) in
inductive Ticked : S3TPServer → Prop
  | idle : srv.timer = none → Ticked srv
  | kill {srv' : S3TPServer} : srv.timer = some .kill →
      ({ srv with timer := none } : S3TPServer).forgetProcess.reconnect env = some srv' →
      Ticked srv'
  | retry {srv' : S3TPServer} : srv.timer = some .retry →
      ({ srv with timer := none } : S3TPServer).reconnect env = some srv' → Ticked srv'

theorem onTimer_inv (h : srv.onTimer env = some srv') : Ticked env srv srv' := by
  rw [onTimer] at h
  cases timer : srv.timer with
  | none =>
    rw [timer] at h
    obtain rfl := Option.some.inj h
    exact .idle timer
  | some callback =>
    rw [timer] at h
    cases callback with
    | kill => exact .kill timer h
    | retry => exact .retry timer h

theorem onS3tpEvent_eq (env : Env) (srv : S3TPServer) : srv.next env .polled = some srv := by
  by_cases up : srv.channel ≠ none
  · exact (if_pos up).trans (updateEvents_up up)
  · exact if_neg up

theorem readCallback_cases {stdout : Bool} {bytes : List UInt8}
    (h : srv.readCallback env stdout bytes = some srv') :
    srv' = srv ∨ ∃ type, type ≠ .NONE ∧ srv.send env bytes type = some srv' := by
  rw [readCallback] at h
  split at h
  · refine Or.inr ⟨_, ?_, h⟩
    cases stdout <;> decide
  · exact Or.inl (Option.some.inj h).symm

section Receive

variable (env) (srv) (bytes : List UInt8)

def header : UInt32 := if srv.expected = 0 then ofBytes (srv.buf ++ bytes) else srv.expected

def typeRead : MessageType :=
  if srv.expected = 0 then ⟨(srv.buf ++ bytes).getD 4 0⟩ else env.garbage srv.calls

def arrived : S3TPServer :=
  { srv.record (.received srv.channel bytes) with
    buf := srv.buf ++ bytes, calls := srv.calls + 1 }

def headed : S3TPServer := { srv.arrived bytes with expected := srv.header bytes }

@[simp] theorem channel_headed : (srv.headed bytes).channel = srv.channel := rfl

@[simp] theorem process_headed : (srv.headed bytes).process = srv.process := rfl

/-- With these bytes the buffer holds a whole frame whose length is not zero. -/
def Completes : Prop :=
  headerSize ≤ (srv.buf ++ bytes).length ∧ srv.header bytes ≠ 0 ∧
    headerSize + (srv.header bytes).toNat ≤ (srv.buf ++ bytes).length

instance : Decidable (srv.Completes bytes) := inferInstanceAs (Decidable (_ ∧ _))

variable {env} {srv} {bytes}

theorem receive_short (short : (srv.buf ++ bytes).length < headerSize) :
    srv.onDataReceived env bytes = some (srv.arrived bytes) :=
  if_pos short

theorem receive_header (long : headerSize ≤ (srv.buf ++ bytes).length) :
    srv.onDataReceived env bytes =
      if srv.header bytes = 0 then
        (srv.headed bytes).close env
      else if headerSize + (srv.header bytes).toNat ≤ (srv.buf ++ bytes).length then
        ((srv.headed bytes).dispatch env (srv.typeRead env bytes)).bind fun srv =>
          some srv.eraseFrame
      else
        some (srv.headed bytes) := by
  rw [onDataReceived, readFrame, if_neg (by exact not_lt.mpr long)]
  by_cases fresh : srv.expected = 0
  · simp only [headed, arrived, header, typeRead, fresh, expected_record, if_true]
  · simp only [headed, arrived, header, typeRead, fresh, expected_record, if_false]

theorem receive_zero (long : headerSize ≤ (srv.buf ++ bytes).length)
    (zero : srv.header bytes = 0) :
    srv.onDataReceived env bytes = (srv.headed bytes).close env := by
  rw [receive_header long, if_pos zero]

theorem receive_more (long : headerSize ≤ (srv.buf ++ bytes).length)
    (positive : srv.header bytes ≠ 0)
    (more : (srv.buf ++ bytes).length < headerSize + (srv.header bytes).toNat) :
    srv.onDataReceived env bytes = some (srv.headed bytes) := by
  rw [receive_header long, if_neg positive, if_neg (not_le.mpr more)]

theorem receive_complete (completes : srv.Completes bytes) :
    srv.onDataReceived env bytes =
      ((srv.headed bytes).dispatch env (srv.typeRead env bytes)).bind fun srv =>
        some srv.eraseFrame := by
  obtain ⟨long, positive, whole⟩ := completes
  rw [receive_header long, if_neg positive, if_pos whole]

/-- The ways a call of `onDataReceived` can take. -/
theorem receive_cases (srv : S3TPServer) (bytes : List UInt8) :
    (srv.buf ++ bytes).length < headerSize ∨
    headerSize ≤ (srv.buf ++ bytes).length ∧ srv.header bytes = 0 ∨
    headerSize ≤ (srv.buf ++ bytes).length ∧ srv.header bytes ≠ 0 ∧
      (srv.buf ++ bytes).length < headerSize + (srv.header bytes).toNat ∨
    srv.Completes bytes := by
  by_cases short : (srv.buf ++ bytes).length < headerSize
  · exact Or.inl short
  · have long : headerSize ≤ (srv.buf ++ bytes).length := not_lt.mp short
    by_cases zero : srv.header bytes = 0
    · exact Or.inr (Or.inl ⟨long, zero⟩)
    · by_cases more : (srv.buf ++ bytes).length < headerSize + (srv.header bytes).toNat
      · exact Or.inr (Or.inr (Or.inl ⟨long, zero, more⟩))
      · exact Or.inr (Or.inr (Or.inr ⟨long, zero, not_lt.mp more⟩))

variable (env srv bytes) in
/-- What a call of `onDataReceived` has done, from the state that it leaves. -/
inductive Received : S3TPServer → Prop
  | short : (srv.buf ++ bytes).length < headerSize → ¬ srv.Completes bytes →
      Received (srv.arrived bytes)
  | zero {srv' : S3TPServer} : headerSize ≤ (srv.buf ++ bytes).length →
      srv.header bytes = 0 → ¬ srv.Completes bytes →
      (srv.headed bytes).close env = some srv' → Received srv'
  | more : headerSize ≤ (srv.buf ++ bytes).length → srv.header bytes ≠ 0 →
      ¬ srv.Completes bytes → Received (srv.headed bytes)
  | whole {srv₁ : S3TPServer} : srv.Completes bytes →
      (srv.headed bytes).dispatch env (srv.typeRead env bytes) = some srv₁ →
      Received srv₁.eraseFrame

theorem receive_inv (h : srv.onDataReceived env bytes = some srv') :
    Received env srv bytes srv' := by
  rcases receive_cases srv bytes with short | ⟨long, zero⟩ | ⟨long, positive, more⟩ | whole
  · obtain rfl := Option.some.inj ((receive_short short).symm.trans h)
    exact .short short fun completes => absurd completes.1 (not_le.mpr short)
  · exact .zero long zero (fun completes => completes.2.1 zero)
      ((receive_zero long zero).symm.trans h)
  · obtain rfl := Option.some.inj ((receive_more long positive more).symm.trans h)
    exact .more long positive fun completes => absurd completes.2.2 (not_le.mpr more)
  · rw [receive_complete whole] at h
    obtain ⟨srv₁, dispatches, erases⟩ := Option.bind_eq_some_iff.mp h
    obtain rfl := Option.some.inj erases
    exact .whole whole dispatches

end Receive

end S3TPServer

end Horst.S3tp
