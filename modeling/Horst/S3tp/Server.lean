import Horst.Foundation.Run
import Horst.S3tp.Protocol

/-!
The S3TP server and the process it runs for a client: `Process`, `S3TPServer`,
and the callbacks that the event loop and the channel make.

A method is `none` where it dereferences `channel` while that is null. What the
S3TP library, `uv_spawn` and uninitialised memory answer is given by an `Env`.
The channel does not call back from inside `send`, `bind` or `disconnect`. A
process that was destroyed makes no callbacks. `size_t` has more than 32 bits.

Two accesses do no harm here, so that there are more runs than the program survives:
to kill a process that was never spawned (whose pid is 0), and to erase a frame from a
buffer that a lost connection has emptied before.
-/

set_option autoImplicit false
set_option relaxedAutoImplicit false

namespace Horst.S3tp

open Foundation Foundation.Framing

/-- The results of `channel->send`: everything taken, `ERROR_BUFFER_FULL`, or another error. -/
inductive SendResult
  | accepted | bufferFull | failed
  deriving DecidableEq, Repr

/-- The answers to the attempts at each thing outside the program, and for each call of
`onDataReceived` what the memory of its local variable `type` held before. -/
structure Env where
  send : ℕ → SendResult
  bind : ℕ → Bool
  accept : ℕ → Bool
  uvSpawn : ℕ → Bool
  garbage : ℕ → MessageType

/-- An environment in which everything outside the program succeeds. -/
def Env.fine : Env where
  send _ := .accepted
  bind _ := true
  accept _ := true
  uvSpawn _ := true
  garbage _ := .NONE

def SIGTERM : Int := 15

/-- The child of a process: never spawned, running, ended with its handle being closed, or gone. -/
inductive Child
  | unspawned
  | running
  | closing (exitStatus : Int) (signal : Int)
  | gone
  deriving DecidableEq, Repr

/-- `Process` of an S3TP command. `stdin` is what was written to the pipe so far, `reading`
tells whether the output pipes are read. -/
structure Process where
  cmd : List UInt8
  child : Child
  hasIn : Bool
  stdin : List UInt8
  reading : Bool
  deriving DecidableEq, Repr

namespace Process

def startOutput (process : Process) : Process :=
  if process.child = .running then { process with reading := true } else process

def stopOutput (process : Process) : Process := { process with reading := false }

def input (process : Process) (data : List UInt8) : Process :=
  if process.hasIn = true then { process with stdin := process.stdin ++ data } else process

def closeInput (process : Process) : Process := { process with hasIn := false }

/-- `options.exit_cb`: the pipes are closed, and then the handle is. -/
def exitCb (process : Process) (exitStatus signal : Int) : Process :=
  if process.child = .running then
    { process with child := .closing exitStatus signal, hasIn := false, reading := false }
  else
    process

end Process

/-- The callback that the timer of the server is set to. -/
inductive Timer
  | kill | retry
  deriving DecidableEq, Repr

/-- The chronicle of a run, which the program never reads. -/
inductive LogEntry
  | received (connection : Option ℕ) (bytes : List UInt8)
  | dispatched (connection : Option ℕ) (dispatch : Dispatch)
  | sent (bytes : List UInt8)
  | bound (connection : ℕ) (process : Option Process) (buf outbuf : List UInt8)
      (expected : UInt32)
  | disconnect
  | closed
  | killed
  deriving DecidableEq, Repr

/-- `S3TPServer`. The channel is known by the number of the attempt that bound it; the
counters tell how many answers of the environment were used. -/
structure S3TPServer where
  channel : Option ℕ
  buf : List UInt8
  expected : UInt32
  process : Option Process
  outbuf : List UInt8
  timer : Option Timer
  sends : ℕ
  binds : ℕ
  spawns : ℕ
  calls : ℕ
  log : List LogEntry
  deriving DecidableEq, Repr

namespace S3TPServer

def new : S3TPServer where
  channel := none
  buf := []
  expected := 0
  process := none
  outbuf := []
  timer := none
  sends := 0
  binds := 0
  spawns := 0
  calls := 0
  log := []

def record (srv : S3TPServer) (entry : LogEntry) : S3TPServer :=
  { srv with log := srv.log ++ [entry] }

section Record

variable (srv : S3TPServer) (entry : LogEntry)

@[simp] theorem channel_record : (srv.record entry).channel = srv.channel := rfl

@[simp] theorem buf_record : (srv.record entry).buf = srv.buf := rfl

@[simp] theorem expected_record : (srv.record entry).expected = srv.expected := rfl

@[simp] theorem process_record : (srv.record entry).process = srv.process := rfl

@[simp] theorem outbuf_record : (srv.record entry).outbuf = srv.outbuf := rfl

@[simp] theorem timer_record : (srv.record entry).timer = srv.timer := rfl

@[simp] theorem sends_record : (srv.record entry).sends = srv.sends := rfl

@[simp] theorem binds_record : (srv.record entry).binds = srv.binds := rfl

@[simp] theorem log_record : (srv.record entry).log = srv.log ++ [entry] := rfl

end Record

/-- `update_events`, which asks the channel for its active events. -/
def updateEvents (srv : S3TPServer) : Option S3TPServer :=
  match srv.channel with
  | none => none
  | some _ => some srv

def disconnect (srv : S3TPServer) : Option S3TPServer :=
  match srv.channel with
  | none => none
  | some _ => some (srv.record .disconnect)

def stopOutput (srv : S3TPServer) : S3TPServer :=
  { srv with process := srv.process.map Process.stopOutput }

def startOutput (srv : S3TPServer) : S3TPServer :=
  { srv with process := srv.process.map Process.startOutput }

def forgetProcess (srv : S3TPServer) : S3TPServer := { srv with process := none }

def resetBuffers (srv : S3TPServer) : S3TPServer :=
  { srv with buf := [], expected := 0, outbuf := [] }

section Env

variable (env : Env)

/-- The attempt of `reconnect` at a new channel. -/
def bind (srv : S3TPServer) : Option S3TPServer :=
  let number := srv.binds
  let srv := { srv with binds := srv.binds + 1 }
  if env.bind number = true ∧ env.accept number = true then
    let entry := .bound number srv.process srv.buf srv.outbuf srv.expected
    { srv.record entry with channel := some number }.updateEvents
  else
    some { srv with channel := none, timer := some .retry }

def reconnect (srv : S3TPServer) : Option S3TPServer :=
  if srv.channel ≠ none then
    some srv
  else match srv.process with
    | some _ => some { srv.record .killed with timer := some .kill }
    | none => srv.resetBuffers.bind env

def start : Option S3TPServer := new.reconnect env

def close (srv : S3TPServer) : Option S3TPServer :=
  { srv.record .closed with channel := none }.reconnect env

def onDisconnected (srv : S3TPServer) : Option S3TPServer :=
  { srv with channel := none }.reconnect env

def sendBuf (srv : S3TPServer) : Option S3TPServer :=
  if srv.outbuf = [] then
    some srv
  else match srv.channel with
    | none => none
    | some _ =>
        let r := env.send srv.sends
        let srv := { srv with sends := srv.sends + 1 }
        match r with
        | .bufferFull => some srv.stopOutput
        | .failed => srv.close env
        | .accepted =>
            let srv := { srv.record (.sent srv.outbuf) with outbuf := [] }
            if srv.process = none then srv.disconnect else some srv

def send (msg : List UInt8) (type : MessageType) (srv : S3TPServer) : Option S3TPServer :=
  if UInt32.ofNat msg.length = 0 ∧ type = .NONE then
    some srv
  else if srv.channel = none then
    some srv
  else
    ({ srv with outbuf := srv.outbuf ++ encode type msg }.sendBuf env).bind updateEvents

def exitText (exitCode : Int) : List UInt8 :=
  ("[exit] " ++ toString exitCode ++ "\n").toList.map fun c => UInt8.ofNat c.toNat

/-- The end of `onExit`: the rest is sent, or the connection is closed softly at once. -/
def finish (srv : S3TPServer) : Option S3TPServer :=
  if srv.outbuf ≠ [] then srv.sendBuf env else srv.disconnect

/-- The callback that the server gives to its process. -/
def onExit (exitCode : Int) (srv : S3TPServer) : Option S3TPServer :=
  (srv.send env (exitText exitCode) .ENDOFFILE).bind fun srv => srv.forgetProcess.finish env

/-- The client is told that its command was received by the new process. -/
def adopt (process : Process) (srv : S3TPServer) : Option S3TPServer :=
  ({ srv with process := some process }.send env [] .STARTED).bind fun srv => some srv.startOutput

/-- The branch of `onDataReceived` that constructs a process. When `uv_spawn` fails, the
constructor calls `onExit`, and `process` is assigned after that. -/
def startProcess (command : List UInt8) (srv : S3TPServer) : Option S3TPServer :=
  let spawned := env.uvSpawn srv.spawns
  let child : Child := if spawned = true then .running else .unspawned
  let srv := { srv.record (.dispatched srv.channel (.command command)) with
    spawns := srv.spawns + 1 }
  (if spawned = true then some srv else srv.onExit env (-1)).bind
    (adopt env ⟨command, child, true, [], false⟩)

/-- The end of `onDataReceived` for a complete frame: what its payload is taken for. -/
def dispatch (type : MessageType) (srv : S3TPServer) : Option S3TPServer :=
  let payload := (srv.buf.drop headerSize).take srv.expected.toNat
  match srv.process with
  | some process =>
      if type = .ENDOFFILE then
        some { srv.record (.dispatched srv.channel .closeInput) with
          process := some process.closeInput }
      else
        some { srv.record (.dispatched srv.channel (.input payload)) with
          process := some (process.input payload) }
  | none => srv.startProcess env payload

def eraseFrame (srv : S3TPServer) : S3TPServer :=
  { srv with buf := srv.buf.drop (headerSize + srv.expected.toNat), expected := 0 }

/-- `onDataReceived` after the bytes were copied into the buffer. -/
def readFrame (garbage : MessageType) (srv : S3TPServer) : Option S3TPServer :=
  if srv.buf.length < headerSize then
    some srv
  else
    -- `type` is assigned only by the call that reads the header
    let type := if srv.expected = 0 then ⟨srv.buf.getD 4 0⟩ else garbage
    let srv := if srv.expected = 0 then { srv with expected := ofBytes srv.buf } else srv
    if srv.expected = 0 then
      srv.close env
    else if headerSize + srv.expected.toNat ≤ srv.buf.length then
      (srv.dispatch env type).bind fun srv => some srv.eraseFrame
    else
      some srv

def onDataReceived (bytes : List UInt8) (srv : S3TPServer) : Option S3TPServer :=
  { srv.record (.received srv.channel bytes) with
    buf := srv.buf ++ bytes, calls := srv.calls + 1 }.readFrame env (env.garbage srv.calls)

def onBufferFull (srv : S3TPServer) : S3TPServer := srv.stopOutput

def onBufferEmpty (srv : S3TPServer) : Option S3TPServer := srv.startOutput.sendBuf env

/-- `on_s3tp_event` after the callbacks that the channel makes from it. -/
def onS3tpEvent (srv : S3TPServer) : Option S3TPServer :=
  if srv.channel ≠ none then srv.updateEvents else some srv

/-- `Process::read_callback`, which libuv calls while the output pipes are read. -/
def readCallback (stdout : Bool) (bytes : List UInt8) (srv : S3TPServer) : Option S3TPServer :=
  if srv.process.any Process.reading = true ∧ bytes ≠ [] then
    srv.send env bytes (if stdout = true then .STDOUT else .STDERR)
  else
    some srv

def exitCb (exitStatus signal : Int) (srv : S3TPServer) : S3TPServer :=
  { srv with process := srv.process.map fun process => process.exitCb exitStatus signal }

/-- The callback of `uv_close` for the handle of the process. -/
def closeCb (srv : S3TPServer) : Option S3TPServer :=
  match srv.process with
  | none => some srv
  | some process =>
      match process.child with
      | .closing exitStatus signal =>
          if signal ≠ SIGTERM then
            srv.onExit env exitStatus
          else
            some { srv with process := some { process with child := .gone } }
      | _ => some srv

/-- The callback of the timer, which is not repeated. -/
def onTimer (srv : S3TPServer) : Option S3TPServer :=
  match srv.timer with
  | none => some srv
  | some .kill => { srv with timer := none }.forgetProcess.reconnect env
  | some .retry => { srv with timer := none }.reconnect env

end Env

end S3TPServer

inductive Input
  | data (bytes : List UInt8)
  | disconnected
  | bufferFull
  | bufferEmpty
  | polled
  | output (stdout : Bool) (bytes : List UInt8)
  | exited (exitStatus : Int) (signal : Int)
  | handleClosed
  | timeout
  deriving DecidableEq, Repr

/-- One callback; one that cannot come in the state, such as output of no process, does nothing. -/
def S3TPServer.next (env : Env) (srv : S3TPServer) : Input → Option S3TPServer
  | .data bytes => srv.onDataReceived env bytes
  | .disconnected => srv.onDisconnected env
  | .bufferFull => some srv.onBufferFull
  | .bufferEmpty => srv.onBufferEmpty env
  | .polled => srv.onS3tpEvent
  | .output stdout bytes => srv.readCallback env stdout bytes
  | .exited exitStatus signal => some (srv.exitCb exitStatus signal)
  | .handleClosed => srv.closeCb env
  | .timeout => srv.onTimer env

/-- The server from its start on, as far as the callbacks do not dereference a null channel. -/
def S3TPServer.serve (env : Env) (inputs : List Input) : Option S3TPServer :=
  (start env).bind (follow (next env) inputs)

def S3TPServer.Step (env : Env) (srv : S3TPServer) (input : Input) (srv' : S3TPServer) : Prop :=
  srv.next env input = some srv'

theorem S3TPServer.exists_run (env : Env) (inputs : List Input) (test : S3TPServer → Bool)
    (h : (serve env inputs).any test = true) :
    ∃ srv₀ ts srv, start env = some srv₀ ∧ Run (Step env) srv₀ ts srv ∧
      ts.map Transition.label = inputs ∧ test srv = true := by
  obtain ⟨srv, serves, passes⟩ := (Option.any_eq_true _ _).mp h
  obtain ⟨srv₀, starts, follows⟩ := Option.bind_eq_some_iff.mp serves
  obtain ⟨ts, run, labels⟩ := Run.of_follow .nil follows
  exact ⟨srv₀, ts, srv, starts, run, labels, passes⟩

end Horst.S3tp
