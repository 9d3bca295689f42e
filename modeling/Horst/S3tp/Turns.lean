import Horst.S3tp.Reconnect
import Horst.S3tp.Wiring

/-!
What a callback can do on a connection that stays up, while the channel takes what it is
given or reports that its buffer is full.
-/

set_option autoImplicit false
set_option relaxedAutoImplicit false

namespace Horst.S3tp

open Foundation Foundation.Framing

namespace S3TPServer

def Asks (srv : S3TPServer) : Input → Prop
  | .data bytes => srv.process = none ∧ srv.Completes bytes
  | _ => False

instance (srv : S3TPServer) (input : Input) : Decidable (srv.Asks input) :=
  match input with
  | .data bytes => inferInstanceAs (Decidable (srv.process = none ∧ srv.Completes bytes))
  | .disconnected | .bufferFull | .bufferEmpty | .polled | .output _ _ | .exited _ _
  | .handleClosed | .timeout => isFalse id

section Replies

variable (env : Env)

/-- The message that a call of `send` queues, which it does where there is a channel. -/
def sendReplies (msg : List UInt8) (type : MessageType) (srv : S3TPServer) :
    List (MessageType × List UInt8) :=
  if (UInt32.ofNat msg.length = 0 ∧ type = .NONE) ∨ srv.channel = none then [] else [(type, msg)]

def startProcessReplies (srv : S3TPServer) (command : List UInt8) :
    List (MessageType × List UInt8) :=
  let asked := srv.asked command
  if env.uvSpawn srv.spawns = true then
    asked.sendReplies [] .STARTED
  else
    asked.sendReplies (exitText (-1)) .ENDOFFILE ++
      (asked.onExit env (-1)).elim [] (sendReplies [] .STARTED)

def replies (srv : S3TPServer) : Input → List (MessageType × List UInt8)
  | .data bytes =>
      if srv.process = none ∧ srv.Completes bytes then
        (srv.headed bytes).startProcessReplies env (srv.headed bytes).payload
      else
        []
  | .output stdout bytes =>
      if srv.process.any Process.reading = true ∧ bytes ≠ [] then
        srv.sendReplies bytes (streamType stdout)
      else
        []
  | .handleClosed =>
      srv.reportedExit.elim [] fun exitStatus => srv.sendReplies (exitText exitStatus) .ENDOFFILE
  | .disconnected | .bufferFull | .bufferEmpty | .polled | .exited _ _ | .timeout => []

end Replies

/-- A callback during which the connection stays up, and each `channel->send` takes the whole
buffer or answers `ERROR_BUFFER_FULL`. -/
structure Flows (env : Env) (srv : S3TPServer) (input : Input) (srv' : S3TPServer) :
    Prop where
  called : Called env srv input srv'
  stays : srv'.channel = srv.channel
  works : ∀ n, srv.sends ≤ n → n < srv'.sends → env.send n ≠ .failed

def flow? (env : Env) (srv : S3TPServer) (input : Input) : Option S3TPServer :=
  if srv.Comes input then
    (srv.next env input).filter fun srv' => srv'.channel = srv.channel
  else
    none

theorem flows_of_eq {env : Env} (works : ∀ n, env.send n ≠ .failed) (srv : S3TPServer)
    (input : Input) (srv' : S3TPServer) (h : srv.flow? env input = some srv') :
    Flows env srv input srv' := by
  rw [flow?] at h
  split at h
  · rename_i comes
    obtain ⟨goes, stays⟩ := Option.filter_eq_some_iff.mp h
    exact ⟨⟨comes, goes⟩, of_decide_eq_true stays, fun n _ _ => works n⟩
  · cases h

/-- In between, the connection is not closed softly. -/
def Lasts (srv srv' : S3TPServer) : Prop :=
  ∃ ls, srv'.log = srv.log ++ ls ∧ .disconnect ∉ ls

structure Onward (ms : List (MessageType × List UInt8)) (srv srv' : S3TPServer) : Prop where
  child : srv'.process.map Process.child = srv.process.map Process.child
  spawns : srv'.spawns = srv.spawns
  bytes : srv'.queuedBytes = srv.queuedBytes ++ encodeAll ms
  lasts : Lasts srv srv'

inductive Ages : Child → Input → Child → Prop
  | stays {child : Child} {input : Input} :
      (input = .handleClosed → ∀ exitStatus signal, child ≠ .closing exitStatus signal) →
      Ages child input child
  | exits {exitStatus signal : Int} :
      Ages .running (.exited exitStatus signal) (.closing exitStatus signal)
  | ceases {exitStatus : Int} : Ages (.closing exitStatus SIGTERM) .handleClosed .gone

/-- The last message is queued, and the connection is closed softly as soon as all was taken. -/
def Winds (srv srv' : S3TPServer) : Prop :=
  srv'.outbuf = [] ∧
      (∃ ls, srv'.log = srv.log ++ ls ++ [.disconnect] ∧ (srv.process ≠ none → .disconnect ∉ ls)) ∨
    srv'.outbuf ≠ [] ∧ Lasts srv srv'

inductive Turn (env : Env) (srv : S3TPServer) (input : Input) (srv' : S3TPServer) : Prop
  | idles :
      ¬ srv.Asks input → srv.process = none → srv'.process = none →
      srv'.outbuf = srv.outbuf → srv'.spawns = srv.spawns → srv.replies env input = [] →
      Lasts srv srv' → Turn env srv input srv'
  | flushes :
      ¬ srv.Asks input → srv.process = none → srv'.process = none →
      srv'.outbuf = [] → srv'.spawns = srv.spawns → srv.replies env input = [] →
      srv.outbuf ≠ [] → srv'.log = srv.log ++ [.sent srv.outbuf] ++ [.disconnect] →
      Turn env srv input srv'
  | starts {process : Process} :
      srv.Asks input → srv.process = none → env.uvSpawn srv.spawns = true →
      srv'.process = some process → process.child = .running →
      srv'.spawns = srv.spawns + 1 → srv.replies env input = [(.STARTED, [])] →
      Lasts srv srv' → Turn env srv input srv'
  | fails {process : Process} :
      srv.Asks input → srv.process = none → env.uvSpawn srv.spawns = false →
      srv'.process = some process → process.child = .unspawned →
      srv'.spawns = srv.spawns + 1 →
      srv.replies env input = [(.ENDOFFILE, exitText (-1)), (.STARTED, [])] →
      Turn env srv input srv'
  | goesOn {old new : Process} :
      ¬ srv.Asks input → srv.process = some old → srv'.process = some new →
      Ages old.child input new.child → srv'.spawns = srv.spawns →
      (srv.replies env input = [] ∨
        ∃ stdout bytes, srv.replies env input = [(streamType stdout, bytes)]) →
      Lasts srv srv' → Turn env srv input srv'
  | ends {old : Process} {exitStatus signal : Int} :
      input = .handleClosed → srv.process = some old → old.child = .closing exitStatus signal →
      signal ≠ SIGTERM → srv'.process = none → srv'.spawns = srv.spawns →
      srv.replies env input = [(.ENDOFFILE, exitText exitStatus)] →
      Winds srv srv' → Turn env srv input srv'

/-- What is known of a connection that is up. -/
structure Online (srv : S3TPServer) : Prop where
  known : Known 0 srv
  armed : srv.Armed
  up : srv.channel ≠ none

variable {env : Env} {srv srv' srv'' : S3TPServer} {type : MessageType} {msg : List UInt8}
  {ms ms' : List (MessageType × List UInt8)} {input : Input}

theorem sendReplies_up (up : srv.channel ≠ none) (counts : type ≠ .NONE) :
    srv.sendReplies msg type = [(type, msg)] := by
  rw [sendReplies, if_neg]
  rintro (nothing | down)
  · exact counts nothing.2
  · exact up down

theorem Lasts.of_log (h : srv'.log = srv.log) : Lasts srv srv' :=
  ⟨[], by rw [h, List.append_nil], by simp⟩

theorem Lasts.trans (h : Lasts srv srv') (h' : Lasts srv' srv'') : Lasts srv srv'' := by
  obtain ⟨ls, log, none⟩ := h
  obtain ⟨ls', log', none'⟩ := h'
  refine ⟨ls ++ ls', by rw [log', log, List.append_assoc], ?_⟩
  intro mem
  rcases List.mem_append.mp mem with first | second
  · exact none first
  · exact none' second

theorem Lasts.record {entry : LogEntry} (other : entry ≠ .disconnect) :
    Lasts srv (srv.record entry) := by
  refine ⟨[entry], rfl, ?_⟩
  rw [List.mem_singleton]
  exact fun same => other same.symm

private theorem lasts_flushed (busy : srv.process ≠ none) : Lasts srv srv.flushed := by
  refine ⟨_, rfl, ?_⟩
  rw [if_neg busy]
  simp

theorem Onward.of_eq (child : srv'.process.map Process.child = srv.process.map Process.child)
    (spawns : srv'.spawns = srv.spawns) (bytes : srv'.queuedBytes = srv.queuedBytes)
    (log : srv'.log = srv.log) : Onward [] srv srv' where
  child := child
  spawns := spawns
  bytes := by rw [bytes, encodeAll_nil, List.append_nil]
  lasts := .of_log log

theorem Onward.trans (h : Onward ms srv srv') (h' : Onward ms' srv' srv'') :
    Onward (ms ++ ms') srv srv'' where
  child := h'.child.trans h.child
  spawns := h'.spawns.trans h.spawns
  bytes := by rw [h'.bytes, h.bytes, encodeAll_append, List.append_assoc]
  lasts := h.lasts.trans h'.lasts

private theorem onward_stopOutput : Onward [] srv srv.stopOutput :=
  .of_eq (by rw [stopOutput, Option.map_map]; rfl) rfl rfl rfl

private theorem onward_startOutput : Onward [] srv srv.startOutput := by
  refine .of_eq ?_ rfl rfl rfl
  rw [startOutput, Option.map_map]
  apply Option.map_congr
  intro process _
  exact (Process.eq_of_muted process.muted_startOutput).1

private theorem onward_sendBuf (busy : srv.process ≠ none) (up : srv.channel ≠ none)
    (works : srv.outbuf ≠ [] → env.send srv.sends ≠ .failed) (h : srv.sendBuf env = some srv') :
    Onward [] srv srv' := by
  by_cases pending : srv.outbuf = []
  · obtain rfl := Option.some.inj ((sendBuf_idle pending).symm.trans h)
    exact .of_eq rfl rfl rfl rfl
  · cases answer : env.send srv.sends with
    | accepted =>
      obtain rfl := Option.some.inj ((sendBuf_accepted pending up answer).symm.trans h)
      refine ⟨rfl, rfl, ?_, lasts_flushed busy⟩
      rw [queuedBytes_flushed, encodeAll_nil, List.append_nil]
    | bufferFull =>
      obtain rfl := Option.some.inj ((sendBuf_full pending up answer).symm.trans h)
      have stopped : Onward [] srv.tried srv.tried.stopOutput := onward_stopOutput
      exact ⟨stopped.child, stopped.spawns, stopped.bytes, stopped.lasts⟩
    | failed => exact absurd answer (works pending)

private theorem onward_send
    (busy : srv.process ≠ none) (up : srv.channel ≠ none) (counts : type ≠ .NONE)
    (works : env.send srv.sends ≠ .failed) (h : srv.send env msg type = some srv') :
    Onward [(type, msg)] srv srv' := by
  have sent : Onward [] (srv.queued type msg) srv' :=
    onward_sendBuf busy up (fun _ => works) (sendBuf_of_send up counts h)
  refine ⟨sent.child, sent.spawns, ?_, sent.lasts⟩
  rw [sent.bytes, queuedBytes_queued, encodeAll_nil, List.append_nil, encodeAll_singleton]

private theorem sends_reconnect (h : srv.reconnect env = some srv') : srv'.sends = srv.sends := by
  rcases reconnect_inv h with ⟨_, rfl⟩ | ⟨_, _, rfl⟩ | ⟨_, _, _, rfl⟩ | ⟨_, _, _, rfl⟩
  · rfl
  · rfl
  · rfl
  · rfl

theorem sends_sendBuf (pending : srv.outbuf ≠ []) (up : srv.channel ≠ none)
    (h : srv.sendBuf env = some srv') : srv'.sends = srv.sends + 1 := by
  cases answer : env.send srv.sends with
  | accepted =>
    obtain rfl := Option.some.inj ((sendBuf_accepted pending up answer).symm.trans h)
    rfl
  | bufferFull =>
    obtain rfl := Option.some.inj ((sendBuf_full pending up answer).symm.trans h)
    rfl
  | failed =>
    rw [sendBuf_failed pending up answer] at h
    have closes : srv'.sends = (srv.tried.record .closed).dropped.sends := sends_reconnect h
    exact closes

private theorem sends_finish (up : srv.channel ≠ none) (h : srv.finish env = some srv') :
    srv.sends ≤ srv'.sends := by
  by_cases pending : srv.outbuf = []
  · obtain rfl := Option.some.inj ((finish_idle_up pending up).symm.trans h)
    exact le_rfl
  · rw [finish_pending pending] at h
    rw [sends_sendBuf pending up h]
    exact Nat.le_succ _

theorem onExit_works {exitCode : Int} (up : srv.channel ≠ none)
    (works : ∀ n, srv.sends ≤ n → n < srv'.sends → env.send n ≠ .failed)
    (h : srv.onExit env exitCode = some srv') :
    srv'.channel = srv.channel ∧ srv'.process = none ∧ srv'.spawns = srv.spawns ∧
      srv.sends < srv'.sends ∧
      srv'.queuedBytes = srv.queuedBytes ++ encode .ENDOFFILE (exitText exitCode) ∧
      Winds srv srv' := by
  have counts : MessageType.ENDOFFILE ≠ .NONE := by decide
  have queued : (srv.queued .ENDOFFILE (exitText exitCode)).queuedBytes = _ := queuedBytes_queued
  obtain ⟨srv₁, sends, ends⟩ := Option.bind_eq_some_iff.mp h
  obtain ⟨upAfter, used, _, _⟩ := send_leaves counts up sends
  have upForget : srv₁.forgetProcess.channel ≠ none := upAfter
  have later : srv₁.forgetProcess.sends ≤ srv'.sends := sends_finish upForget ends
  have before : srv.sends < srv'.sends := by
    have next : srv₁.forgetProcess.sends = srv.sends + 1 := used
    rw [next] at later
    exact later
  cases answer : env.send srv.sends with
  | accepted =>
    obtain rfl := Option.some.inj ((send_accepted up counts answer).symm.trans sends)
    set sent := ((srv.queued .ENDOFFILE (exitText exitCode)).flushed).forgetProcess
    obtain rfl := Option.some.inj ((finish_idle_up rfl upForget).symm.trans ends)
    refine ⟨rfl, rfl, rfl, before, ?_, Or.inl ⟨rfl, _, rfl, ?_⟩⟩
    · rw [queuedBytes_record rfl]
      exact queuedBytes_flushed.trans queued
    · intro busy
      have busy' : (srv.queued .ENDOFFILE (exitText exitCode)).process ≠ none := busy
      rw [if_neg busy']
      simp
  | bufferFull =>
    obtain rfl := Option.some.inj ((send_full up counts answer).symm.trans sends)
    set full := ((srv.queued .ENDOFFILE (exitText exitCode)).tried.stopOutput).forgetProcess
    have pending : full.outbuf ≠ [] := outbuf_queued_ne_nil
    have upFull : full.channel ≠ none := up
    have whole : full.queuedBytes = srv.queuedBytes ++ encode .ENDOFFILE (exitText exitCode) :=
      queued
    rw [finish_pending pending] at ends
    have last : srv'.sends = full.sends + 1 := sends_sendBuf pending upFull ends
    have answered : env.send full.sends ≠ .failed := by
      apply works
      · exact Nat.le_succ _
      · rw [last]
        exact Nat.lt_succ_self _
    cases second : env.send full.sends with
    | accepted =>
      obtain rfl := Option.some.inj ((sendBuf_accepted pending upFull second).symm.trans ends)
      refine ⟨rfl, rfl, rfl, before, queuedBytes_flushed.trans whole, Or.inl ⟨rfl, ?_⟩⟩
      refine ⟨[.sent full.outbuf], ?_, fun _ => by simp⟩
      rw [List.append_assoc]
      rfl
    | bufferFull =>
      obtain rfl := Option.some.inj ((sendBuf_full pending upFull second).symm.trans ends)
      exact ⟨rfl, rfl, rfl, before, whole, Or.inr ⟨pending, .of_log rfl⟩⟩
    | failed => exact absurd second answered
  | failed => exact absurd answer (works srv.sends le_rfl before)

private theorem onward_adopt {process : Process} (up : srv.channel ≠ none)
    (works : env.send srv.sends ≠ .failed) (h : srv.adopt env process = some srv') :
    Onward [(.STARTED, [])] { srv with process := some process } srv' := by
  obtain ⟨srv₁, sends, ends⟩ := Option.bind_eq_some_iff.mp h
  obtain rfl := Option.some.inj ends
  have busy : ({ srv with process := some process } : S3TPServer).process ≠ none :=
    Option.some_ne_none process
  have sent : Onward [(.STARTED, [])] { srv with process := some process } srv₁ :=
    onward_send busy up (by decide) works sends
  exact sent.trans onward_startOutput

private theorem sends_adopt {process : Process} (up : srv.channel ≠ none)
    (h : srv.adopt env process = some srv') : srv'.sends = srv.sends + 1 := by
  obtain ⟨srv₁, sends, ends⟩ := Option.bind_eq_some_iff.mp h
  obtain rfl := Option.some.inj ends
  have upThen : ({ srv with process := some process } : S3TPServer).channel ≠ none := up
  exact (send_leaves (by decide) upThen sends).2.1

theorem sends_adopt_le {process : Process} (h : srv.adopt env process = some srv') :
    srv.sends ≤ srv'.sends := by
  by_cases up : srv.channel ≠ none
  · rw [sends_adopt up h]
    exact Nat.le_succ _
  · obtain ⟨srv₁, sends, ends⟩ := Option.bind_eq_some_iff.mp h
    obtain rfl := Option.some.inj ends
    have down : ({ srv with process := some process } : S3TPServer).channel = none := not_not.mp up
    obtain rfl := Option.some.inj ((send_down down).symm.trans sends)
    exact le_rfl

theorem Onward.process {old : Process} (onward : Onward ms srv srv')
    (hp : srv.process = some old) :
    ∃ new, srv'.process = some new ∧ new.child = old.child := by
  have child := onward.child
  rw [hp] at child
  exact Option.map_eq_some_iff.mp child

private theorem lasts_headed {bytes : List UInt8} : Lasts srv (srv.headed bytes) :=
  ⟨[.received srv.channel bytes], rfl, by simp⟩

private theorem lasts_asked {command : List UInt8} : Lasts srv (srv.asked command) :=
  ⟨[.dispatched srv.channel (.command command)], rfl, by simp⟩

private theorem queuedBytes_asked {command : List UInt8} :
    (srv.asked command).queuedBytes = srv.queuedBytes := by
  have recorded : (srv.record (.dispatched srv.channel (.command command))).queuedBytes = _ :=
    queuedBytes_record rfl
  exact recorded

private theorem queuedBytes_headed {bytes : List UInt8} :
    (srv.headed bytes).queuedBytes = srv.queuedBytes := by
  have recorded : (srv.record (.received srv.channel bytes)).queuedBytes = _ :=
    queuedBytes_record rfl
  exact recorded

theorem startProcess_spawned {command : List UInt8} (up : srv.channel ≠ none)
    (works : ∀ n, srv.sends ≤ n → n < srv'.sends → env.send n ≠ .failed)
    (spawned : env.uvSpawn srv.spawns = true) (h : srv.startProcess env command = some srv') :
    srv.startProcessReplies env command = [(.STARTED, [])] ∧
      Onward [(.STARTED, [])]
        { srv.asked command with process := some ⟨command, .running, true, [], false⟩ } srv' := by
  cases startProcess_inv h with
  | fails fails _ _ =>
    rw [spawned] at fails
    cases fails
  | spawned _ adopts =>
    have upAsked : (srv.asked command).channel ≠ none := up
    have used : srv'.sends = (srv.asked command).sends + 1 := sends_adopt upAsked adopts
    have answered : env.send (srv.asked command).sends ≠ .failed := by
      apply works _ le_rfl
      rw [used]
      exact Nat.lt_succ_self _
    refine ⟨?_, onward_adopt upAsked answered adopts⟩
    rw [startProcessReplies, if_pos spawned]
    exact sendReplies_up upAsked (by decide)

/-- A command whose process cannot be spawned: its end is told before its start. -/
theorem startProcess_fails {command : List UInt8} (up : srv.channel ≠ none)
    (works : ∀ n, srv.sends ≤ n → n < srv'.sends → env.send n ≠ .failed)
    (fails : env.uvSpawn srv.spawns = false) (h : srv.startProcess env command = some srv') :
    srv.startProcessReplies env command = [(.ENDOFFILE, exitText (-1)), (.STARTED, [])] ∧
      (∃ process, srv'.process = some process ∧ process.child = .unspawned) ∧
      srv'.spawns = srv.spawns + 1 ∧
      srv'.queuedBytes = srv.queuedBytes ++
        encodeAll [(.ENDOFFILE, exitText (-1)), (.STARTED, [])] := by
  cases startProcess_inv h with
  | spawned spawned _ =>
    rw [fails] at spawned
    cases spawned
  | @fails srv₁ _ _ exits adopts =>
    have upAsked : (srv.asked command).channel ≠ none := up
    have worksExit : ∀ n, (srv.asked command).sends ≤ n → n < srv₁.sends →
        env.send n ≠ .failed := by
      intro n ge below
      exact works n ge (lt_of_lt_of_le below (sends_adopt_le adopts))
    obtain ⟨channel, _, spawns, before, bytes, _⟩ := onExit_works upAsked worksExit exits
    have upAfter : srv₁.channel ≠ none := by
      rw [channel]
      exact upAsked
    have used : srv'.sends = srv₁.sends + 1 := sends_adopt upAfter adopts
    have answered : env.send srv₁.sends ≠ .failed := by
      apply works _ (le_of_lt before)
      rw [used]
      exact Nat.lt_succ_self _
    have onward := onward_adopt upAfter answered adopts
    refine ⟨?_, onward.process rfl, onward.spawns.trans spawns, ?_⟩
    · have ended : (srv.asked command).sendReplies (exitText (-1)) .ENDOFFILE =
          [(.ENDOFFILE, exitText (-1))] := sendReplies_up upAsked (by decide)
      have started : srv₁.sendReplies [] .STARTED = [(.STARTED, [])] :=
        sendReplies_up upAfter (by decide)
      simp [startProcessReplies, fails, exits, ended, started]
    · have told : srv'.queuedBytes = srv₁.queuedBytes ++ encodeAll [(.STARTED, [])] := onward.bytes
      rw [told, bytes, queuedBytes_asked, List.append_assoc]
      rfl

theorem lost_reconnect {c : ℕ} {old : S3TPServer} (known : Known c old) (up : old.channel ≠ none)
    (h : srv.reconnect env = some srv') (down : srv.channel = none)
    (binds : srv.binds = old.binds) : srv'.channel ≠ old.channel := by
  rcases reconnect_inv h with ⟨here, _⟩ | ⟨_, _, rfl⟩ | ⟨_, _, _, rfl⟩ | ⟨_, _, _, rfl⟩
  · exact absurd down here
  · intro same
    have none : srv.channel = old.channel := same
    exact up (none.symm.trans down)
  · intro same
    have number : some srv.binds = old.channel := same
    have lt : srv.binds < old.binds := known.below srv.binds number.symm
    rw [binds] at lt
    exact lt_irrefl _ lt
  · exact fun same => up same.symm

theorem Turn.of_same (asks : ¬ srv.Asks input) (none : srv.replies env input = [])
    (other : input ≠ .handleClosed)
    (child : srv'.process.map Process.child = srv.process.map Process.child)
    (outbuf : srv'.outbuf = srv.outbuf) (spawns : srv'.spawns = srv.spawns)
    (lasts : Lasts srv srv') : Turn env srv input srv' := by
  cases hp : srv.process with
  | none =>
    rw [hp] at child
    exact .idles asks hp (Option.map_eq_none_iff.mp child) outbuf spawns none lasts
  | some old =>
    rw [hp] at child
    obtain ⟨new, hp', same⟩ := Option.map_eq_some_iff.mp child
    refine .goesOn asks hp hp' ?_ spawns (Or.inl none) lasts
    rw [same]
    exact .stays fun closed => absurd closed other

theorem asks_idle (asks : srv.Asks input) : srv.process = none := by
  cases input with
  | data bytes => exact asks.1
  | _ => exact asks.elim

theorem asks_busy {old : Process} (hp : srv.process = some old) : ¬ srv.Asks input := by
  intro asks
  have idle : srv.process = none := asks_idle asks
  rw [hp] at idle
  cases idle

theorem Onward.turn {old : Process} (onward : Onward ms srv srv') (hp : srv.process = some old)
    (other : input ≠ .handleClosed) (replies : srv.replies env input = ms)
    (shape : ms = [] ∨ ∃ stdout bytes, ms = [(streamType stdout, bytes)]) :
    Turn env srv input srv' ∧
      srv'.queuedBytes = srv.queuedBytes ++ encodeAll (srv.replies env input) := by
  obtain ⟨new, hp', child⟩ := onward.process hp
  rw [replies]
  refine ⟨.goesOn (asks_busy hp) hp hp' ?_ onward.spawns ?_ onward.lasts, onward.bytes⟩
  · rw [child]
    exact .stays fun closed => absurd closed other
  · rw [replies]
    exact shape

section Next

variable {c : ℕ} (known : Known c srv) (up : srv.channel ≠ none)

theorem replies_incomplete {bytes : List UInt8} (notYet : ¬ srv.Completes bytes) :
    srv.replies env (.data bytes) = [] :=
  if_neg fun whole => notYet whole.2

theorem replies_busy {process : Process} {bytes : List UInt8} (hp : srv.process = some process) :
    srv.replies env (.data bytes) = [] := by
  apply if_neg
  rw [hp]
  exact fun idle => Option.some_ne_none process idle.1

theorem replies_asks {bytes : List UInt8} (asks : srv.Asks (.data bytes)) :
    srv.replies env (.data bytes) =
      (srv.headed bytes).startProcessReplies env (srv.headed bytes).payload :=
  if_pos asks

include known up in
private theorem turn_data {bytes : List UInt8} (flows : Flows env srv (.data bytes) srv') :
    Turn env srv (.data bytes) srv' ∧
      srv'.queuedBytes = srv.queuedBytes ++ encodeAll (srv.replies env (.data bytes)) := by
  have h : srv.onDataReceived env bytes = some srv' := flows.called.2
  cases receive_inv h with
  | short _ notYet =>
    have none : srv.replies env (.data bytes) = [] := replies_incomplete notYet
    refine ⟨.of_same (fun asks => notYet asks.2) none (by simp) rfl rfl rfl ?_, ?_⟩
    · exact lasts_headed
    · rw [none, encodeAll_nil, List.append_nil]
      exact queuedBytes_headed
  | zero _ _ _ closes =>
    have reconnects : ((srv.headed bytes).record .closed).dropped.reconnect env = some srv' :=
      closes
    exact absurd flows.stays (lost_reconnect known up reconnects rfl rfl)
  | more _ _ notYet =>
    have none : srv.replies env (.data bytes) = [] := replies_incomplete notYet
    refine ⟨.of_same (fun asks => notYet asks.2) none (by simp) rfl rfl rfl lasts_headed, ?_⟩
    rw [none, encodeAll_nil, List.append_nil]
    exact queuedBytes_headed
  | @whole srv₁ whole dispatches =>
    cases dispatch_inv dispatches with
    | @input process running =>
      have hp : srv.process = some process := running
      have none : srv.replies env (.data bytes) = [] := replies_busy hp
      set dispatch := Dispatch.stdin (srv.typeRead env bytes) (srv.headed bytes).payload
      have recorded : ((srv.headed bytes).record (.dispatched srv.channel dispatch)).queuedBytes =
          (srv.headed bytes).queuedBytes := queuedBytes_record rfl
      refine ⟨.of_same (asks_busy hp) none (by simp) ?_ rfl rfl ?_, ?_⟩
      · rw [hp]
        exact congrArg some (process.child_passed _ _)
      · have added : Lasts (srv.headed bytes)
            ((srv.headed bytes).record (.dispatched srv.channel dispatch)) := .record (by simp)
        exact lasts_headed.trans added
      · rw [none, encodeAll_nil, List.append_nil]
        exact recorded.trans queuedBytes_headed
    | command idle starts =>
      have hp : srv.process = none := idle
      have upHeaded : (srv.headed bytes).channel ≠ none := up
      have replies : srv.replies env (.data bytes) = _ := replies_asks ⟨hp, whole⟩
      have works : ∀ n, (srv.headed bytes).sends ≤ n → n < srv₁.sends → env.send n ≠ .failed :=
        flows.works
      rw [replies]
      cases spawned : env.uvSpawn srv.spawns with
      | true =>
        obtain ⟨started, onward⟩ := startProcess_spawned upHeaded works spawned starts
        obtain ⟨new, hp', child⟩ := onward.process rfl
        have told : srv₁.queuedBytes = _ := onward.bytes
        have before : Lasts srv { (srv.headed bytes).asked (srv.headed bytes).payload with
            process := some ⟨(srv.headed bytes).payload, .running, true, [], false⟩ } :=
          lasts_headed.trans lasts_asked
        rw [started]
        refine ⟨.starts ⟨hp, whole⟩ hp spawned hp' child onward.spawns (replies.trans started)
          (before.trans onward.lasts), ?_⟩
        exact told.trans (congrArg (· ++ _) (queuedBytes_asked.trans queuedBytes_headed))
      | false =>
        obtain ⟨told, ⟨process, hp', child⟩, spawns, bytesTold⟩ :=
          startProcess_fails upHeaded works spawned starts
        rw [told]
        refine ⟨.fails ⟨hp, whole⟩ hp spawned hp' child spawns (replies.trans told), ?_⟩
        rw [queuedBytes_headed] at bytesTold
        exact bytesTold

include up in
private theorem turn_bufferEmpty (flows : Flows env srv .bufferEmpty srv') :
    Turn env srv .bufferEmpty srv' ∧
      srv'.queuedBytes = srv.queuedBytes ++ encodeAll (srv.replies env .bufferEmpty) := by
  have h : srv.startOutput.sendBuf env = some srv' := flows.called.2
  have upThen : srv.startOutput.channel ≠ none := up
  have works : srv.startOutput.outbuf ≠ [] → env.send srv.startOutput.sends ≠ .failed := by
    intro pending
    apply flows.works _ le_rfl
    rw [sends_sendBuf pending upThen h]
    exact Nat.lt_succ_self _
  cases hp : srv.process with
  | some old =>
    have busy : srv.startOutput.process ≠ none := by
      rw [startOutput, hp]
      exact Option.some_ne_none _
    have sent : Onward [] srv.startOutput srv' := onward_sendBuf busy upThen works h
    exact (onward_startOutput.trans sent).turn hp (by simp) rfl (Or.inl rfl)
  | none =>
    have idle : srv.startOutput.process = none := by
      rw [startOutput, hp]
      rfl
    by_cases pending : srv.startOutput.outbuf = []
    · obtain rfl := Option.some.inj ((sendBuf_idle pending).symm.trans h)
      exact ⟨.idles id hp idle rfl rfl rfl (.of_log rfl), (List.append_nil _).symm⟩
    · cases answer : env.send srv.startOutput.sends with
      | accepted =>
        obtain rfl := Option.some.inj ((sendBuf_accepted pending upThen answer).symm.trans h)
        refine ⟨.flushes id hp idle rfl rfl rfl pending ?_, ?_⟩
        · rw [flushed, if_pos idle, List.append_assoc]
          rfl
        · exact queuedBytes_flushed.trans (List.append_nil _).symm
      | bufferFull =>
        obtain rfl := Option.some.inj ((sendBuf_full pending upThen answer).symm.trans h)
        refine ⟨.idles id hp ?_ rfl rfl rfl (.of_log rfl), (List.append_nil _).symm⟩
        rw [stopOutput, tried, idle]
        rfl
      | failed => exact absurd answer (works pending)

include up in
private theorem turn_output {stdout : Bool} {bytes : List UInt8}
    (flows : Flows env srv (.output stdout bytes) srv') :
    Turn env srv (.output stdout bytes) srv' ∧
      srv'.queuedBytes = srv.queuedBytes ++ encodeAll (srv.replies env (.output stdout bytes)) := by
  have h : srv.readCallback env stdout bytes = some srv' := flows.called.2
  rw [readCallback] at h
  split at h
  · rename_i comes
    obtain ⟨old, hp, _⟩ := (Option.any_eq_true _ _).mp comes.1
    have busy : srv.process ≠ none := by
      rw [hp]
      exact Option.some_ne_none old
    have counts : streamType stdout ≠ .NONE := (streamType_ne stdout).1
    have sends : srv.send env bytes (streamType stdout) = some srv' := h
    have answered : env.send srv.sends ≠ .failed := by
      apply flows.works _ le_rfl
      rw [(send_leaves counts up sends).2.1]
      exact Nat.lt_succ_self _
    have onward : Onward [(streamType stdout, bytes)] srv srv' :=
      onward_send busy up counts answered sends
    have replies : srv.replies env (.output stdout bytes) = [(streamType stdout, bytes)] :=
      (if_pos comes).trans (sendReplies_up up counts)
    exact onward.turn hp (by simp) replies (Or.inr ⟨stdout, bytes, rfl⟩)
  · rename_i silent
    obtain rfl := Option.some.inj h
    have none : srv.replies env (.output stdout bytes) = [] := if_neg silent
    rw [none]
    exact ⟨.of_same id none (by simp) rfl rfl rfl (.of_log rfl), (List.append_nil _).symm⟩

include up in
private theorem turn_handleClosed (flows : Flows env srv .handleClosed srv') :
    Turn env srv .handleClosed srv' ∧
      srv'.queuedBytes = srv.queuedBytes ++ encodeAll (srv.replies env .handleClosed) := by
  have h : srv.closeCb env = some srv' := flows.called.2
  have silent (none : srv.reportedExit = none) : srv.replies env .handleClosed = [] := by
    rw [replies, none]
    rfl
  cases closeCb_inv h with
  | @reports process exitStatus signal _ hp child reported reports exits =>
    obtain ⟨_, idle, spawns, _, bytes, winds⟩ := onExit_works up flows.works exits
    have told : srv.replies env .handleClosed = [(.ENDOFFILE, exitText exitStatus)] := by
      rw [replies, reports]
      exact sendReplies_up up (by decide)
    rw [told, encodeAll_singleton]
    exact ⟨.ends rfl hp child reported idle spawns told winds, bytes⟩
  | same other none =>
    rw [silent none]
    refine ⟨?_, (List.append_nil _).symm⟩
    cases hp : srv.process with
    | none => exact .idles id hp hp rfl rfl (silent none) (.of_log rfl)
    | some old =>
      have open_ : Ages old.child .handleClosed old.child :=
        .stays fun _ exitStatus signal => other old exitStatus signal hp
      exact .goesOn id hp hp open_ rfl (Or.inl (silent none)) (.of_log rfl)
  | gone hp child none =>
    rw [silent none]
    refine ⟨.goesOn id hp rfl ?_ rfl (Or.inl (silent none)) (.of_log rfl),
      (List.append_nil _).symm⟩
    rw [child]
    exact .ceases

end Next

/-- What one callback does on a connection that stays up, and what it queues. -/
theorem Online.turn (online : Online srv) (flows : Flows env srv input srv') :
    Turn env srv input srv' ∧
      srv'.queuedBytes = srv.queuedBytes ++ encodeAll (srv.replies env input) := by
  have h : srv.next env input = some srv' := flows.called.2
  have up : srv.channel ≠ none := online.up
  cases input with
  | data bytes => exact turn_data online.known up flows
  | disconnected =>
    have reconnects : srv.dropped.reconnect env = some srv' := h
    exact absurd flows.stays (lost_reconnect online.known up reconnects rfl rfl)
  | bufferFull =>
    obtain rfl := Option.some.inj h
    have stopped : Onward [] srv srv.stopOutput := onward_stopOutput
    exact ⟨.of_same id rfl (by simp) stopped.child rfl rfl (.of_log rfl), (List.append_nil _).symm⟩
  | bufferEmpty => exact turn_bufferEmpty up flows
  | polled =>
    obtain rfl := Option.some.inj ((onS3tpEvent_eq env srv).symm.trans h)
    exact ⟨.of_same id rfl (by simp) rfl rfl rfl (.of_log rfl), (List.append_nil _).symm⟩
  | output stdout bytes => exact turn_output up flows
  | exited exitStatus signal =>
    obtain rfl := Option.some.inj h
    refine ⟨?_, (List.append_nil _).symm⟩
    cases hp : srv.process with
    | none =>
      refine .idles id hp ?_ rfl rfl rfl (.of_log rfl)
      rw [exitCb, hp]
      rfl
    | some old =>
      have hp' : (srv.exitCb exitStatus signal).process = some (old.exitCb exitStatus signal) := by
        rw [exitCb, hp]
        rfl
      refine .goesOn id hp hp' ?_ rfl (Or.inl rfl) (.of_log rfl)
      by_cases running : old.child = .running
      · rw [Process.exitCb, if_pos running, running]
        exact .exits
      · rw [Process.exitCb, if_neg running]
        exact .stays (by simp)
  | handleClosed => exact turn_handleClosed up flows
  | timeout =>
    have ticks : srv.onTimer env = some srv' := h
    rw [onTimer, online.armed.timer up] at ticks
    obtain rfl := Option.some.inj ticks
    exact ⟨.of_same id rfl (by simp) rfl rfl rfl (.of_log rfl), (List.append_nil _).symm⟩

theorem Online.next (online : Online srv) (flows : Flows env srv input srv') : Online srv' where
  known := known_next online.known flows.called.2
  armed := (keeps_next flows.called).armed online.armed
  up := by
    rw [flows.stays]
    exact online.up

/-- In every state of the server with a channel, the connection is known to be up. -/
theorem online_of_run {srv₀ : S3TPServer} {ts : List (Transition S3TPServer Input)}
    (starts : start env = some srv₀) (run : Run (Called env) srv₀ ts srv)
    (up : srv.channel ≠ none) : Online srv where
  known := run.invariant (known_reconnect known_new starts) fun _ _ _ known called =>
    known_next known called.2
  armed := armed_run starts run
  up := up

end S3TPServer

end Horst.S3tp
