import Horst.S3tp.Bounds
import Horst.S3tp.Remoteexec
import Horst.S3tp.Session
import Horst.S3tp.Stdin

/-!
The other direction of a session: what is typed at the client, and the process that reads it.
-/

set_option autoImplicit false
set_option relaxedAutoImplicit false

namespace Horst.S3tp

open Foundation Foundation.Framing

private theorem drop_encode (type : MessageType) (msg rest : List UInt8) :
    (encode type msg ++ rest).drop (headerSize + (UInt32.ofNat msg.length).toNat) = rest :=
  rest_frame (carried_length msg)

/-- What a message is taken for by a server with an uninitialised type at hand. -/
inductive Suits (env : Env) (m : MessageType × List UInt8) : Dispatch → Prop
  | command : Suits env m (.command (carried m.2))
  | input : Suits env m (.input (carried m.2))
  | closeInput : (m.1 = .ENDOFFILE ∨ ∃ n, env.garbage n = .ENDOFFILE) → Suits env m .closeInput

namespace S3TPServer

variable {env : Env} {srv srv' : S3TPServer} {input : Input} {bytes left : List UInt8}
  {ms : List (MessageType × List UInt8)}

private theorem left_sendBuf (up : srv.channel ≠ none)
    (works : srv.outbuf ≠ [] → env.send srv.sends ≠ .failed) (h : srv.sendBuf env = some srv') :
    Left srv srv' := by
  by_cases pending : srv.outbuf = []
  · obtain rfl := Option.some.inj ((sendBuf_idle pending).symm.trans h)
    exact ⟨rfl, rfl⟩
  · cases answer : env.send srv.sends with
    | accepted =>
      obtain rfl := Option.some.inj ((sendBuf_accepted pending up answer).symm.trans h)
      exact ⟨rfl, rfl⟩
    | bufferFull =>
      obtain rfl := Option.some.inj ((sendBuf_full pending up answer).symm.trans h)
      exact ⟨rfl, rfl⟩
    | failed => exact absurd answer (works pending)

private theorem left_onExit_works {exitCode : Int} (up : srv.channel ≠ none)
    (works : ∀ n, srv.sends ≤ n → n < srv'.sends → env.send n ≠ .failed)
    (h : srv.onExit env exitCode = some srv') : Left srv srv' := by
  have counts : MessageType.ENDOFFILE ≠ .NONE := by decide
  have before : srv.sends < srv'.sends := (onExit_works up works h).2.2.2.1
  obtain ⟨srv₁, sends, ends⟩ := Option.bind_eq_some_iff.mp h
  obtain ⟨upAfter, used, _, _⟩ := send_leaves counts up sends
  have upQueued : (srv.queued .ENDOFFILE (exitText exitCode)).channel ≠ none := up
  have first : Left (srv.queued .ENDOFFILE (exitText exitCode)) srv₁ :=
    left_sendBuf upQueued (fun _ => works _ le_rfl before) (sendBuf_of_send up counts sends)
  have upForget : srv₁.forgetProcess.channel ≠ none := upAfter
  have second : Left srv₁.forgetProcess srv' := by
    by_cases pending : srv₁.forgetProcess.outbuf = []
    · obtain rfl := Option.some.inj ((finish_idle_up pending upForget).symm.trans ends)
      exact ⟨rfl, rfl⟩
    · rw [finish_pending pending] at ends
      refine left_sendBuf upForget (fun _ => works _ ?_ ?_) ends
      · exact le_trans (Nat.le_succ _) (le_of_eq used.symm)
      · rw [sends_sendBuf pending upForget ends]
        exact Nat.lt_succ_self _
  exact ⟨second.1.trans first.1, second.2.trans first.2⟩

private theorem left_startProcess_works {command : List UInt8} (up : srv.channel ≠ none)
    (works : ∀ n, srv.sends ≤ n → n < srv'.sends → env.send n ≠ .failed)
    (h : srv.startProcess env command = some srv') : Left srv srv' := by
  cases startProcess_inv h with
  | spawned _ adopts =>
    have adopted : Left (srv.asked command) srv' := left_adopt adopts
    exact adopted
  | @fails srv₁ _ _ exits adopts =>
    have upAsked : (srv.asked command).channel ≠ none := up
    have exited : Left (srv.asked command) srv₁ := by
      refine left_onExit_works upAsked (fun n ge below => works n ge ?_) exits
      exact lt_of_lt_of_le below (sends_adopt_le adopts)
    have adopted : Left srv₁ srv' := left_adopt adopts
    exact ⟨adopted.1.trans exited.1, adopted.2.trans exited.2⟩

private theorem left_next (online : Online srv) (other : ∀ bytes, input ≠ .data bytes)
    (flows : Flows env srv input srv') : Left srv srv' := by
  have h : srv.next env input = some srv' := flows.called.2
  have up : srv.channel ≠ none := online.up
  cases input with
  | data bytes => exact absurd rfl (other bytes)
  | disconnected =>
    have reconnects : srv.dropped.reconnect env = some srv' := h
    exact absurd flows.stays (lost_reconnect online.known up reconnects rfl rfl)
  | bufferFull =>
    obtain rfl := Option.some.inj h
    exact ⟨rfl, rfl⟩
  | bufferEmpty =>
    have sends : srv.startOutput.sendBuf env = some srv' := h
    have upThen : srv.startOutput.channel ≠ none := up
    have sent : Left srv.startOutput srv' := by
      refine left_sendBuf upThen (fun pending => flows.works _ le_rfl ?_) sends
      rw [sends_sendBuf pending upThen sends]
      exact Nat.lt_succ_self _
    exact sent
  | polled =>
    obtain rfl := Option.some.inj ((onS3tpEvent_eq env srv).symm.trans h)
    exact ⟨rfl, rfl⟩
  | output stdout bytes =>
    have reads : srv.readCallback env stdout bytes = some srv' := h
    rw [readCallback] at reads
    split at reads
    · rename_i comes
      obtain ⟨process, hp, _⟩ := (Option.any_eq_true _ _).mp comes.1
      exact left_send (by rw [hp]; exact Option.some_ne_none process) reads
    · obtain rfl := Option.some.inj reads
      exact ⟨rfl, rfl⟩
  | exited exitStatus signal =>
    obtain rfl := Option.some.inj h
    exact ⟨rfl, rfl⟩
  | handleClosed =>
    cases closeCb_inv h with
    | reports _ _ _ _ exits => exact left_onExit_works up flows.works exits
    | same _ _ => exact ⟨rfl, rfl⟩
    | gone _ _ _ => exact ⟨rfl, rfl⟩
  | timeout =>
    have ticks : srv.onTimer env = some srv' := h
    rw [onTimer, online.armed.timer up] at ticks
    obtain rfl := Option.some.inj ticks
    exact ⟨rfl, rfl⟩

/-- Of the bytes of messages that were not dispatched, some are in the buffer and the others
still to come. If a length was read, it is that of the first message. -/
structure Pending (ms : List (MessageType × List UInt8)) (left : List UInt8) (srv : S3TPServer) :
    Prop where
  bytes : srv.buf ++ left = encodeAll ms
  read : srv.expected ≠ 0 → ∃ m rest, ms = m :: rest ∧ srv.expected = UInt32.ofNat m.2.length

theorem Pending.congr (pending : Pending ms left srv) (same : Left srv srv') :
    Pending ms left srv' where
  bytes := by
    rw [same.1]
    exact pending.bytes
  read := by
    rw [same.2]
    exact pending.read

theorem Pending.header (pending : Pending ms (bytes ++ left) srv)
    (long : headerSize ≤ (srv.buf ++ bytes).length) :
    ∃ m rest, ms = m :: rest ∧ srv.header bytes = UInt32.ofNat m.2.length := by
  by_cases unread : srv.expected = 0
  · cases ms with
    | nil =>
      have none : srv.buf ++ (bytes ++ left) = [] := pending.bytes
      rw [← List.append_assoc] at none
      rw [(List.append_eq_nil_iff.mp none).1] at long
      exact absurd long (by decide)
    | cons m rest =>
      have four : 4 ≤ (srv.buf ++ bytes).length := le_trans (by decide) long
      refine ⟨m, rest, rfl, ?_⟩
      rw [header, if_pos unread, ← ofBytes_append four left, List.append_assoc, pending.bytes,
        encodeAll_cons, ofBytes_encode]
  · obtain ⟨m, rest, same, expected⟩ := pending.read unread
    exact ⟨m, rest, same, by rw [S3TPServer.header, if_neg unread, expected]⟩

variable (env) in
theorem Pending.front (pending : Pending ms (bytes ++ left) srv) (completes : srv.Completes bytes) :
    ∃ m rest, ms = m :: rest ∧ UInt32.ofNat m.2.length ≠ 0 ∧
      (srv.headed bytes).payload = carried m.2 ∧
      (srv.buf ++ bytes).drop (headerSize + (srv.header bytes).toNat) ++ left = encodeAll rest ∧
      (srv.expected = 0 → srv.typeRead env bytes = m.1) := by
  obtain ⟨long, positive, whole⟩ := completes
  obtain ⟨m, rest, rfl, length⟩ := pending.header long
  have cut : srv.buf ++ bytes ++ left = encode m.1 m.2 ++ encodeAll rest := by
    rw [List.append_assoc, pending.bytes, encodeAll_cons]
  have enough : (srv.header bytes).toNat ≤ ((srv.buf ++ bytes).drop headerSize).length := by
    rw [List.length_drop]
    omega
  refine ⟨m, rest, rfl, length ▸ positive, ?_, ?_, fun unread => ?_⟩
  · calc (srv.headed bytes).payload
        = ((srv.buf ++ bytes).drop headerSize).take (srv.header bytes).toNat := rfl
      _ = ((srv.buf ++ bytes ++ left).drop headerSize).take (srv.header bytes).toNat := by
          rw [List.drop_append_of_le_length long, List.take_append_of_le_length enough]
      _ = carried m.2 := by rw [cut, length, payload_encode]
  · rw [← List.drop_append_of_le_length whole, cut, length, drop_encode]
  · have tag : (srv.buf ++ bytes).getD 4 0 = (srv.buf ++ bytes ++ left).getD 4 0 :=
      (List.getD_append _ _ _ _ long).symm
    rw [typeRead, if_pos unread, tag, cut]
    rfl

/-- What a call of `onDataReceived` does with messages that were not dispatched. -/
inductive Heard (env : Env) (left : List UInt8) (srv srv' : S3TPServer) :
    List (MessageType × List UInt8) → Prop
  | waits {ms : List (MessageType × List UInt8)} :
      Pending ms left srv' → srv'.process = srv.process → srv'.dispatched = srv.dispatched →
      srv'.spawns = srv.spawns → Heard env left srv srv' ms
  | passes {m : MessageType × List UInt8} {ms : List (MessageType × List UInt8)}
      {process : Process} {type : MessageType} :
      Pending ms left srv' → UInt32.ofNat m.2.length ≠ 0 →
      (type = .ENDOFFILE → m.1 = .ENDOFFILE ∨ ∃ n, env.garbage n = .ENDOFFILE) →
      srv.process = some process → srv'.process = some (process.passed type (carried m.2)) →
      srv'.dispatched = srv.dispatched ++ [Dispatch.stdin type (carried m.2)] →
      srv'.spawns = srv.spawns → Heard env left srv srv' (m :: ms)
  | starts {m : MessageType × List UInt8} {ms : List (MessageType × List UInt8)} {child : Child} :
      Pending ms left srv' → UInt32.ofNat m.2.length ≠ 0 → srv.process = none →
      srv'.process.map Process.muted = some ⟨carried m.2, child, true, [], false⟩ →
      srv'.dispatched = srv.dispatched ++ [.command (carried m.2)] →
      srv'.spawns = srv.spawns + 1 → Heard env left srv srv' (m :: ms)

private theorem spawns_startProcess {command : List UInt8} (up : srv.channel ≠ none)
    (works : ∀ n, srv.sends ≤ n → n < srv'.sends → env.send n ≠ .failed)
    (h : srv.startProcess env command = some srv') : srv'.spawns = srv.spawns + 1 := by
  cases spawned : env.uvSpawn srv.spawns with
  | true => exact (startProcess_spawned up works spawned h).2.spawns
  | false => exact (startProcess_fails up works spawned h).2.2.1

theorem Pending.heard (online : Online srv) (pending : Pending ms (bytes ++ left) srv)
    (flows : Flows env srv (.data bytes) srv') : Heard env left srv srv' ms := by
  have h : srv.onDataReceived env bytes = some srv' := flows.called.2
  have more : (srv.buf ++ bytes) ++ left = encodeAll ms := by
    rw [List.append_assoc]
    exact pending.bytes
  cases receive_inv h with
  | short _ _ => exact .waits ⟨more, pending.read⟩ rfl dispatched_arrived rfl
  | zero _ _ _ closes =>
    have reconnects : ((srv.headed bytes).record .closed).dropped.reconnect env = some srv' :=
      closes
    exact absurd flows.stays (lost_reconnect online.known online.up reconnects rfl rfl)
  | more long _ _ =>
    refine .waits ⟨more, fun _ => ?_⟩ rfl dispatched_arrived rfl
    exact pending.header long
  | @whole srv₁ completes dispatches =>
    obtain ⟨m, rest, rfl, positive, payload, rest_, type⟩ := pending.front env completes
    have later (left₁ : Left (srv.headed bytes) srv₁) : Pending rest left srv₁.eraseFrame := by
      refine ⟨?_, fun read => absurd rfl read⟩
      rw [eraseFrame, left₁.1, left₁.2]
      exact rest_
    cases dispatch_inv dispatches with
    | @input process running =>
      have hp : srv.process = some process := running
      have eof (same : srv.typeRead env bytes = .ENDOFFILE) :
          m.1 = .ENDOFFILE ∨ ∃ n, env.garbage n = .ENDOFFILE := by
        by_cases unread : srv.expected = 0
        · exact Or.inl ((type unread).symm.trans same)
        · rw [typeRead, if_neg unread] at same
          exact Or.inr ⟨_, same⟩
      refine .passes (later ⟨rfl, rfl⟩) positive eof hp ?_ ?_ rfl
      · rw [← payload]
        rfl
      · rw [← payload]
        have added : ((srv.headed bytes).record (.dispatched srv.channel (Dispatch.stdin
            (srv.typeRead env bytes) (srv.headed bytes).payload))).dispatched = _ :=
          dispatched_record
        exact added.trans (congrArg (· ++ _) dispatched_arrived)
    | command idle starts =>
      have upHeaded : (srv.headed bytes).channel ≠ none := online.up
      have works : ∀ n, (srv.headed bytes).sends ≤ n → n < srv₁.sends → env.send n ≠ .failed :=
        flows.works
      have process : srv₁.process.map Process.muted = _ := muted_startProcess starts
      have spawns : srv₁.spawns = (srv.headed bytes).spawns + 1 :=
        spawns_startProcess upHeaded works starts
      have left₁ : Left (srv.headed bytes) srv₁ := left_startProcess_works upHeaded works starts
      have started : srv₁.dispatched = _ := (quiet_startProcess starts).dispatched
      have asked : ((srv.headed bytes).asked (srv.headed bytes).payload).dispatched = _ :=
        dispatched_record
      have dispatched : srv₁.dispatched = srv.dispatched ++ [.command (carried m.2)] := by
        rw [started, asked, payload]
        exact congrArg (· ++ _) dispatched_arrived
      rw [payload] at process
      exact .starts (later left₁) positive idle process dispatched spawns

def Continues (srv srv' : S3TPServer) : Prop :=
  ∀ new, srv'.process = some new → ∃ old, srv.process = some old ∧ new.cmd = old.cmd ∧
    (new.child = .running → new.muted = old.muted)

private theorem continues_of_muted
    (same : srv'.process.map Process.muted = srv.process.map Process.muted) :
    Continues srv srv' := by
  intro new hp'
  rw [hp'] at same
  obtain ⟨old, hp, muted⟩ := Option.map_eq_some_iff.mp same.symm
  have cmd : old.muted.cmd = new.muted.cmd := congrArg Process.cmd muted
  exact ⟨old, hp, cmd.symm, fun _ => muted.symm⟩

private theorem continues_of_idle (idle : srv'.process = none) : Continues srv srv' := by
  intro new hp'
  rw [idle] at hp'
  cases hp'

private theorem continues_next (other : ∀ bytes, input ≠ .data bytes)
    (h : srv.next env input = some srv') : Continues srv srv' := by
  cases hp : srv.process with
  | none =>
    rcases idle_next hp h with ⟨idle, _⟩ | ⟨command, _, _, _, dispatched⟩
    · exact continues_of_idle idle
    · rw [(quiet_next other h).dispatched] at dispatched
      exact absurd (List.self_eq_append_right.mp dispatched) (List.cons_ne_nil _ _)
  | some old =>
    by_cases output : ∃ stdout bytes, input = .output stdout bytes
    · obtain ⟨stdout, bytes, rfl⟩ := output
      rcases readCallback_cases h with rfl | ⟨_, _, sends⟩
      · exact continues_of_muted rfl
      · exact continues_of_muted (muted_send (by rw [hp]; exact Option.some_ne_none old) sends)
    · have silent : ∀ stdout bytes, input ≠ .output stdout bytes :=
        fun stdout bytes same => output ⟨stdout, bytes, same⟩
      cases effect_next hp silent h with
      | holds held _ => exact continues_of_muted held.process
      | passes => exact absurd rfl (other _)
      | @exits exitStatus signal running =>
        intro new hp'
        rw [exitCb, hp, Option.map_some, Process.exitCb, if_pos running] at hp'
        obtain rfl := Option.some.inj hp'
        exact ⟨old, hp, rfl, fun runs => by cases runs⟩
      | ceases _ _ =>
        intro new hp'
        obtain rfl := Option.some.inj hp'
        exact ⟨old, hp, rfl, fun runs => by cases runs⟩
      | reports _ exits => exact continues_of_idle (process_onExit exits)
      | abandons _ idle _ _ => exact continues_of_idle idle

private theorem spawns_next (online : Online srv) (other : ∀ bytes, input ≠ .data bytes)
    (flows : Flows env srv input srv') : srv'.spawns = srv.spawns := by
  have silent : ¬ srv.Asks input := by
    cases input with
    | data bytes => exact absurd rfl (other bytes)
    | _ => exact id
  cases (online.turn flows).1 with
  | idles _ _ _ _ spawns => exact spawns
  | flushes _ _ _ _ spawns => exact spawns
  | starts asks => exact absurd asks silent
  | fails asks => exact absurd asks silent
  | goesOn _ _ _ _ spawns => exact spawns
  | ends _ _ _ _ _ spawns => exact spawns

end S3TPServer

def Dispatch.isCommand : Dispatch → Bool
  | .command _ => true
  | .input _ | .closeInput => false

def text (ms : List (MessageType × List UInt8)) : List UInt8 := ms.flatMap fun m => carried m.2

/-- A message, and what it was taken for. -/
abbrev Taking := (MessageType × List UInt8) × Dispatch

structure Fills (after : List Taking) (process : Process) (stdin : Pipe UInt8) : Prop where
  written : stdin.written <+: text (after.map Prod.fst)
  all : process.hasIn = true → stdin.written = text (after.map Prod.fst)
  closed : stdin.closed = !process.hasIn
  ends : process.hasIn = false → ∃ p ∈ after, p.2 = .closeInput

/-- The last command is that of the process, and what came after it is for its input. -/
def Serving (taken : List Taking) (process : Process) (stdin : Pipe UInt8) : Prop :=
  ∃ before m after, taken = before ++ (m, .command (carried m.2)) :: after ∧
    process.cmd = carried m.2 ∧ (∀ p ∈ after, p.2.isCommand = false) ∧
    (process.child = .running → Fills after process stdin)

/-- The first of the messages that were written are those that were dispatched, each once and in
their order; the bytes of the others are in the buffer or on their way. -/
structure Relayed (env : Env) (first : S3TPServer) (ms : List (MessageType × List UInt8))
    (left : List UInt8) (taken : List Taking) (w : Wired) : Prop where
  pending : ∃ rest, ms = taken.map Prod.fst ++ rest ∧ w.srv.Pending rest left
  dispatched : w.srv.dispatched = first.dispatched ++ taken.map Prod.snd
  suits : ∀ p ∈ taken, Suits env p.1 p.2
  positive : ∀ p ∈ taken, UInt32.ofNat p.1.2.length ≠ 0
  begins : ∀ p ∈ taken.head?, p.2.isCommand = true
  idle : taken = [] → w.srv.process = none
  spawns : w.srv.spawns = first.spawns + taken.countP fun p => p.2.isCommand
  serving : ∀ process, w.srv.process = some process → Serving taken process w.stdin

namespace Relayed

variable {env : Env} {capacity : ℕ} {first : S3TPServer} {ms : List (MessageType × List UInt8)}
  {left bytes : List UInt8} {taken : List Taking} {w w' : Wired} {srv' : S3TPServer}
  {old new : Process} {input : Input} {event : Event}

private theorem text_append (ms ms' : List (MessageType × List UInt8)) :
    text (ms ++ ms') = text ms ++ text ms' := List.flatMap_append

theorem opened {srv : S3TPServer} (fresh : srv.Fresh) :
    Relayed env srv [] [] [] (.opened srv) where
  pending := by
    refine ⟨[], rfl, ?_, fun read => absurd fresh.expected read⟩
    exact (List.append_nil _).trans fresh.buf
  dispatched := (List.append_nil _).symm
  suits _ mem := by cases mem
  positive _ mem := by cases mem
  begins _ mem := by cases mem
  idle _ := fresh.idle
  spawns := rfl
  serving process hp := by
    have none : srv.process = some process := hp
    rw [fresh.idle] at none
    cases none

private theorem typed (relayed : Relayed env first ms left taken w) (m : MessageType × List UInt8) :
    Relayed env first (ms ++ [m]) (left ++ encode m.1 m.2) taken w where
  pending := by
    obtain ⟨rest, rfl, pending⟩ := relayed.pending
    refine ⟨rest ++ [m], List.append_assoc _ _ _, ?_, fun read => ?_⟩
    · rw [← List.append_assoc, pending.bytes, encodeAll_append, encodeAll_singleton]
    · obtain ⟨m', rest', rfl, expected⟩ := pending.read read
      exact ⟨m', rest' ++ [m], rfl, expected⟩
  dispatched := relayed.dispatched
  suits := relayed.suits
  positive := relayed.positive
  begins := relayed.begins
  idle := relayed.idle
  spawns := relayed.spawns
  serving := relayed.serving

private theorem stdin_continues (hp : w.srv.process = some old) (hp' : srv'.process = some new)
    (muted : new.muted = old.muted) :
    (w.after capacity srv').stdin.written = w.stdin.written ∧
      (w.after capacity srv').stdin.closed = w.stdin.closed := by
  obtain ⟨_, hasIn, stdin⟩ := Process.eq_of_muted muted
  have same : (w.after capacity srv').stdin = w.stdin.write capacity [] := by
    rw [Wired.stdin_after hp hp', stdin, List.drop_length, hasIn]
    apply if_neg
    intro both
    rw [both.1] at both
    exact absurd both.2 (by decide)
  rw [same, Pipe.written_write_nil, Pipe.closed_write]
  exact ⟨rfl, rfl⟩

private theorem serving_congr (serving : Serving taken old w.stdin) {pipe : Pipe UInt8}
    (cmd : new.cmd = old.cmd)
    (same : new.child = .running → new.muted = old.muted ∧ pipe.written = w.stdin.written ∧
      pipe.closed = w.stdin.closed) : Serving taken new pipe := by
  obtain ⟨before, m, after, split, command, plain, fills⟩ := serving
  refine ⟨before, m, after, split, cmd.trans command, plain, fun running => ?_⟩
  obtain ⟨muted, written, closed⟩ := same running
  obtain ⟨child, hasIn, _⟩ := Process.eq_of_muted muted
  obtain ⟨typed, all, open_, ends⟩ := fills (child.symm.trans running)
  refine ⟨written ▸ typed, fun has => ?_, ?_, fun shut => ends (hasIn.symm.trans shut)⟩
  · exact written.trans (all (hasIn.symm.trans has))
  · rw [closed, open_, hasIn]

theorem quiet (relayed : Relayed env first ms left taken w) (online : S3TPServer.Online w.srv)
    (other : ∀ bytes, input ≠ .data bytes) (flows : S3TPServer.Flows env w.srv input srv') :
    Relayed env first ms left taken (w.after capacity srv') where
  pending := by
    obtain ⟨rest, split, pending⟩ := relayed.pending
    refine ⟨rest, split, ?_⟩
    rw [Wired.srv_after]
    exact pending.congr (S3TPServer.left_next online other flows)
  dispatched := by
    rw [Wired.srv_after, (S3TPServer.quiet_next other flows.called.2).dispatched,
      relayed.dispatched]
  suits := relayed.suits
  positive := relayed.positive
  begins := relayed.begins
  idle none := by
    rw [Wired.srv_after]
    cases hp' : srv'.process with
    | none => rfl
    | some new =>
      obtain ⟨old, hp, _⟩ := S3TPServer.continues_next other flows.called.2 new hp'
      rw [relayed.idle none] at hp
      cases hp
  spawns := by
    rw [Wired.srv_after, S3TPServer.spawns_next online other flows, relayed.spawns]
  serving new hp' := by
    rw [Wired.srv_after] at hp'
    obtain ⟨old, hp, cmd, muted⟩ := S3TPServer.continues_next other flows.called.2 new hp'
    refine serving_congr (relayed.serving old hp) cmd fun running => ?_
    exact ⟨muted running, stdin_continues hp hp' (muted running)⟩

theorem pipes (relayed : Relayed env first ms left taken w) (srv : w'.srv = w.srv)
    (written : w'.stdin.written = w.stdin.written) (closed : w'.stdin.closed = w.stdin.closed) :
    Relayed env first ms left taken w' where
  pending := by
    rw [srv]
    exact relayed.pending
  dispatched := by
    rw [srv]
    exact relayed.dispatched
  suits := relayed.suits
  positive := relayed.positive
  begins := relayed.begins
  idle := by
    rw [srv]
    exact relayed.idle
  spawns := by
    rw [srv]
    exact relayed.spawns
  serving process hp := by
    rw [srv] at hp
    exact serving_congr (relayed.serving process hp) rfl fun _ => ⟨rfl, written, closed⟩

section Passed

variable {after : List Taking} {m : MessageType × List UInt8} {type : MessageType}
  (fills : Fills after old w.stdin) (hp : w.srv.process = some old)
  (hp' : srv'.process = some (old.passed type (carried m.2)))

private theorem text_snoc (d : Dispatch) :
    text ((after ++ [(m, d)]).map Prod.fst) = text (after.map Prod.fst) ++ carried m.2 := by
  rw [List.map_append, text_append, List.map_singleton, text, text, List.flatMap_singleton]

include fills hp hp'

private theorem fills_ignored (shut : old.hasIn = false) :
    Fills (after ++ [(m, Dispatch.stdin type (carried m.2))]) (old.passed type (carried m.2))
      (w.after capacity srv').stdin := by
  have still : (old.passed type (carried m.2)).hasIn = false := by
    by_cases eof : type = .ENDOFFILE
    · exact old.hasIn_passed_eof eof
    · rw [old.hasIn_passed_more eof, shut]
  have closed : w.stdin.closed = true := by
    rw [fills.closed, shut]
    rfl
  have same : (w.after capacity srv').stdin = w.stdin := by
    rw [Wired.stdin_after hp hp', if_neg (by simp [shut]), Pipe.write_closed closed]
  rw [same]
  refine ⟨?_, fun has => ?_, ?_, fun _ => ?_⟩
  · rw [text_snoc]
    exact fills.written.trans (List.prefix_append _ _)
  · rw [still] at has
    cases has
  · rw [closed, still]
    rfl
  · obtain ⟨p, mem, closes⟩ := fills.ends shut
    exact ⟨p, List.mem_append_left _ mem, closes⟩

private theorem fills_ended (has : old.hasIn = true) (eof : type = .ENDOFFILE) :
    Fills (after ++ [(m, Dispatch.stdin type (carried m.2))]) (old.passed type (carried m.2))
      (w.after capacity srv').stdin := by
  have shut : (old.passed type (carried m.2)).hasIn = false := old.hasIn_passed_eof eof
  have closes : (w.after capacity srv').stdin = w.stdin.closeWriter := by
    rw [Wired.stdin_after hp hp', if_pos ⟨has, shut⟩]
  rw [closes]
  refine ⟨?_, fun open_ => ?_, ?_, fun _ => ?_⟩
  · rw [text_snoc]
    exact fills.written.trans (List.prefix_append _ _)
  · rw [shut] at open_
    cases open_
  · rw [shut]
    rfl
  · exact ⟨_, List.mem_append_right _ List.mem_cons_self, if_pos eof⟩

private theorem fills_more (has : old.hasIn = true) (more : type ≠ .ENDOFFILE) :
    Fills (after ++ [(m, Dispatch.stdin type (carried m.2))]) (old.passed type (carried m.2))
      (w.after capacity srv').stdin := by
  have still : (old.passed type (carried m.2)).hasIn = true := by
    rw [old.hasIn_passed_more more, has]
  have openPipe : w.stdin.closed = false := by
    rw [fills.closed, has]
    rfl
  have input : (old.passed type (carried m.2)).stdin = old.stdin ++ carried m.2 := by
    rw [Process.passed, if_neg more, Process.input, if_pos has]
  have writes : (w.after capacity srv').stdin = w.stdin.write capacity (carried m.2) := by
    rw [Wired.stdin_after hp hp', if_neg (by simp [still]), input, List.drop_left]
  have grown : (w.after capacity srv').stdin.written =
      text ((after ++ [(m, Dispatch.stdin type (carried m.2))]).map Prod.fst) := by
    rw [writes, Pipe.written_write openPipe, fills.all has, text_snoc]
  refine ⟨?_, fun _ => grown, ?_, fun shut => ?_⟩
  · exact ⟨[], by rw [grown, List.append_nil]⟩
  · rw [writes, Pipe.closed_write, openPipe, still]
    rfl
  · rw [still] at shut
    cases shut

end Passed

private theorem serving_passed {m : MessageType × List UInt8} {type : MessageType}
    (serving : Serving taken old w.stdin) (hp : w.srv.process = some old)
    (hp' : srv'.process = some (old.passed type (carried m.2))) :
    Serving (taken ++ [(m, Dispatch.stdin type (carried m.2))]) (old.passed type (carried m.2))
      (w.after capacity srv').stdin := by
  obtain ⟨before, m₀, after, rfl, command, plain, fills⟩ := serving
  refine ⟨before, m₀, after ++ [(m, Dispatch.stdin type (carried m.2))], ?_, ?_, ?_, ?_⟩
  · rw [List.append_assoc, List.cons_append]
  · rw [← command, Process.passed, Process.closeInput, Process.input]
    split
    · rfl
    · split
      · rfl
      · rfl
  · refine List.forall_mem_append.mpr ⟨plain, List.forall_mem_singleton.mpr ?_⟩
    rw [Dispatch.stdin]
    split
    · rfl
    · rfl
  · intro running
    have ran : Fills after old w.stdin := fills ((old.child_passed _ _).symm.trans running)
    cases has : old.hasIn with
    | false => exact fills_ignored ran hp hp' has
    | true =>
      by_cases eof : type = .ENDOFFILE
      · exact fills_ended ran hp hp' has eof
      · exact fills_more ran hp hp' has eof

theorem data (relayed : Relayed env first ms (bytes ++ left) taken w)
    (online : S3TPServer.Online w.srv) (flows : S3TPServer.Flows env w.srv (.data bytes) srv') :
    ∃ taken', Relayed env first ms left taken' (w.after capacity srv') := by
  obtain ⟨rest, split, pending⟩ := relayed.pending
  cases pending.heard online flows with
  | waits pending' process dispatched spawns =>
    refine ⟨taken, ⟨⟨rest, split, ?_⟩, ?_, relayed.suits, relayed.positive, relayed.begins, ?_, ?_,
      ?_⟩⟩
    · rw [Wired.srv_after]
      exact pending'
    · rw [Wired.srv_after, dispatched, relayed.dispatched]
    · intro none
      rw [Wired.srv_after, process]
      exact relayed.idle none
    · rw [Wired.srv_after, spawns, relayed.spawns]
    · intro new hp'
      rw [Wired.srv_after] at hp'
      have hp : w.srv.process = some new := process.symm.trans hp'
      exact serving_congr (relayed.serving new hp) rfl fun _ => ⟨rfl, stdin_continues hp hp' rfl⟩
  | @passes m rest process type pending' positive suits hp hp' dispatched spawns =>
    refine ⟨taken ++ [(m, Dispatch.stdin type (carried m.2))],
      ⟨⟨rest, ?_, ?_⟩, ?_, ?_, ?_, ?_, ?_, ?_, ?_⟩⟩
    · rw [split, List.map_append, List.append_assoc]
      rfl
    · rw [Wired.srv_after]
      exact pending'
    · rw [Wired.srv_after, dispatched, relayed.dispatched, List.map_append, List.append_assoc]
      rfl
    · refine List.forall_mem_append.mpr ⟨relayed.suits, List.forall_mem_singleton.mpr ?_⟩
      rw [Dispatch.stdin]
      split
      · rename_i eof
        exact .closeInput (suits eof)
      · exact .input
    · exact List.forall_mem_append.mpr ⟨relayed.positive, List.forall_mem_singleton.mpr positive⟩
    · intro p mem
      cases taken with
      | nil =>
        rw [relayed.idle rfl] at hp
        cases hp
      | cons p' taken => exact relayed.begins p mem
    · intro none
      cases (List.append_eq_nil_iff.mp none).2
    · have plain : (Dispatch.stdin type (carried m.2)).isCommand = false := by
        rw [Dispatch.stdin]
        split
        · rfl
        · rfl
      rw [Wired.srv_after, spawns, relayed.spawns, List.countP_append, List.countP_singleton, plain]
      rfl
    · intro new hpNew
      rw [Wired.srv_after] at hpNew
      obtain rfl := Option.some.inj (hp'.symm.trans hpNew)
      exact serving_passed (relayed.serving process hp) hp hp'
  | @starts m rest child pending' positive idle process dispatched spawns =>
    obtain ⟨new, hp', muted⟩ := Option.map_eq_some_iff.mp process
    have busy : srv'.process ≠ none := by
      rw [hp']
      exact Option.some_ne_none new
    refine ⟨taken ++ [(m, .command (carried m.2))], ⟨⟨rest, ?_, ?_⟩, ?_, ?_, ?_, ?_, ?_, ?_, ?_⟩⟩
    · rw [split, List.map_append, List.append_assoc]
      rfl
    · rw [Wired.srv_after]
      exact pending'
    · rw [Wired.srv_after, dispatched, relayed.dispatched, List.map_append, List.append_assoc]
      rfl
    · exact List.forall_mem_append.mpr ⟨relayed.suits, List.forall_mem_singleton.mpr .command⟩
    · exact List.forall_mem_append.mpr ⟨relayed.positive, List.forall_mem_singleton.mpr positive⟩
    · intro p mem
      cases taken with
      | nil =>
        obtain rfl := Option.some.inj mem
        rfl
      | cons p' taken => exact relayed.begins p mem
    · intro none
      cases (List.append_eq_nil_iff.mp none).2
    · rw [Wired.srv_after, spawns, relayed.spawns, List.countP_append, List.countP_singleton]
      rfl
    · intro new' hpNew
      rw [Wired.srv_after] at hpNew
      obtain rfl := Option.some.inj (hp'.symm.trans hpNew)
      have cmd : new.muted.cmd = carried m.2 := by rw [muted]
      have hasIn : new.muted.hasIn = true := by rw [muted]
      replace hasIn : new.hasIn = true := hasIn
      refine ⟨taken, m, [], rfl, cmd, fun p mem => (by cases mem), fun _ => ?_⟩
      rw [Wired.after_start idle busy]
      refine ⟨List.nil_prefix, fun _ => rfl, ?_, fun shut => ?_⟩
      · rw [hasIn]
        rfl
      · rw [hasIn] at shut
        cases shut

theorem served (relayed : Relayed env first ms left taken w) (online : S3TPServer.Online w.srv)
    (other : ∀ bytes, event ≠ .callback (.data bytes))
    (serves : Session.Serves env capacity w event w') : Relayed env first ms left taken w' := by
  obtain ⟨happens, flows, _⟩ := serves
  cases Wired.moves happens with
  | @callback input srv' _ _ =>
    have called : S3TPServer.Flows env w.srv input srv' := by
      have flows' := flows input rfl
      rwa [Wired.srv_after] at flows'
    exact relayed.quiet online (fun bytes same => other bytes (congrArg Event.callback same)) called
  | wrote => exact relayed.pipes rfl rfl rfl
  | @arrived stdout size srv' _ _ _ _ =>
    have called : S3TPServer.Flows env w.srv
        (.output stdout ((w.output stdout).content.take size)) srv' := by
      have flows' := flows _ rfl
      rwa [Wired.srv_after] at flows'
    have read : Relayed env first ms left taken
        (w.setOutput stdout ((w.output stdout).take size)) := relayed.pipes rfl rfl rfl
    exact read.quiet online (fun bytes same => by cases same) called
  | flushed => exact relayed.pipes rfl rfl rfl
  | consumed => exact relayed.pipes rfl rfl rfl

end Relayed

/-- A session with the other direction of its connection: how many messages the client has
written, and what the channel has taken of them and not brought yet. -/
structure Console where
  session : Session
  sent : ℕ
  uplink : List UInt8

inductive Occurrence
  | typed
  | received (count : ℕ)
  | happened (incident : Incident)
  deriving DecidableEq, Repr

def Incident.isData : Incident → Bool
  | .served (.callback (.data _)) => true
  | _ => false

namespace Console

open Remoteexec

def opened (srv : S3TPServer) (memory : MessageType) : Console := ⟨.opened srv memory, 0, []⟩

def srv (k : Console) : S3TPServer := k.session.wired.srv

inductive Step (env : Env) (capacity : ℕ) (size : SizeT) (ms : List (MessageType × List UInt8))
    (k : Console) : Occurrence → Console → Prop
  | typed {m : MessageType × List UInt8} :
      ms[k.sent]? = some m →
      Step env capacity size ms k .typed
        { k with sent := k.sent + 1, uplink := k.uplink ++ writeData m }
  | received {count : ℕ} {session' : Session} :
      Session.Step env capacity size k.session
        (.served (.callback (.data (k.uplink.take count)))) session' →
      Step env capacity size ms k (.received count)
        { k with session := session', uplink := k.uplink.drop count }
  | happened {incident : Incident} {session' : Session} :
      incident.isData = false → Session.Step env capacity size k.session incident session' →
      Step env capacity size ms k (.happened incident) { k with session := session' }

variable {env : Env} {capacity : ℕ} {size : SizeT} {ms : List (MessageType × List UInt8)}
  {srv₀ : S3TPServer} {memory : MessageType} {ts : List (Transition Console Occurrence)}
  {k : Console}

private theorem run_relayed (online : S3TPServer.Online srv₀) (fresh : srv₀.Fresh)
    (run : Run (Step env capacity size ms) (opened srv₀ memory) ts k) :
    S3TPServer.Online k.srv ∧
      ∃ taken, Relayed env srv₀ (ms.take k.sent) k.uplink taken k.session.wired := by
  induction run with
  | nil => exact ⟨online, [], .opened fresh⟩
  | @snoc ts k k' occurrence _ step ih =>
    obtain ⟨onlineNow, taken, relayed⟩ := ih
    cases step with
    | @typed m next =>
      refine ⟨onlineNow, taken, ?_⟩
      have more : ms.take (k.sent + 1) = ms.take k.sent ++ [m] := by
        rw [List.take_add_one, next]
        rfl
      rw [more]
      exact relayed.typed m
    | @received count session' step =>
      cases step with
      | @served _ w' serves =>
        refine ⟨(serves.online onlineNow).1, ?_⟩
        obtain ⟨happens, flows, _⟩ := serves
        cases Wired.moves happens with
        | @callback _ srv' _ _ =>
          have called : S3TPServer.Flows env k.session.wired.srv
              (.data (k.uplink.take count)) srv' := by
            have flows' := flows _ rfl
            rwa [Wired.srv_after] at flows'
          have cut : k.uplink = k.uplink.take count ++ k.uplink.drop count :=
            (List.take_append_drop _ _).symm
          rw [cut] at relayed
          exact relayed.data onlineNow called
    | @happened incident session' other step =>
      cases step with
      | @served event w' serves =>
        refine ⟨(serves.online onlineNow).1, taken, relayed.served onlineNow ?_ serves⟩
        rintro bytes rfl
        cases other
      | delivered _ => exact ⟨onlineNow, taken, relayed⟩

def typed (reads : List Read) : List UInt8 :=
  ((reads.map Read.bytes).takeWhile (· ≠ [])).flatten

/-- What becomes of the messages of `main`. Each process that runs was started for one of them and
reads the following ones; the first process gets what was typed after the command line. -/
structure Reaches (env : Env) (args : List (List UInt8)) (reads : List Read) (srv₀ : S3TPServer)
    (k : Console) : Prop where
  order : ∃ taken : List Taking, taken.map Prod.fst <+: (main args reads).take k.sent ∧
    k.srv.dispatched = srv₀.dispatched ++ taken.map Prod.snd ∧
    (∀ p ∈ taken, Suits env p.1 p.2) ∧
    (k.uplink = [] → k.srv.buf = [] → taken.map Prod.fst = (main args reads).take k.sent)
  process : ∀ process, k.srv.process = some process → process.child = .running →
    ∃ before m after, (main args reads).take k.sent = before ++ m :: after ∧
      process.cmd = carried m.2 ∧ k.session.wired.stdin.read <+: text after ∧
      (process.hasIn = true → k.uplink = [] → k.srv.buf = [] →
        k.session.wired.stdin.written = text after) ∧
      (k.srv.spawns ≤ srv₀.spawns + 1 → before = [])
  first : k.srv.spawns ≤ srv₀.spawns + 1 → ∀ process, k.srv.process = some process →
    process.child = .running → process.cmd = carried (commandLine args ++ [10]) ∧
      k.session.wired.stdin.read <+: typed reads
  goesOn : (∀ n, env.garbage n ≠ .ENDOFFILE) → ∀ process, k.srv.process = some process →
    process.child = .running → process.hasIn = true

private theorem text_stdinLoop (reads : List Read) : text (stdinLoop reads) = typed reads := by
  induction reads with
  | nil => rfl
  | cons r reads ih =>
    have whole : carried r.bytes = r.bytes := carried_of_fits r.fits
    by_cases ended : r.bytes = []
    · have stops : ¬ decide (r.bytes ≠ []) = true := fun more => of_decide_eq_true more ended
      rw [stdinLoop, if_pos ended, typed, List.map_cons, List.takeWhile_cons, if_neg stops]
      rfl
    · rw [stdinLoop, if_neg ended, typed, List.map_cons, List.takeWhile_cons,
        if_pos (decide_eq_true ended), List.flatten_cons, text, List.flatMap_cons, whole]
      exact congrArg (r.bytes ++ ·) ih

private theorem empty_of_eof {args : List (List UInt8)} {reads : List Read}
    {m : MessageType × List UInt8} (mem : m ∈ main args reads) (eof : m.1 = .ENDOFFILE) :
    m.2 = [] := by
  rcases List.mem_cons.mp mem with rfl | later
  · cases eof
  · clear mem
    induction reads with
    | nil => cases later
    | cons r reads ih =>
      rw [stdinLoop] at later
      split at later
      · obtain rfl := List.mem_singleton.mp later
        rfl
      · rcases List.mem_cons.mp later with rfl | later
        · cases eof
        · exact ih later

private theorem nil_of_encodeAll {ms : List (MessageType × List UInt8)} (none : encodeAll ms = []) :
    ms = [] := by
  cases ms with
  | nil => rfl
  | cons m ms =>
    rw [encodeAll_cons] at none
    exact absurd (List.append_eq_nil_iff.mp none).1 (encode_ne_nil _ _)

private theorem before_nil {before after : List Taking} {m : MessageType × List UInt8}
    (begins : ∀ p ∈ (before ++ (m, Dispatch.command (carried m.2)) :: after).head?,
      p.2.isCommand = true)
    (once : (before ++ (m, Dispatch.command (carried m.2)) :: after).countP
      (fun p => p.2.isCommand) ≤ 1) : before = [] := by
  cases before with
  | nil => rfl
  | cons p before =>
    have first : p.2.isCommand = true := begins p rfl
    have second : (Dispatch.command (carried m.2)).isCommand = true := rfl
    simp only [List.cons_append, List.countP_cons, List.countP_append, first, second,
      if_true] at once
    omega

private theorem reaches_of_relayed
    {args : List (List UInt8)} {reads : List Read} {taken : List Taking}
    (relayed : Relayed env srv₀ ((main args reads).take k.sent) k.uplink taken k.session.wired) :
    Reaches env args reads srv₀ k := by
  obtain ⟨rest, split, pending⟩ := relayed.pending
  have drained (uplink : k.uplink = []) (buf : k.srv.buf = []) : rest = [] := by
    have bytes : k.srv.buf ++ k.uplink = encodeAll rest := pending.bytes
    rw [uplink, buf] at bytes
    exact nil_of_encodeAll bytes.symm
  have process : ∀ process, k.srv.process = some process → process.child = .running →
      ∃ before m after, (main args reads).take k.sent = before ++ m :: after ∧
        process.cmd = carried m.2 ∧ k.session.wired.stdin.read <+: text after ∧
        (process.hasIn = true → k.uplink = [] → k.srv.buf = [] →
          k.session.wired.stdin.written = text after) ∧
        (k.srv.spawns ≤ srv₀.spawns + 1 → before = []) := by
    intro process hp running
    obtain ⟨before, m, after, rfl, command, _, fills⟩ := relayed.serving process hp
    obtain ⟨written, all, _, _⟩ := fills running
    refine ⟨before.map Prod.fst, m, after.map Prod.fst ++ rest, ?_, command, ?_, ?_, ?_⟩
    · rw [split, List.map_append, List.map_cons, List.append_assoc, List.cons_append]
    · have read : k.session.wired.stdin.read <+: k.session.wired.stdin.written := by
        rw [← Pipe.conserved, List.append_assoc, List.append_assoc]
        exact List.prefix_append _ _
      rw [Relayed.text_append]
      exact (read.trans written).trans (List.prefix_append _ _)
    · intro has uplink buf
      rw [drained uplink buf, List.append_nil]
      exact all has
    · intro once
      have spawns : k.srv.spawns = _ := relayed.spawns
      rw [before_nil relayed.begins (by omega)]
      rfl
  refine ⟨⟨taken, ?_, relayed.dispatched, relayed.suits, ?_⟩, process, ?_, ?_⟩
  · rw [split]
    exact List.prefix_append _ _
  · intro uplink buf
    rw [split, drained uplink buf, List.append_nil]
  · intro once process' hp running
    obtain ⟨before, m, after, cut, command, read, _, only⟩ := process process' hp running
    rw [only once, List.nil_append] at cut
    have begins : m :: after <+: main args reads := by
      rw [← cut]
      exact List.take_prefix _ _
    obtain ⟨rfl, typedThen⟩ := List.cons_prefix_cons.mp begins
    refine ⟨command, read.trans ?_⟩
    obtain ⟨later, whole⟩ := typedThen
    rw [← text_stdinLoop, ← whole, Relayed.text_append]
    exact List.prefix_append _ _
  · intro known process' hp running
    by_contra ended
    obtain ⟨before, m, after, rfl, _, _, fills⟩ := relayed.serving process' hp
    obtain ⟨p, mem, closes⟩ := (fills running).ends (eq_false_of_ne_true ended)
    have listed : p ∈ before ++ (m, Dispatch.command (carried m.2)) :: after :=
      List.mem_append_right _ (List.mem_cons_of_mem _ mem)
    have suits := relayed.suits p listed
    rw [closes] at suits
    cases suits with
    | closeInput reason =>
      rcases reason with eof | ⟨n, garbage⟩
      · have sent : p.1 ∈ main args reads := by
          apply (List.take_prefix k.sent (main args reads)).subset
          rw [split]
          exact List.mem_append_left _ (List.mem_map_of_mem listed)
        apply relayed.positive p listed
        rw [empty_of_eof sent eof]
        rfl
      · exact known n garbage

/-- What becomes of what is typed at the client, however the callbacks of the server, the reads
and writes of the process and the pieces in which the bytes arrive follow upon each other: the
messages of `main` are dispatched each at most once and in their order, and all once nothing is
left in the buffer or on its way. The first process is the one of the command line, and what it
reads is what was typed, from the beginning and without a gap; the end of the input is never
brought to it, but by an uninitialised type. -/
theorem typed_text_reaches (env : Env) (capacity : ℕ) (size : SizeT) (memory : MessageType)
    (args : List (List UInt8)) (reads : List Read) {s₀ srv₀ : S3TPServer}
    {ts₀ : List (Transition S3TPServer Input)} {ts : List (Transition Console Occurrence)}
    {k : Console} (starts : S3TPServer.start env = some s₀)
    (before : Run (S3TPServer.Called env) s₀ ts₀ srv₀) (fresh : srv₀.Fresh)
    (run : Run (Step env capacity size (main args reads)) (opened srv₀ memory) ts k) :
    Reaches env args reads srv₀ k := by
  have online : S3TPServer.Online srv₀ := S3TPServer.online_of_run starts before fresh.up
  obtain ⟨_, taken, relayed⟩ := run_relayed online fresh run
  exact reaches_of_relayed relayed

def next (env : Env) (capacity : ℕ) (size : SizeT) (fuel : ℕ)
    (ms : List (MessageType × List UInt8)) (k : Console) : Occurrence → Option Console
  | .typed =>
      ms[k.sent]?.map fun m => { k with sent := k.sent + 1, uplink := k.uplink ++ writeData m }
  | .received count =>
      (k.session.next env capacity size fuel
        (.served (.callback (.data (k.uplink.take count))))).map fun session' =>
          { k with session := session', uplink := k.uplink.drop count }
  | .happened incident =>
      if incident.isData = true then none
      else
        (k.session.next env capacity size fuel incident).map fun session' =>
          { k with session := session' }

theorem step_of_next (works : ∀ n, env.send n ≠ .failed) (fuel : ℕ) (k : Console)
    (occurrence : Occurrence) (k' : Console)
    (h : k.next env capacity size fuel ms occurrence = some k') :
    Step env capacity size ms k occurrence k' := by
  cases occurrence with
  | typed =>
    obtain ⟨m, next, rfl⟩ := Option.map_eq_some_iff.mp h
    exact .typed next
  | received count =>
    obtain ⟨session', goes, rfl⟩ := Option.map_eq_some_iff.mp h
    exact .received (Session.step_of_next works fuel _ _ _ goes)
  | happened incident =>
    rw [next] at h
    split at h
    · cases h
    · rename_i other
      obtain ⟨session', goes, rfl⟩ := Option.map_eq_some_iff.mp h
      exact .happened (eq_false_of_ne_true other) (Session.step_of_next works fuel _ _ _ goes)

def word : Read := ⟨[104, 105, 10], by decide⟩

/-- `remoteexec cat` and a word, of which the process has read two bytes. -/
def catWord : List Occurrence :=
  [.typed, .typed, .received 7, .received 100, .received 0, .happened (.served (.consumed 2))]

theorem typed_text_reaches_cat :
    ∃ ts k, Run (Step Env.fine 65536 .bits32 (main [[99, 97, 116]] [word]))
        (opened S3TPServer.new.connected .NONE) ts k ∧
      ts.map Transition.label = catWord ∧ k.session.wired.stdin.read = [104, 105] ∧
      Reaches Env.fine [[99, 97, 116]] [word] S3TPServer.new.connected k := by
  have works (n : ℕ) : Env.fine.send n ≠ .failed := SendResult.noConfusion
  have sound (k : Console) (occurrence : Occurrence) (k' : Console)
      (h : k.next Env.fine 65536 .bits32 9 (main [[99, 97, 116]] [word]) occurrence = some k') :
      Step Env.fine 65536 .bits32 (main [[99, 97, 116]] [word]) k occurrence k' :=
    step_of_next works 9 k occurrence k' h
  obtain ⟨ts, k, run, labels, test⟩ :=
    exists_run_to sound (opened S3TPServer.new.connected .NONE) catWord
      (fun k => decide (k.session.wired.stdin.read = [104, 105])) (by decide +kernel)
  have fresh : S3TPServer.new.connected.Fresh := ⟨Option.some_ne_none _, rfl, rfl, rfl⟩
  exact ⟨ts, k, run, labels, of_decide_eq_true test,
    typed_text_reaches _ _ _ _ _ _ S3TPServer.start_fine .nil fresh run⟩

end Console

end Horst.S3tp
