import Horst.S3tp.Client
import Horst.S3tp.Delivery
import Horst.S3tp.Replies
import Mathlib.Algebra.Group.Int.Defs

/-!
A session: the server with the pipes of its process, the client `remoteexec`, and between them
a channel that brings the bytes it has taken in their order, in pieces of any size.
-/

set_option autoImplicit false
set_option relaxedAutoImplicit false

namespace Horst.S3tp

open Foundation Foundation.Framing

/-- Both ends of a connection; `wire` is what the channel has taken and not brought yet. -/
structure Session where
  wired : Wired
  wire : List UInt8
  client : RemoteexecCallback

inductive Incident
  | served (event : Event)
  | delivered (count : ℕ)
  deriving DecidableEq, Repr

def Event.input? (w : Wired) : Event → Option Input
  | .callback input => some input
  | .arrived stdout size => some (.output stdout ((w.output stdout).content.take size))
  | .wrote _ _ | .flushed | .consumed _ => none

/-- What the channels have taken in between. -/
def S3TPServer.takenBetween (srv srv' : S3TPServer) : List UInt8 :=
  srv'.sentBytes.drop srv.sentBytes.length

namespace Session

private theorem handleAll_le {size : SizeT} {fuel fuel' : ℕ} {client : RemoteexecCallback}
    {result : Except String RemoteexecCallback} (le : fuel ≤ fuel')
    (h : client.handleAll size fuel = some result) : client.handleAll size fuel' = some result := by
  induction fuel generalizing client fuel' with
  | zero => cases h
  | succ fuel ih =>
    obtain ⟨fuel', rfl⟩ := Nat.exists_eq_add_one_of_ne_zero (Nat.ne_zero_of_lt le)
    rw [RemoteexecCallback.handleAll] at h ⊢
    cases call : client.handleBuffer size with
    | error text =>
      rw [call] at h
      exact h
    | ok answer =>
      rw [call] at h
      obtain ⟨more, client'⟩ := answer
      cases more with
      | false => exact h
      | true => exact ih (Nat.le_of_succ_le_succ le) h

def opened (srv : S3TPServer) (memory : MessageType) : Session :=
  ⟨.opened srv, [], .new memory⟩

/-- `exit_status` of libuv has 64 bits. -/
def Fits (exitStatus : Int) : Prop := -2 ^ 63 ≤ exitStatus ∧ exitStatus < 2 ^ 63

instance (exitStatus : Int) : Decidable (Fits exitStatus) :=
  inferInstanceAs (Decidable (_ ∧ _))

def exitOf (w : Wired) : Event → List Int
  | .callback (.exited exitStatus _) => if w.alive = true then [exitStatus] else []
  | _ => []

structure Serves (env : Env) (capacity : ℕ) (w : Wired) (event : Event) (w' : Wired) : Prop where
  happens : Wired.Step env capacity w event w'
  flows : ∀ input, event.input? w = some input → S3TPServer.Flows env w.srv input w'.srv
  fits : ∀ exitStatus ∈ exitOf w event, Fits exitStatus

/-- The callback of the client comes to its end without an exception. -/
def Takes (size : SizeT) (bytes : List UInt8) (client client' : RemoteexecCallback) : Prop :=
  ∃ N, ∀ fuel ≥ N, client.onDataReceived size fuel bytes = some (.ok client')

inductive Step (env : Env) (capacity : ℕ) (size : SizeT) (s : Session) :
    Incident → Session → Prop
  | served {event : Event} {w' : Wired} :
      Serves env capacity s.wired event w' →
      Step env capacity size s (.served event)
        { s with wired := w', wire := s.wire ++ s.wired.srv.takenBetween w'.srv }
  | delivered {count : ℕ} {client' : RemoteexecCallback} :
      Takes size (s.wire.take count) s.client client' →
      Step env capacity size s (.delivered count)
        { s with wire := s.wire.drop count, client := client' }

/-- The transport: of the messages that were queued, those that are not handled yet are in the
buffer of the client, on the wire and in the buffer of the server. -/
structure Transports (frames : List (MessageType × List UInt8)) (s : Session) : Prop where
  sound : ∀ m ∈ frames, Sound m
  rest : ∃ rest, frames = s.client.handled ++ rest ∧
    s.client.Reading rest (s.wire ++ s.wired.srv.outbuf) ∧ s.client.Waiting rest
  shown : s.client.shown = s.client.handled.map Report.of
  running : s.client.running = !(s.client.handled.any fun m => decide (m.1 = .ENDOFFILE))

variable {env : Env} {capacity : ℕ} {size : SizeT} {s s' : Session}
  {frames ms : List (MessageType × List UInt8)}

private theorem transports_opened
    {srv : S3TPServer} {memory : MessageType} (empty : srv.outbuf = []) :
    Transports [] (opened srv memory) where
  sound := by simp
  rest := by
    refine ⟨[], rfl, ⟨?_, fun unread => absurd rfl unread⟩, fun _ _ none => by cases none⟩
    exact empty
  shown := rfl
  running := rfl

theorem Transports.served (transports : Transports frames s) {w' : Wired} {bytes : List UInt8}
    (sound : ∀ m ∈ ms, Sound m)
    (moved : bytes ++ w'.srv.outbuf = s.wired.srv.outbuf ++ encodeAll ms) :
    Transports (frames ++ ms) { s with wired := w', wire := s.wire ++ bytes } where
  sound := List.forall_mem_append.mpr ⟨transports.sound, sound⟩
  rest := by
    obtain ⟨rest, split, reading, waiting⟩ := transports.rest
    refine ⟨rest ++ ms, by rw [split, List.append_assoc], ⟨?_, ?_⟩, ?_⟩
    · have before := reading.bytes
      calc s.client.buf ++ (s.wire ++ bytes ++ w'.srv.outbuf)
          = s.client.buf ++ (s.wire ++ s.wired.srv.outbuf) ++ encodeAll ms := by
            rw [List.append_assoc s.wire, moved]
            simp only [List.append_assoc]
        _ = encodeAll (rest ++ ms) := by rw [before, encodeAll_append]
    · intro read
      obtain ⟨message, later, rfl, length, type⟩ := reading.header read
      exact ⟨message, later ++ ms, rfl, length, type⟩
    · intro message later same
      cases rest with
      | nil =>
        rw [reading.bytes_nil]
        exact Nat.lt_of_lt_of_le (by decide : 0 < headerSize) (Nat.le_add_right _ _)
      | cons first others =>
        obtain ⟨rfl, _⟩ := List.cons.inj same
        exact waiting first others rfl
  shown := transports.shown
  running := transports.running

theorem Transports.takes (transports : Transports frames s) (size : SizeT) (count : ℕ) :
    ∃ client', Takes size (s.wire.take count) s.client client' ∧
      Transports frames { s with wire := s.wire.drop count, client := client' } := by
  obtain ⟨rest, split, reading, waiting⟩ := transports.rest
  have cut : s.wire ++ s.wired.srv.outbuf =
      s.wire.take count ++ (s.wire.drop count ++ s.wired.srv.outbuf) := by
    rw [← List.append_assoc, List.take_append_drop]
  have sound : ∀ m ∈ rest, Sound m := by
    intro m mem
    apply transports.sound
    rw [split]
    exact List.mem_append_right _ mem
  rw [cut] at reading
  obtain ⟨done, later, client', loops, rfl, handled, reads, waits⟩ :=
    reading.arrived.handleAll sound (Nat.lt_succ_self _)
  have grown : client'.handled = s.client.handled ++ done := handled.handled
  have shown : client'.shown = s.client.shown ++ done.map Report.of := handled.shown
  have running : client'.running = (s.client.running && _) := handled.running
  refine ⟨client', ⟨_, fun fuel enough => handleAll_le enough loops⟩, transports.sound,
    ⟨later, ?_, reads, waits⟩, ?_, ?_⟩
  · rw [split, grown, List.append_assoc]
  · rw [shown, transports.shown, grown, List.map_append]
  · rw [running, transports.running, grown, List.any_append, Bool.not_or]

private theorem digits_le {exitStatus : Int} (fits : Fits exitStatus) :
    (toString exitStatus).toList.length ≤ 20 := by
  have small {n : ℕ} (le : n ≤ 2 ^ 63) : n.repr.toList.length ≤ 19 := by
    rw [String.length_toList]
    apply (Nat.length_repr_le_iff (by decide)).mpr
    exact Nat.lt_of_le_of_lt le (by decide)
  obtain ⟨low, high⟩ := fits
  rw [Int.toString_eq_repr, Int.repr_eq_if]
  split
  · have digits : exitStatus.toNat.repr.toList.length ≤ 19 := small (by omega)
    omega
  · have digits : (-exitStatus).toNat.repr.toList.length ≤ 19 := small (by omega)
    have sign : "-".toList.length = 1 := rfl
    rw [String.toList_append, List.length_append]
    omega

private theorem exitText_length {exitStatus : Int} (fits : Fits exitStatus) :
    (S3TPServer.exitText exitStatus).length < 2 ^ 32 - 5 := by
  have digits := digits_le fits
  have begins : "[exit] ".toList.length = 7 := rfl
  have ends : "\n".toList.length = 1 := rfl
  rw [S3TPServer.exitText, List.length_map, String.toList_append, String.toList_append,
    List.length_append, List.length_append]
  omega

structure Printed (output : List (MessageType × List UInt8)) (w : Wired) : Prop where
  streams : ∀ m ∈ output, m.1 = .STDOUT ∨ m.1 = .STDERR
  small : ∀ m ∈ output, m.2.length ≤ suggestedSize
  read : ∀ stdout, payloads (streamType stdout) output = (w.output stdout).read

def Shut (w : Wired) : Prop :=
  ∀ stdout, (w.output stdout).content = [] ∧ (w.output stdout).waiting = []

/-- How far the only command of a connection is, and the messages that were queued for it. -/
inductive Conversation (first : ℕ) (exits : List Int) :
    List (MessageType × List UInt8) → Wired → Prop
  | waiting {w : Wired} :
      w.srv.process = none → w.srv.spawns = first → Conversation first exits [] w
  | running {w : Wired} {process : Process} {output : List (MessageType × List UInt8)} :
      w.srv.process = some process → w.srv.spawns = first + 1 → Printed output w →
      (process.child ≠ .running → Shut w) →
      (∀ exitStatus signal, process.child = .closing exitStatus signal → exitStatus ∈ exits) →
      Conversation first exits ((.STARTED, []) :: output) w
  | ended {w : Wired} {exitStatus : Int} {output : List (MessageType × List UInt8)} :
      w.srv.process = none → w.srv.spawns = first + 1 → Printed output w → Shut w →
      exitStatus ∈ exits →
      Conversation first exits
        ((.STARTED, []) :: output ++ [(.ENDOFFILE, S3TPServer.exitText exitStatus)]) w

variable {w w' : Wired} {srv' : S3TPServer} {event : Event} {first : ℕ} {exits : List Int}
  {output : List (MessageType × List UInt8)}

theorem Printed.congr (printed : Printed output w)
    (same : ∀ stdout, (w'.output stdout).read = (w.output stdout).read) : Printed output w' where
  streams := printed.streams
  small := printed.small
  read stdout := (printed.read stdout).trans (same stdout).symm

private theorem printed_opened {srv : S3TPServer} : Printed [] (Wired.opened srv) where
  streams := by simp
  small := by simp
  read _ := rfl

private theorem pipes_after {old new : Process} (hp : w.srv.process = some old)
    (hp' : srv'.process = some new) :
    (∀ stdout, ((w.after capacity srv').output stdout).read = (w.output stdout).read) ∧
      ((old.child ≠ .running → Shut w) → new.child ≠ .running → Shut (w.after capacity srv')) := by
  rw [Wired.after_busy capacity hp hp']
  constructor
  · intro stdout
    dsimp only
    split
    · rfl
    · rfl
  · intro shut stopped stdout
    dsimp only
    by_cases running : old.child = .running
    · rw [if_pos ⟨running, stopped⟩]
      exact ⟨rfl, rfl⟩
    · rw [if_neg fun both => running both.1]
      exact shut running stdout

private theorem pipes_end (idle : srv'.process = none) :
    (w.after capacity srv').output = w.output := by
  rw [Wired.after_end idle]

private theorem replies_silent
    {srv : S3TPServer} {input : Input} {stdout : Bool} {bytes : List UInt8}
    {process : Process} (hp : srv.process = some process)
    (other : ∀ stdout bytes, input ≠ .output stdout bytes) :
    srv.replies env input ≠ [(streamType stdout, bytes)] := by
  intro told
  cases input with
  | data data =>
    rw [S3TPServer.replies_busy hp] at told
    cases told
  | output stdout bytes => exact other stdout bytes rfl
  | handleClosed =>
    have ended : srv.replies env .handleClosed = [] ∨
        ∃ text, srv.replies env .handleClosed = [(.ENDOFFILE, text)] := by
      rw [S3TPServer.replies]
      cases srv.reportedExit with
      | none => exact Or.inl rfl
      | some exitStatus =>
        rw [Option.elim_some, S3TPServer.sendReplies]
        split
        · exact Or.inl rfl
        · exact Or.inr ⟨_, rfl⟩
    rcases ended with none | ⟨text, one⟩
    · rw [none] at told
      cases told
    · rw [one] at told
      obtain ⟨type, _⟩ := Prod.mk.inj (List.singleton_inj.mp told)
      exact (streamType_ne stdout).2 type.symm
  | disconnected | bufferFull | bufferEmpty | polled | exited | timeout => cases told

theorem Conversation.callback (conversation : Conversation first exits frames w)
    {input : Input} (online : S3TPServer.Online w.srv)
    (other : ∀ stdout bytes, input ≠ .output stdout bytes)
    (flows : S3TPServer.Flows env w.srv input srv') (spawned : env.uvSpawn first = true)
    (once : srv'.spawns ≤ first + 1) :
    Conversation first (exits ++ exitOf w (.callback input)) (frames ++ w.srv.replies env input)
      (w.after capacity srv') := by
  have turn := (online.turn flows).1
  cases conversation with
  | waiting idle spawns =>
    cases turn with
    | idles _ _ idle' _ spawns' none _ =>
      rw [none]
      refine .waiting ?_ ?_
      · rw [Wired.srv_after, idle']
      · rw [Wired.srv_after, spawns', spawns]
    | flushes _ _ idle' _ spawns' none _ _ =>
      rw [none]
      refine .waiting ?_ ?_
      · rw [Wired.srv_after, idle']
      · rw [Wired.srv_after, spawns', spawns]
    | @starts process _ _ _ hp' running spawns' told _ =>
      have busy : srv'.process ≠ none := by
        rw [hp']
        exact Option.some_ne_none process
      rw [told, Wired.after_start idle busy]
      refine .running hp' ?_ printed_opened (fun stopped => absurd running stopped) ?_
      · exact spawns'.trans (by rw [spawns])
      · intro exitStatus signal closing
        rw [running] at closing
        cases closing
    | fails _ _ fails _ _ _ _ =>
      rw [spawns, spawned] at fails
      cases fails
    | goesOn _ hp _ _ _ _ _ => exact absurd (idle.symm.trans hp) (by simp)
    | ends _ hp _ _ _ _ _ _ => exact absurd (idle.symm.trans hp) (by simp)
  | @running _ process output hp spawns printed shut coded =>
    cases turn with
    | idles _ idle _ _ _ _ _ => exact absurd (idle.symm.trans hp) (by simp)
    | flushes _ idle _ _ _ _ _ _ => exact absurd (idle.symm.trans hp) (by simp)
    | starts _ idle _ _ _ _ _ _ => exact absurd (idle.symm.trans hp) (by simp)
    | fails _ idle _ _ _ _ _ => exact absurd (idle.symm.trans hp) (by simp)
    | @goesOn old new _ hpOld hp' ages spawns' told _ =>
      obtain rfl := Option.some.inj (hp.symm.trans hpOld)
      have none : w.srv.replies env input = [] := by
        rcases told with none | ⟨stdout, bytes, one⟩
        · exact none
        · exact absurd one (replies_silent hp other)
      obtain ⟨read, closes⟩ := pipes_after hp hp'
      rw [none, List.append_nil]
      refine .running ?_ ?_ (printed.congr read) (closes shut) ?_
      · rw [Wired.srv_after, hp']
      · rw [Wired.srv_after, spawns', spawns]
      · intro exitStatus signal closing
        generalize aged : process.child = before at ages
        generalize later : new.child = after at ages
        cases ages with
        | stays _ =>
          have still : process.child = .closing exitStatus signal := by
            rw [aged, ← later, closing]
          exact List.mem_append_left _ (coded exitStatus signal still)
        | @exits exitStatus' signal' =>
          rw [closing] at later
          obtain ⟨rfl, rfl⟩ := Child.closing.inj later
          have living : w.alive = true := Wired.alive_iff.mpr ⟨process, hp, aged⟩
          rw [exitOf, if_pos living]
          exact List.mem_append_right _ (List.mem_singleton.mpr rfl)
        | ceases =>
          rw [closing] at later
          cases later
    | @ends old exitStatus signal _ hpOld closing _ idle' spawns' told _ =>
      obtain rfl := Option.some.inj (hp.symm.trans hpOld)
      have pipes : (w.after capacity srv').output = w.output := pipes_end idle'
      have stopped : process.child ≠ .running := by
        rw [closing]
        exact Child.noConfusion
      rw [told]
      refine .ended ?_ ?_ ?_ ?_ ?_
      · rw [Wired.srv_after, idle']
      · rw [Wired.srv_after, spawns', spawns]
      · apply printed.congr
        intro stdout
        rw [pipes]
      · intro stdout
        rw [pipes]
        exact shut stopped stdout
      · exact List.mem_append_left _ (coded exitStatus signal closing)
  | @ended _ exitStatus output idle spawns printed shut told =>
    have ends (idle' : srv'.process = none) (spawns' : srv'.spawns = w.srv.spawns)
        (none : w.srv.replies env input = []) :
        Conversation first (exits ++ exitOf w (.callback input))
          ((.STARTED, []) :: output ++ [(.ENDOFFILE, S3TPServer.exitText exitStatus)] ++
            w.srv.replies env input) (w.after capacity srv') := by
      have pipes : (w.after capacity srv').output = w.output := pipes_end idle'
      rw [none, List.append_nil]
      refine .ended ?_ ?_ ?_ ?_ (List.mem_append_left _ told)
      · rw [Wired.srv_after, idle']
      · rw [Wired.srv_after, spawns', spawns]
      · apply printed.congr
        intro stdout
        rw [pipes]
      · intro stdout
        rw [pipes]
        exact shut stdout
    cases turn with
    | idles _ _ idle' _ spawns' none _ => exact ends idle' spawns' none
    | flushes _ _ idle' _ spawns' none _ _ => exact ends idle' spawns' none
    | starts _ _ _ _ _ spawns' _ _ => omega
    | fails _ _ _ _ _ spawns' _ => omega
    | goesOn _ hp _ _ _ _ _ => exact absurd (idle.symm.trans hp) (by simp)
    | ends _ hp _ _ _ _ _ _ => exact absurd (idle.symm.trans hp) (by simp)

private theorem arrived_inv {stdout : Bool} {count : ℕ}
    (h : Wired.Step env capacity w (.arrived stdout count) w') :
    w.alive = true ∧ count ≤ suggestedSize ∧
      w.srv.replies env (.output stdout ((w.output stdout).content.take count)) =
        w.srv.sendReplies ((w.output stdout).content.take count) (streamType stdout) ∧
      ∃ srv', w' = (w.setOutput stdout ((w.output stdout).take count)).after capacity srv' := by
  have happens : w.next env capacity (.arrived stdout count) = some w' := h
  rw [Wired.next] at happens
  split at happens
  · rename_i comes
    obtain ⟨living, reading, nonempty, small⟩ := comes
    obtain ⟨srv', _, rfl⟩ := Option.map_eq_some_iff.mp happens
    exact ⟨living, small, if_pos ⟨reading, nonempty⟩, srv', rfl⟩
  · cases happens

theorem Conversation.alive (conversation : Conversation first exits frames w)
    (living : w.alive = true) :
    ∃ process output, frames = (.STARTED, []) :: output ∧ w.srv.process = some process ∧
      process.child = .running ∧ w.srv.spawns = first + 1 ∧ Printed output w := by
  obtain ⟨process, hp, running⟩ := Wired.alive_iff.mp living
  cases conversation with
  | waiting idle _ => exact absurd (idle.symm.trans hp) (by simp)
  | @running _ process' output hp' spawns printed _ _ =>
    obtain rfl := Option.some.inj (hp.symm.trans hp')
    exact ⟨process, output, rfl, hp, running, spawns, printed⟩
  | ended idle _ _ _ _ => exact absurd (idle.symm.trans hp) (by simp)

private theorem conversation_alive {process : Process} (hp : w.srv.process = some process)
    (running : process.child = .running) (spawns : w.srv.spawns = first + 1)
    (printed : Printed output w) : Conversation first exits ((.STARTED, []) :: output) w := by
  refine .running hp spawns printed (fun stopped => absurd running stopped) ?_
  intro exitStatus signal closing
  rw [running] at closing
  cases closing

theorem Conversation.arrived (conversation : Conversation first exits frames w)
    (online : S3TPServer.Online w.srv) {stdout : Bool} {count : ℕ}
    (living : w.alive = true) (small : count ≤ suggestedSize)
    (replies : w.srv.replies env (.output stdout ((w.output stdout).content.take count)) =
      w.srv.sendReplies ((w.output stdout).content.take count) (streamType stdout))
    (flows : S3TPServer.Flows env w.srv (.output stdout ((w.output stdout).content.take count)) srv') :
    Conversation first exits
      (frames ++ w.srv.replies env (.output stdout ((w.output stdout).content.take count)))
      ((w.setOutput stdout ((w.output stdout).take count)).after capacity srv') := by
  obtain ⟨process, output, rfl, hp, running, spawns, printed⟩ := conversation.alive living
  set bytes := (w.output stdout).content.take count
  set taken := w.setOutput stdout ((w.output stdout).take count)
  have told : w.srv.replies env (.output stdout bytes) = [(streamType stdout, bytes)] :=
    replies.trans (S3TPServer.sendReplies_up online.up (streamType_ne stdout).1)
  rw [told]
  cases (online.turn flows).1 with
  | idles _ idle _ _ _ _ _ => exact absurd (idle.symm.trans hp) (by simp)
  | flushes _ idle _ _ _ _ _ _ => exact absurd (idle.symm.trans hp) (by simp)
  | starts _ idle _ _ _ _ _ _ => exact absurd (idle.symm.trans hp) (by simp)
  | fails _ idle _ _ _ _ _ => exact absurd (idle.symm.trans hp) (by simp)
  | ends closed _ _ _ _ _ _ _ => cases closed
  | @goesOn old new _ hpOld hp' ages spawns' _ _ =>
    obtain rfl := Option.some.inj (hp.symm.trans hpOld)
    have child : new.child = process.child := by
      generalize process.child = before at ages
      generalize new.child = after at ages
      cases ages with
      | stays _ => rfl
    have hpTaken : taken.srv.process = some process := hp
    have pipes : (taken.after capacity srv').output = taken.output :=
      Wired.output_after hpTaken hp' child
    have grown : Printed (output ++ [(streamType stdout, bytes)]) (taken.after capacity srv') := by
      constructor
      · refine List.forall_mem_append.mpr ⟨printed.streams, List.forall_mem_singleton.mpr ?_⟩
        exact Replying.streamType_output stdout
      · refine List.forall_mem_append.mpr ⟨printed.small, List.forall_mem_singleton.mpr ?_⟩
        exact le_trans (List.length_take_le _ _) small
      · intro stdout'
        rw [pipes]
        by_cases same : stdout' = stdout
        · subst same
          have last : payloads (streamType stdout') (output ++ [(streamType stdout', bytes)]) =
              payloads (streamType stdout') output ++ bytes :=
            payloads_of_eq (rfl : (streamType stdout', bytes).1 = streamType stdout')
          rw [last, printed.read stdout', Wired.setOutput_self]
          rfl
        · have differs : streamType stdout ≠ streamType stdout' :=
            fun types => same (streamType_inj types).symm
          rw [payloads_of_ne differs, printed.read stdout', Wired.setOutput_of_ne same]
    refine conversation_alive ?_ (child.trans running) ?_ grown
    · rw [Wired.srv_after, hp']
    · rw [Wired.srv_after, spawns', spawns]

theorem Conversation.sound (conversation : Conversation first exits frames w)
    (fit : ∀ exitStatus ∈ exits, Fits exitStatus) : ∀ m ∈ frames, Sound m := by
  have started : Sound (.STARTED, []) := ⟨by decide, by decide⟩
  have prints {output : List (MessageType × List UInt8)} (printed : Printed output w) :
      ∀ m ∈ output, Sound m := by
    intro m mem
    constructor
    · rintro ⟨_, none⟩
      rcases printed.streams m mem with stream | stream
      · rw [none] at stream
        cases stream
      · rw [none] at stream
        cases stream
    · exact Nat.lt_of_le_of_lt (printed.small m mem) (by decide)
  cases conversation with
  | waiting => simp
  | running _ _ printed _ _ => exact List.forall_mem_cons.mpr ⟨started, prints printed⟩
  | @ended _ exitStatus _ _ _ printed _ told =>
    have last : Sound (.ENDOFFILE, S3TPServer.exitText exitStatus) :=
      ⟨fun none => absurd none.2 (show MessageType.ENDOFFILE ≠ .NONE by decide),
        exitText_length (fit exitStatus told)⟩
    exact List.forall_mem_append.mpr ⟨List.forall_mem_cons.mpr ⟨started, prints printed⟩,
      List.forall_mem_singleton.mpr last⟩

private theorem log_grows
    {srv : S3TPServer} {input : Input} (turn : S3TPServer.Turn env srv input srv')
    (spawned : srv.Asks input → env.uvSpawn srv.spawns = true) :
    ∃ ls, srv'.log = srv.log ++ ls := by
  have lasts {srv' : S3TPServer} (lasts : S3TPServer.Lasts srv srv') :
      ∃ ls, srv'.log = srv.log ++ ls := by
    obtain ⟨ls, added, _⟩ := lasts
    exact ⟨ls, added⟩
  cases turn with
  | idles _ _ _ _ _ _ same => exact lasts same
  | flushes _ _ _ _ _ _ _ added => exact ⟨_, added.trans (List.append_assoc _ _ _)⟩
  | starts _ _ _ _ _ _ _ same => exact lasts same
  | fails asks _ fails _ _ _ _ =>
    rw [spawned asks] at fails
    cases fails
  | goesOn _ _ _ _ _ _ same => exact lasts same
  | ends _ _ _ _ _ _ _ winds =>
    rcases winds with ⟨_, ls, added, _⟩ | ⟨_, same⟩
    · exact ⟨_, added.trans (List.append_assoc _ _ _)⟩
    · exact lasts same

private theorem taken_outbuf {srv : S3TPServer} {bytes : List UInt8}
    (grows : ∃ ls, srv'.log = srv.log ++ ls)
    (queued : srv'.queuedBytes = srv.queuedBytes ++ bytes) :
    srv.takenBetween srv' ++ srv'.outbuf = srv.outbuf ++ bytes := by
  obtain ⟨ls, grown⟩ := grows
  have sent : srv'.sentBytes = srv.sentBytes ++ S3tp.accepted ls := by
    rw [S3TPServer.sentBytes, grown, List.filterMap_append, List.flatten_append]
    rfl
  have taken : srv.takenBetween srv' = S3tp.accepted ls := by
    rw [S3TPServer.takenBetween, sent]
    exact List.drop_left
  rw [S3TPServer.queuedBytes, S3TPServer.queuedBytes, sent, List.append_assoc,
    List.append_assoc] at queued
  rw [taken]
  exact List.append_cancel_left queued

theorem Conversation.spawned (conversation : Conversation first exits frames w) {input : Input}
    (turn : S3TPServer.Turn env w.srv input srv') (spawned : env.uvSpawn first = true)
    (once : srv'.spawns ≤ first + 1) (asks : w.srv.Asks input) :
    env.uvSpawn w.srv.spawns = true := by
  have idle : w.srv.process = none := S3TPServer.asks_idle asks
  have more : srv'.spawns = w.srv.spawns + 1 := by
    cases turn with
    | idles notAsks => exact absurd asks notAsks
    | flushes notAsks => exact absurd asks notAsks
    | starts _ _ _ _ _ spawns => exact spawns
    | fails _ _ _ _ _ spawns => exact spawns
    | goesOn notAsks => exact absurd asks notAsks
    | ends _ hp => exact absurd (idle.symm.trans hp) (by simp)
  cases conversation with
  | waiting _ spawns =>
    rw [spawns]
    exact spawned
  | running hp => exact absurd (idle.symm.trans hp) (by simp)
  | ended _ spawns => omega

theorem Conversation.congr (conversation : Conversation first exits frames w)
    (srv : w'.srv = w.srv) (read : ∀ stdout, (w'.output stdout).read = (w.output stdout).read)
    (shut : Shut w → Shut w') : Conversation first exits frames w' := by
  cases conversation with
  | waiting idle spawns => exact .waiting (srv ▸ idle) (srv ▸ spawns)
  | running hp spawns printed closed coded =>
    exact .running (srv ▸ hp) (srv ▸ spawns) (printed.congr read)
      (fun stopped => shut (closed stopped)) coded
  | ended idle spawns printed closed told =>
    exact .ended (srv ▸ idle) (srv ▸ spawns) (printed.congr read) (shut closed) told

/-- What one event at the server does to a conversation. -/
theorem Conversation.served (conversation : Conversation first exits frames w)
    (online : S3TPServer.Online w.srv) (serves : Serves env capacity w event w')
    (spawned : env.uvSpawn first = true) (once : w'.srv.spawns ≤ first + 1) :
    ∃ ms, w.srv.takenBetween w'.srv ++ w'.srv.outbuf = w.srv.outbuf ++ encodeAll ms ∧
      S3TPServer.Online w'.srv ∧
      Conversation first (exits ++ exitOf w event) (frames ++ ms) w' := by
  obtain ⟨happens, flows, _⟩ := serves
  have unchanged (none : exitOf w event = []) (srv : w'.srv = w.srv)
      (conversation' : Conversation first exits frames w') :
      ∃ ms, w.srv.takenBetween w'.srv ++ w'.srv.outbuf = w.srv.outbuf ++ encodeAll ms ∧
        S3TPServer.Online w'.srv ∧
        Conversation first (exits ++ exitOf w event) (frames ++ ms) w' := by
    refine ⟨[], ?_, ?_, ?_⟩
    · rw [srv, S3TPServer.takenBetween, List.drop_length]
      exact (List.append_nil _).symm
    · rw [srv]
      exact online
    · rw [none, List.append_nil, List.append_nil]
      exact conversation'
  cases event with
  | callback input =>
    cases Wired.moves happens with
    | @callback _ srv' other goes =>
      have flow : S3TPServer.Flows env w.srv input (w.after capacity srv').srv := flows input rfl
      rw [Wired.srv_after] at flow once ⊢
      obtain ⟨turn, queued⟩ := online.turn flow
      refine ⟨w.srv.replies env input, ?_, online.next flow,
        conversation.callback online other flow spawned once⟩
      exact taken_outbuf (log_grows turn (conversation.spawned turn spawned once)) queued
  | arrived stdout count =>
    obtain ⟨living, small, replies, srv', rfl⟩ := arrived_inv happens
    have flow := flows _ rfl
    rw [Wired.srv_after] at flow once ⊢
    obtain ⟨turn, queued⟩ := online.turn flow
    refine ⟨w.srv.replies env (.output stdout ((w.output stdout).content.take count)), ?_,
      online.next flow, ?_⟩
    · exact taken_outbuf (log_grows turn (conversation.spawned turn spawned once)) queued
    · rw [exitOf, List.append_nil]
      · exact conversation.arrived online living small replies flow
      · exact fun _ _ => Event.noConfusion
  | wrote stdout bytes =>
    cases Wired.moves happens with
    | wrote living =>
      obtain ⟨process, output, rfl, hp, running, spawns, printed⟩ := conversation.alive living
      refine unchanged rfl rfl (conversation_alive hp running spawns (printed.congr ?_))
      intro stdout'
      by_cases same : stdout' = stdout
      · rw [same, Wired.setOutput_self, Pipe.read_write]
      · rw [Wired.setOutput_of_ne same]
  | flushed =>
    cases Wired.moves happens with
    | flushed => exact unchanged rfl rfl (conversation.congr rfl (fun _ => rfl) id)
  | consumed count =>
    cases Wired.moves happens with
    | consumed => exact unchanged rfl rfl (conversation.congr rfl (fun _ => rfl) id)

def exitsOf (ts : List (Transition Session Incident)) : List Int :=
  ts.flatMap fun t => match t.label with
    | .served event => exitOf t.source.wired event
    | .delivered _ => []

private theorem exitsOf_snoc {ts : List (Transition Session Incident)}
    {t : Transition Session Incident} : exitsOf (ts ++ [t]) = exitsOf ts ++ exitsOf [t] :=
  List.flatMap_append

theorem Serves.quiet (serves : Serves env capacity w event w') (quiet : event.input? w = none) :
    w'.srv = w.srv := by
  have moves := Wired.moves serves.happens
  cases event with
  | callback | arrived => cases quiet
  | wrote | flushed | consumed =>
    cases moves
    rfl

theorem Serves.online (serves : Serves env capacity w event w')
    (online : S3TPServer.Online w.srv) :
    S3TPServer.Online w'.srv ∧ w.srv.spawns ≤ w'.srv.spawns := by
  cases called : event.input? w with
  | none =>
    rw [serves.quiet called]
    exact ⟨online, le_rfl⟩
  | some input =>
    have flow := serves.flows input called
    exact ⟨online.next flow, (online.turn flow).1.spawns_le⟩

section Run

variable {srv₀ : S3TPServer} {memory : MessageType} {ts : List (Transition Session Incident)}

private theorem run_online (online : S3TPServer.Online srv₀)
    (run : Run (Step env capacity size) (opened srv₀ memory) ts s) :
    S3TPServer.Online s.wired.srv := by
  refine run.invariant (I := fun s => S3TPServer.Online s.wired.srv) online ?_
  intro s event s' online step
  cases step with
  | served serves => exact (serves.online online).1
  | delivered => exact online

structure Knows (first : ℕ) (exits : List Int) (frames : List (MessageType × List UInt8))
    (s : Session) : Prop where
  transports : Transports frames s
  conversation : Conversation first exits frames s.wired
  fit : ∀ exitStatus ∈ exits, Fits exitStatus

private theorem run_knows (online : S3TPServer.Online srv₀) (idle : srv₀.process = none)
    (empty : srv₀.outbuf = []) (spawned : env.uvSpawn srv₀.spawns = true)
    (run : Run (Step env capacity size) (opened srv₀ memory) ts s)
    (once : s.wired.srv.spawns ≤ srv₀.spawns + 1) :
    ∃ frames, Knows srv₀.spawns (exitsOf ts) frames s := by
  induction run with
  | nil => exact ⟨[], transports_opened empty, .waiting idle rfl, by simp [exitsOf]⟩
  | @snoc ts s s' incident prior step ih =>
    have onlineNow := run_online online prior
    rw [exitsOf_snoc]
    cases step with
    | @served event w' serves =>
      obtain ⟨_, fewer⟩ := serves.online onlineNow
      obtain ⟨frames, transports, conversation, fit⟩ := ih (le_trans fewer once)
      obtain ⟨ms, moved, _, conversation'⟩ :=
        conversation.served onlineNow serves spawned once
      have fit' : ∀ exitStatus ∈ exitsOf ts ++ exitOf s.wired event, Fits exitStatus :=
        List.forall_mem_append.mpr ⟨fit, serves.fits⟩
      have sound := conversation'.sound fit'
      have one (target : Session) : exitsOf [⟨s, .served event, target⟩] = exitOf s.wired event :=
        List.append_nil _
      rw [one]
      exact ⟨frames ++ ms, transports.served (fun m mem =>
        sound m (List.mem_append_right _ mem)) moved, conversation', fit'⟩
    | @delivered count client' takes =>
      obtain ⟨frames, transports, conversation, fit⟩ := ih once
      have none (target : Session) : exitsOf [⟨s, .delivered count, target⟩] = [] := rfl
      rw [none, List.append_nil]
      obtain ⟨client'', takes', transports'⟩ := transports.takes size count
      obtain ⟨N, loops⟩ := takes
      obtain ⟨N', loops'⟩ := takes'
      have same := (loops (max N N') (le_max_left _ _)).symm.trans (loops' _ (le_max_right _ _))
      obtain rfl := Except.ok.inj (Option.some.inj same)
      exact ⟨frames, transports', conversation, fit⟩

end Run

/-- What the user of the client sees. -/
structure Shows (size : SizeT) (first : ℕ) (exits : List Int) (s : Session) : Prop where
  takes : ∀ count, ∃ client', Takes size (s.wire.take count) s.client client'
  shown : s.client.shown = s.client.handled.map Report.of
  order : ∃ output, (∀ m ∈ output, m.1 = .STDOUT ∨ m.1 = .STDERR) ∧
    (s.client.handled = [] ∨ s.client.handled = (.STARTED, []) :: output ∨
      ∃ exitStatus ∈ exits, s.client.handled =
        (.STARTED, []) :: output ++ [(.ENDOFFILE, S3TPServer.exitText exitStatus)])
  output : ∀ stdout, payloads (streamType stdout) s.client.handled <+: (s.wired.output stdout).written
  complete : s.client.running = false → ∀ stdout,
    (payloads (streamType stdout) s.client.handled = (s.wired.output stdout).written ↔
      (s.wired.output stdout).discarded = [])
  arrives : s.wire = [] → s.wired.srv.outbuf = [] → s.wired.srv.process = none →
    s.wired.srv.spawns = first + 1 → s.client.running = false

private theorem payloads_append (type : MessageType) (ms ms' : List (MessageType × List UInt8)) :
    payloads type (ms ++ ms') = payloads type ms ++ payloads type ms' := by
  rw [payloads, List.filter_append, List.flatMap_append]
  rfl

private theorem payloads_whole (stdout : Bool) (text : List UInt8) :
    payloads (streamType stdout) ((.STARTED, []) :: output ++ [(.ENDOFFILE, text)]) =
        payloads (streamType stdout) output ∧
      payloads (streamType stdout) ((.STARTED, []) :: output) =
        payloads (streamType stdout) output := by
  have first : payloads (streamType stdout) [(.STARTED, [])] = [] := by
    cases stdout <;> rfl
  have last : payloads (streamType stdout) [(.ENDOFFILE, text)] = [] := by
    cases stdout <;> rfl
  have started : payloads (streamType stdout) ((.STARTED, []) :: output) =
      payloads (streamType stdout) output := by
    rw [← List.singleton_append, payloads_append, first, List.nil_append]
  refine ⟨?_, started⟩
  rw [payloads_append, started, last, List.append_nil]

theorem Transports.all (transports : Transports frames s) (wire : s.wire = [])
    (empty : s.wired.srv.outbuf = []) : s.client.handled = frames := by
  obtain ⟨rest, split, reading, waiting⟩ := transports.rest
  cases rest with
  | nil => rw [split, List.append_nil]
  | cons message later =>
    have sound : Sound message := by
      apply transports.sound
      rw [split]
      exact List.mem_append_right _ List.mem_cons_self
    have all : s.client.buf = encodeAll (message :: later) := by
      rw [← reading.bytes, wire, empty]
      exact (List.append_nil _).symm
    have short := waiting message later rfl
    rw [all, encodeAll_cons, List.length_append, sound.size] at short
    exact absurd short (not_lt.mpr (Nat.le_add_right _ _))

theorem Printed.written (printed : Printed output w) (stdout : Bool) :
    payloads (streamType stdout) output <+: (w.output stdout).written := by
  rw [printed.read stdout, ← (w.output stdout).conserved, List.append_assoc, List.append_assoc]
  exact List.prefix_append _ _

private theorem prefix_started {handled : List (MessageType × List UInt8)}
    (early : handled <+: (.STARTED, []) :: output) :
    handled = [] ∨ ∃ before, before <+: output ∧ handled = (.STARTED, []) :: before := by
  cases handled with
  | nil => exact Or.inl rfl
  | cons message before =>
    obtain ⟨rfl, rest⟩ := List.cons_prefix_cons.mp early
    exact Or.inr ⟨before, rest, rfl⟩

private theorem running_early {before : List (MessageType × List UInt8)}
    (streams : ∀ m ∈ output, m.1 = .STDOUT ∨ m.1 = .STDERR)
    (early : before <+: output) :
    (((.STARTED, []) :: before).any fun m : MessageType × List UInt8 =>
      decide (m.1 = .ENDOFFILE)) = false := by
  rw [List.any_cons]
  apply Bool.or_eq_false_iff.mpr
  refine ⟨rfl, List.any_eq_false.mpr fun m mem last => ?_⟩
  have ended : m.1 = .ENDOFFILE := of_decide_eq_true last
  rcases streams m (early.subset mem) with stream | stream
  · rw [ended] at stream
    cases stream
  · rw [ended] at stream
    cases stream

private theorem shows_early (transports : Transports frames s) (printed : Printed output s.wired)
    (early : s.client.handled <+: (.STARTED, []) :: output)
    (awaited : s.wire = [] → s.wired.srv.outbuf = [] → s.wired.srv.process = none →
      s.wired.srv.spawns = first + 1 → s.client.handled ≠ frames) :
    Shows size first exits s := by
  have shape := prefix_started early
  have still : s.client.running = true := by
    rw [transports.running]
    rcases shape with none | ⟨before, less, some_⟩
    · rw [none]
      rfl
    · rw [some_, running_early printed.streams less]
      rfl
  refine ⟨fun count => ?_, transports.shown, ?_, ?_, ?_, ?_⟩
  · obtain ⟨client', takes, _⟩ := transports.takes size count
    exact ⟨client', takes⟩
  · rcases shape with none | ⟨before, less, some_⟩
    · exact ⟨[], by simp, Or.inl none⟩
    · exact ⟨before, fun m mem => printed.streams m (less.subset mem), Or.inr (Or.inl some_)⟩
  · intro stdout
    rcases shape with none | ⟨before, ⟨after, whole⟩, some_⟩
    · rw [none]
      exact List.nil_prefix
    · have all := printed.written stdout
      rw [← whole, payloads_append] at all
      rw [some_, (payloads_whole stdout []).2]
      exact (List.prefix_append _ _).trans all
  · intro stopped
    rw [still] at stopped
    cases stopped
  · intro wire empty idle spawns
    exact absurd (transports.all wire empty) (awaited wire empty idle spawns)

theorem Knows.shows (knows : Knows first exits frames s) : Shows size first exits s := by
  obtain ⟨transports, conversation, _⟩ := knows
  obtain ⟨rest, split, _⟩ := transports.rest
  have early : s.client.handled <+: frames := by
    rw [split]
    exact List.prefix_append _ _
  cases conversation with
  | waiting idle spawns =>
    have none : s.client.handled = [] := List.prefix_nil.mp early
    refine ⟨fun count => ?_, transports.shown, ⟨[], by simp, Or.inl none⟩, ?_, ?_, ?_⟩
    · obtain ⟨client', takes, _⟩ := transports.takes size count
      exact ⟨client', takes⟩
    · intro stdout
      rw [none]
      exact List.nil_prefix
    · intro stopped
      rw [transports.running, none] at stopped
      cases stopped
    · intro _ _ _ started
      omega
  | running hp spawns printed _ _ =>
    apply shows_early transports printed early
    intro _ _ idle _
    exact absurd (idle.symm.trans hp) (by simp)
  | @ended _ exitStatus output idle spawns printed shut told =>
    rcases List.prefix_concat_iff.mp early with whole | before
    · have stopped : s.client.running = false := by
        rw [transports.running, whole, List.any_append]
        simp
      refine ⟨fun count => ?_, transports.shown, ?_, ?_, ?_, fun _ _ _ _ => stopped⟩
      · obtain ⟨client', takes, _⟩ := transports.takes size count
        exact ⟨client', takes⟩
      · exact ⟨output, printed.streams, Or.inr (Or.inr ⟨exitStatus, told, whole⟩)⟩
      · intro stdout
        rw [whole, (payloads_whole stdout _).1]
        exact printed.written stdout
      · intro _ stdout
        rw [whole, (payloads_whole stdout _).1, printed.read stdout]
        exact Pipe.read_iff (shut stdout).1 (shut stdout).2
    · apply shows_early transports printed before
      intro _ _ _ _ all
      have length := before.length_le
      rw [all, List.length_append, List.length_singleton] at length
      omega

/-- The whole way of a command: however the callbacks of the server, the writes of the child
and the pieces in which the client gets the bytes follow upon each other, the client throws
nothing and its loop ends. It is shown, in this order, that the command was received, output
of the process as it was written to each stream, and an exit status of the process; when it
stops, the output is complete exactly if no pipe was closed with something in it; and it has
stopped where the process has ended and nothing is on its way. -/
theorem session_shows (env : Env) (capacity : ℕ) (size : SizeT) (memory : MessageType)
    {s₀ srv₀ : S3TPServer} {ts₀ : List (Transition S3TPServer Input)}
    {ts : List (Transition Session Incident)} {s : Session}
    (starts : S3TPServer.start env = some s₀) (before : Run (S3TPServer.Called env) s₀ ts₀ srv₀)
    (up : srv₀.channel ≠ none) (idle : srv₀.process = none) (empty : srv₀.outbuf = [])
    (spawned : env.uvSpawn srv₀.spawns = true)
    (run : Run (Step env capacity size) (opened srv₀ memory) ts s)
    (once : s.wired.srv.spawns ≤ srv₀.spawns + 1) :
    Shows size srv₀.spawns (exitsOf ts) s := by
  have online : S3TPServer.Online srv₀ := S3TPServer.online_of_run starts before up
  obtain ⟨frames, knows⟩ := run_knows online idle empty spawned run once
  exact knows.shows

def next (env : Env) (capacity : ℕ) (size : SizeT) (fuel : ℕ) (s : Session) :
    Incident → Option Session
  | .served event =>
      if (event.input? s.wired).all (fun input => decide (s.wired.srv.Comes input)) = true ∧
          ∀ exitStatus ∈ exitOf s.wired event, Fits exitStatus then
        ((s.wired.next env capacity event).filter fun w' =>
          w'.srv.channel = s.wired.srv.channel).map fun w' =>
            { s with wired := w', wire := s.wire ++ s.wired.srv.takenBetween w'.srv }
      else
        none
  | .delivered count =>
      match s.client.onDataReceived size fuel (s.wire.take count) with
      | some (.ok client') => some { s with wire := s.wire.drop count, client := client' }
      | _ => none

private theorem calls_of_step {input : Input} (happens : Wired.Step env capacity w event w')
    (called : event.input? w = some input) : w.srv.next env input = some w'.srv := by
  cases event with
  | callback input =>
    obtain rfl := Option.some.inj called
    cases Wired.moves happens with
    | callback _ goes =>
      rw [Wired.srv_after]
      exact goes
  | arrived stdout count =>
    obtain rfl := Option.some.inj called
    cases Wired.moves happens with
    | arrived _ _ goes _ =>
      rw [Wired.srv_after]
      exact goes
  | wrote | flushed | consumed => cases called

theorem step_of_next (works : ∀ n, env.send n ≠ .failed) (fuel : ℕ) (s : Session)
    (incident : Incident) (s' : Session) (h : s.next env capacity size fuel incident = some s') :
    Step env capacity size s incident s' := by
  cases incident with
  | served event =>
    rw [next] at h
    split at h
    · rename_i comes
      obtain ⟨w', goes, rfl⟩ := Option.map_eq_some_iff.mp h
      obtain ⟨happens, stays⟩ := Option.filter_eq_some_iff.mp goes
      refine .served ⟨happens, fun input called => ?_, comes.2⟩
      have enabled : s.wired.srv.Comes input := by
        have all := comes.1
        rw [called] at all
        exact of_decide_eq_true all
      exact ⟨⟨enabled, calls_of_step happens called⟩, of_decide_eq_true stays,
        fun n _ _ => works n⟩
    · cases h
  | delivered count =>
    rw [next] at h
    split at h
    · rename_i client' loops
      obtain rfl := Option.some.inj h
      exact .delivered ⟨fuel, fun fuel' enough => handleAll_le enough loops⟩
    · cases h

/-- A command says hello, and the client gets it in two pieces. -/
def hello : List Incident :=
  [.served (.callback (.data (encode .NONE [108, 115, 10]))), .served (.wrote true [104, 105, 10]),
    .served (.arrived true 65536), .delivered 7, .served (.callback (.exited 0 0)),
    .served (.callback .handleClosed), .delivered 65536]

theorem session_shows_hello :
    ∃ ts s, Run (Step Env.fine 65536 .bits32) (opened S3TPServer.new.connected .NONE) ts s ∧
      ts.map Transition.label = hello ∧ s.client.running = false ∧
      s.client.shown = [.received, .printed [104, 105, 10], .completed (S3TPServer.exitText 0)] ∧
      Shows .bits32 0 (exitsOf ts) s := by
  have works (n : ℕ) : Env.fine.send n ≠ .failed := SendResult.noConfusion
  have sound (s : Session) (incident : Incident) (s' : Session)
      (h : s.next Env.fine 65536 .bits32 9 incident = some s') :
      Step Env.fine 65536 .bits32 s incident s' := step_of_next works 9 s incident s' h
  obtain ⟨ts, s, run, labels, test⟩ :=
    exists_run_to sound (opened S3TPServer.new.connected .NONE) hello
      (fun s => decide (s.wired.srv.spawns ≤ 1 ∧ s.client.running = false ∧
        s.client.shown =
          [.received, .printed [104, 105, 10], .completed (S3TPServer.exitText 0)]))
      (by decide +kernel)
  obtain ⟨once, stopped, shown⟩ := of_decide_eq_true test
  exact ⟨ts, s, run, labels, stopped, shown,
    session_shows _ _ _ _ S3TPServer.start_fine .nil (Option.some_ne_none _) rfl rfl rfl run once⟩

end Session

end Horst.S3tp
