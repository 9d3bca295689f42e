import Horst.S3tp.Wiring
import Mathlib.Data.List.GetD

/-!
The receiving side of `remoteexec`: what its callback makes of the bytes that the server
sends, in whatever pieces they come.
-/

set_option autoImplicit false
set_option relaxedAutoImplicit false

namespace Horst.S3tp

open Foundation Foundation.Framing

/-- What the user is shown: that the command was received, the exit status, or output. -/
inductive Report
  | received
  | completed (status : List UInt8)
  | printed (bytes : List UInt8)
  deriving DecidableEq, Repr

def Report.of (message : MessageType × List UInt8) : Report :=
  if message.1 = .STARTED then .received
  else if message.1 = .ENDOFFILE then .completed message.2
  else .printed message.2

/-- `RemoteexecCallback`, with the global `running`, and a chronicle of the messages that were
handled and of what the user was shown. -/
structure RemoteexecCallback where
  buf : List UInt8
  expected : UInt32
  type : MessageType
  running : Bool
  handled : List (MessageType × List UInt8)
  shown : List Report
  deriving DecidableEq, Repr

namespace RemoteexecCallback

/-- The constructor leaves `type` as the memory was. -/
def new (memory : MessageType) : RemoteexecCallback where
  buf := []
  expected := 0
  type := memory
  running := true
  handled := []
  shown := []

/-- The header of the message at the front of the buffer is read, unless it was before. -/
def readHeader (cb : RemoteexecCallback) : Except String RemoteexecCallback :=
  if cb.expected = 0 then
    let cb := { cb with expected := ofBytes cb.buf, type := ⟨cb.buf.getD 4 0⟩ }
    if cb.expected = 0 ∧ cb.type = .NONE then .error "Invalid length received!" else .ok cb
  else
    .ok cb

/-- The message at the front of the buffer is shown. -/
def handle (indata : List UInt8) (cb : RemoteexecCallback) : RemoteexecCallback :=
  let cb := { cb with handled := cb.handled ++ [(cb.type, indata)] }
  if cb.type = .STARTED then
    { cb with shown := cb.shown ++ [.received] }
  else if cb.type = .ENDOFFILE then
    { cb with shown := cb.shown ++ [.completed indata], running := false }
  else
    { cb with shown := cb.shown ++ [.printed indata] }

def eraseFrame (cb : RemoteexecCallback) : RemoteexecCallback :=
  { cb with buf := cb.buf.drop (headerSize + cb.expected.toNat), expected := 0 }

/-- One call of `handleBuffer`, which tells whether there may be another message. -/
def handleBuffer (size : SizeT) (cb : RemoteexecCallback) :
    Except String (Bool × RemoteexecCallback) :=
  if cb.buf.length < headerSize then
    .ok (false, cb)
  else
    cb.readHeader.bind fun cb =>
      if cb.buf.length < size.add cb.expected.toNat headerSize then
        .ok (false, cb)
      else
        let indata := (cb.buf.drop headerSize).take cb.expected.toNat
        .ok (true, (cb.handle indata).eraseFrame)

/-- `while (handleBuffer()) {}`, cut off after a number of calls. -/
def handleAll (size : SizeT) : ℕ → RemoteexecCallback → Option (Except String RemoteexecCallback)
  | 0, _ => none
  | fuel + 1, cb =>
      match cb.handleBuffer size with
      | .error text => some (.error text)
      | .ok (false, cb) => some (.ok cb)
      | .ok (true, cb) => handleAll size fuel cb

def onDataReceived (size : SizeT) (fuel : ℕ) (bytes : List UInt8) (cb : RemoteexecCallback) :
    Option (Except String RemoteexecCallback) :=
  { cb with buf := cb.buf ++ bytes }.handleAll size fuel

def receive (size : SizeT) (fuel : ℕ) :
    List (List UInt8) → RemoteexecCallback → Option (Except String RemoteexecCallback)
  | [], cb => some (.ok cb)
  | bytes :: chunks, cb =>
      match cb.onDataReceived size fuel bytes with
      | some (.ok cb) => receive size fuel chunks cb
      | other => other

end RemoteexecCallback

/-- A call that `send` makes nothing of. -/
def ignored (message : MessageType × List UInt8) : Bool :=
  decide (message.2 = [] ∧ message.1 = .NONE)

section Sound

variable {message : MessageType × List UInt8} {messages : List (MessageType × List UInt8)}
  {rest : List UInt8}

/-- A message that is sent, with a length that the receiver can add the header to. -/
structure Sound (message : MessageType × List UInt8) : Prop where
  counts : ¬ (message.2 = [] ∧ message.1 = .NONE)
  small : message.2.length < 2 ^ 32 - 5

variable (sound : Sound message)
include sound

theorem Sound.fits : message.2.length < 2 ^ 32 := by
  have small := sound.small
  omega

theorem Sound.length_toNat : (UInt32.ofNat message.2.length).toNat = message.2.length := by
  rw [UInt32.toNat_ofNat']
  exact Nat.mod_eq_of_lt sound.fits

theorem Sound.size : (encode message.1 message.2).length = headerSize + message.2.length := by
  rw [encode_length, carried_of_fits sound.fits]

theorem Sound.add (size : SizeT) :
    size.add (UInt32.ofNat message.2.length).toNat headerSize = message.2.length + headerSize := by
  rw [sound.length_toNat]
  apply SizeT.add_of_lt
  have small := sound.small
  rw [headerSize]
  omega

theorem Sound.payload :
    ((encode message.1 message.2 ++ rest).drop headerSize).take
      (UInt32.ofNat message.2.length).toNat = message.2 := by
  rw [payload_encode, carried_of_fits sound.fits]

theorem Sound.drop :
    (encode message.1 message.2 ++ rest).drop
      (headerSize + (UInt32.ofNat message.2.length).toNat) = rest := by
  rw [sound.length_toNat, ← sound.size]
  exact List.drop_left

end Sound

namespace RemoteexecCallback

variable {size : SizeT} {cb cb' : RemoteexecCallback} {message : MessageType × List UInt8}
  {messages : List (MessageType × List UInt8)} {rest : List UInt8}

/-- The buffer and the bytes to come are the given messages. If the header of the first one was
read, then it was read right. -/
structure Reading (messages : List (MessageType × List UInt8)) (rest : List UInt8)
    (cb : RemoteexecCallback) : Prop where
  bytes : cb.buf ++ rest = encodeAll messages
  header : cb.expected ≠ 0 → ∃ message ms, messages = message :: ms ∧
    cb.expected = UInt32.ofNat message.2.length ∧ cb.type = message.1

def Waiting (messages : List (MessageType × List UInt8)) (cb : RemoteexecCallback) : Prop :=
  ∀ message ms, messages = message :: ms → cb.buf.length < headerSize + message.2.length

def headed (message : MessageType × List UInt8) (cb : RemoteexecCallback) : RemoteexecCallback :=
  { cb with expected := UInt32.ofNat message.2.length, type := message.1 }

def finished (message : MessageType × List UInt8) (cb : RemoteexecCallback) :
    RemoteexecCallback :=
  ((cb.headed message).handle message.2).eraseFrame

private theorem Reading.readHeader (reading : cb.Reading (message :: messages) rest)
    (sound : Sound message) (long : headerSize ≤ cb.buf.length) :
    cb.readHeader = .ok (cb.headed message) := by
  rw [RemoteexecCallback.readHeader]
  by_cases fresh : cb.expected = 0
  · have four : 4 ≤ cb.buf.length := le_trans (by decide) long
    have length : ofBytes cb.buf = UInt32.ofNat message.2.length := by
      rw [← ofBytes_append four rest, reading.bytes, encodeAll_cons, ofBytes_encode]
    have type : (⟨cb.buf.getD 4 0⟩ : MessageType) = message.1 := by
      have whole : (cb.buf ++ rest).getD 4 0 = message.1.value := by
        rw [reading.bytes, encodeAll_cons]
        exact tag_frame
      rw [List.getD_append _ _ _ _ long] at whole
      rw [whole]
    rw [if_pos fresh]
    simp only [length, type]
    rw [if_neg]
    · rfl
    · rintro ⟨zero, none⟩
      apply sound.counts
      refine ⟨?_, none⟩
      apply List.eq_nil_of_length_eq_zero
      rw [← sound.length_toNat, zero]
      rfl
  · obtain ⟨first, ms, same, expected, type⟩ := reading.header fresh
    obtain ⟨rfl, rfl⟩ := List.cons.inj same
    rw [if_neg fresh, headed, ← expected, ← type]

private theorem handleBuffer_short (short : cb.buf.length < headerSize) :
    cb.handleBuffer size = .ok (false, cb) :=
  if_pos short

private theorem Reading.handleBuffer_more (reading : cb.Reading (message :: messages) rest)
    (sound : Sound message) (long : headerSize ≤ cb.buf.length)
    (more : cb.buf.length < headerSize + message.2.length) :
    cb.handleBuffer size = .ok (false, cb.headed message) := by
  rw [handleBuffer, if_neg (not_lt.mpr long), reading.readHeader sound long]
  apply if_pos
  have bound : cb.buf.length < message.2.length + headerSize := by omega
  rw [← sound.add size] at bound
  exact bound

private theorem Reading.handleBuffer_whole (reading : cb.Reading (message :: messages) rest)
    (sound : Sound message) (whole : headerSize + message.2.length ≤ cb.buf.length) :
    cb.handleBuffer size = .ok (true, cb.finished message) := by
  have long : headerSize ≤ cb.buf.length := le_trans (Nat.le_add_right _ _) whole
  have enough : ¬ cb.buf.length < size.add (UInt32.ofNat message.2.length).toNat headerSize := by
    rw [sound.add size]
    omega
  have indata : (cb.buf.drop headerSize).take (UInt32.ofNat message.2.length).toNat =
      message.2 := by
    have all : ((cb.buf ++ rest).drop headerSize).take (UInt32.ofNat message.2.length).toNat =
        message.2 := by
      rw [reading.bytes, encodeAll_cons]
      exact sound.payload
    rw [List.drop_append_of_le_length long, List.take_append_of_le_length] at all
    · exact all
    · rw [sound.length_toNat, List.length_drop]
      omega
  rw [handleBuffer, if_neg (not_lt.mpr long), reading.readHeader sound long]
  refine (if_neg enough).trans ?_
  have shown : ((cb.headed message).buf.drop headerSize).take
      (cb.headed message).expected.toNat = message.2 := indata
  rw [shown]
  rfl

private theorem handle_eq (indata : List UInt8) (cb : RemoteexecCallback) :
    cb.handle indata =
      { cb with
        handled := cb.handled ++ [(cb.type, indata)]
        shown := cb.shown ++ [.of (cb.type, indata)]
        running := cb.running && !decide (cb.type = .ENDOFFILE) } := by
  rw [handle, Report.of]
  by_cases started : cb.type = .STARTED
  · simp [started, MessageType.STARTED, MessageType.ENDOFFILE]
  · by_cases last : cb.type = .ENDOFFILE
    · simp [last, MessageType.STARTED, MessageType.ENDOFFILE]
    · simp [started, last]

private theorem finished_eq (message : MessageType × List UInt8) (cb : RemoteexecCallback) :
    cb.finished message =
      { cb with
        buf := cb.buf.drop (headerSize + (UInt32.ofNat message.2.length).toNat)
        expected := 0
        type := message.1
        handled := cb.handled ++ [message]
        shown := cb.shown ++ [.of message]
        running := cb.running && !decide (message.1 = .ENDOFFILE) } := by
  rw [finished, handle_eq]
  rfl

theorem Reading.finished (reading : cb.Reading (message :: messages) rest)
    (sound : Sound message) (whole : headerSize + message.2.length ≤ cb.buf.length) :
    (cb.finished message).Reading messages rest where
  bytes := by
    have fits : headerSize + (UInt32.ofNat message.2.length).toNat ≤ cb.buf.length := by
      rw [sound.length_toNat]
      exact whole
    have dropped : (cb.buf ++ rest).drop (headerSize + (UInt32.ofNat message.2.length).toNat) =
        encodeAll messages := by
      rw [reading.bytes, encodeAll_cons]
      exact sound.drop
    rw [List.drop_append_of_le_length fits] at dropped
    rw [finished_eq]
    exact dropped
  header unread := by
    rw [finished_eq] at unread
    exact absurd rfl unread

theorem Reading.headed (reading : cb.Reading (message :: messages) rest) :
    (cb.headed message).Reading (message :: messages) rest where
  bytes := reading.bytes
  header _ := ⟨message, messages, rfl, rfl, rfl⟩

theorem Reading.bytes_nil (reading : cb.Reading [] rest) : cb.buf = [] :=
  (List.append_eq_nil_iff.mp reading.bytes).1

structure Handled (messages : List (MessageType × List UInt8)) (cb cb' : RemoteexecCallback) :
    Prop where
  handled : cb'.handled = cb.handled ++ messages
  shown : cb'.shown = cb.shown ++ messages.map Report.of
  running : cb'.running = (cb.running && !messages.any fun m => decide (m.1 = .ENDOFFILE))

theorem Handled.nil (handled : cb'.handled = cb.handled) (shown : cb'.shown = cb.shown)
    (running : cb'.running = cb.running) : Handled [] cb cb' where
  handled := by rw [handled, List.append_nil]
  shown := by rw [shown, List.map_nil, List.append_nil]
  running := by simp [running]

theorem Handled.cons (h : Handled messages (cb.finished message) cb') :
    Handled (message :: messages) cb cb' where
  handled := by
    rw [h.handled, finished_eq]
    exact List.append_assoc cb.handled [message] messages
  shown := by
    rw [h.shown, finished_eq]
    exact List.append_assoc cb.shown [Report.of message] (messages.map Report.of)
  running := by
    rw [h.running, finished_eq, List.any_cons, Bool.not_or]
    exact Bool.and_assoc _ _ _

theorem Handled.append {cb'' : RemoteexecCallback} {messages' : List (MessageType × List UInt8)}
    (h : Handled messages cb cb') (h' : Handled messages' cb' cb'') :
    Handled (messages ++ messages') cb cb'' where
  handled := by rw [h'.handled, h.handled, List.append_assoc]
  shown := by rw [h'.shown, h.shown, List.map_append, List.append_assoc]
  running := by rw [h'.running, h.running, List.any_append, Bool.not_or, Bool.and_assoc]

/-- The loop ends, without an exception, and handles the messages that are there as a whole. -/
theorem Reading.handleAll {fuel : ℕ} (reading : cb.Reading messages rest)
    (sound : ∀ message ∈ messages, Sound message) (enough : messages.length < fuel) :
    ∃ done messages' cb', cb.handleAll size fuel = some (.ok cb') ∧ messages = done ++ messages' ∧
      Handled done cb cb' ∧ cb'.Reading messages' rest ∧ cb'.Waiting messages' := by
  induction messages generalizing cb fuel with
  | nil =>
    obtain ⟨fuel, rfl⟩ := Nat.exists_eq_add_one_of_ne_zero (Nat.ne_zero_of_lt enough)
    have short : cb.buf.length < headerSize := by
      rw [reading.bytes_nil]
      decide
    refine ⟨[], [], cb, ?_, rfl, .nil rfl rfl rfl, reading, fun _ _ none => by cases none⟩
    rw [RemoteexecCallback.handleAll, handleBuffer_short short]
  | cons message messages ih =>
    obtain ⟨fuel, rfl⟩ := Nat.exists_eq_add_one_of_ne_zero (Nat.ne_zero_of_lt enough)
    have first : Sound message := sound message List.mem_cons_self
    by_cases whole : headerSize + message.2.length ≤ cb.buf.length
    · obtain ⟨done, messages', cb', loops, rfl, handled, reads, waits⟩ :=
        ih (reading.finished first whole) (fun m mem => sound m (List.mem_cons_of_mem message mem))
          (Nat.lt_of_succ_lt_succ enough)
      refine ⟨message :: done, messages', cb', ?_, rfl, handled.cons, reads, waits⟩
      rw [RemoteexecCallback.handleAll, reading.handleBuffer_whole first whole]
      exact loops
    · have more : cb.buf.length < headerSize + message.2.length := not_le.mp whole
      by_cases long : headerSize ≤ cb.buf.length
      · refine ⟨[], message :: messages, cb.headed message, ?_, rfl, .nil rfl rfl rfl,
          reading.headed, ?_⟩
        · rw [RemoteexecCallback.handleAll, reading.handleBuffer_more first long more]
        · intro m ms same
          obtain ⟨rfl, rfl⟩ := List.cons.inj same
          exact more
      · refine ⟨[], message :: messages, cb, ?_, rfl, .nil rfl rfl rfl, reading, ?_⟩
        · rw [RemoteexecCallback.handleAll, handleBuffer_short (not_le.mp long)]
        · intro m ms same
          obtain ⟨rfl, rfl⟩ := List.cons.inj same
          exact more

theorem Reading.arrived {bytes : List UInt8} (reading : cb.Reading messages (bytes ++ rest)) :
    ({ cb with buf := cb.buf ++ bytes } : RemoteexecCallback).Reading messages rest where
  bytes := (List.append_assoc _ _ _).trans reading.bytes
  header := reading.header

private theorem Reading.receive {fuel : ℕ} {chunks : List (List UInt8)}
    (reading : cb.Reading messages chunks.flatten) (waiting : cb.Waiting messages)
    (sound : ∀ message ∈ messages, Sound message) (enough : messages.length < fuel) :
    ∃ cb', cb.receive size fuel chunks = some (.ok cb') ∧ Handled messages cb cb' ∧
      cb'.buf = [] := by
  induction chunks generalizing cb messages with
  | nil =>
    cases messages with
    | nil => exact ⟨cb, rfl, .nil rfl rfl rfl, reading.bytes_nil⟩
    | cons message messages =>
      -- all the bytes are there, so the first message is
      have short := waiting message messages rfl
      have all : cb.buf = encodeAll (message :: messages) :=
        (List.append_nil _).symm.trans reading.bytes
      have first : Sound message := sound message List.mem_cons_self
      rw [all, encodeAll_cons, List.length_append, first.size] at short
      exact absurd short (not_lt.mpr (Nat.le_add_right _ _))
  | cons bytes chunks ih =>
    rw [List.flatten_cons] at reading
    obtain ⟨done, messages', cb₁, loops, rfl, handled, reads, waits⟩ :=
      reading.arrived.handleAll sound enough
    have fewer : messages'.length < fuel := by
      rw [List.length_append] at enough
      omega
    obtain ⟨cb', receives, rest, empty⟩ :=
      ih reads waits (fun m mem => sound m (List.mem_append_right done mem)) fewer
    refine ⟨cb', ?_, ?_, empty⟩
    · rw [RemoteexecCallback.receive, onDataReceived, loops]
      exact receives
    · have before : Handled done cb cb₁ := ⟨handled.handled, handled.shown, handled.running⟩
      exact before.append rest

end RemoteexecCallback

namespace S3TPServer

variable {env : Env} {srv srv' : S3TPServer} {message : MessageType × List UInt8}

def sendCall (env : Env) (srv : S3TPServer) (message : MessageType × List UInt8) :
    Option S3TPServer :=
  srv.send env message.2 message.1

private theorem sendCall_ignored
    (h : ignored message = true) : srv.sendCall env message = some srv := by
  obtain ⟨empty, none⟩ := of_decide_eq_true h
  rw [sendCall, send, empty]
  exact if_pos ⟨rfl, none⟩

private theorem sendCall_queues (sound : Sound message) (up : srv.channel ≠ none)
    (works : env.send srv.sends ≠ .failed) :
    ∃ srv', srv.sendCall env message = some srv' ∧ srv'.channel = srv.channel ∧
      srv'.sends = srv.sends + 1 ∧
      srv'.queuedBytes = srv.queuedBytes ++ encode message.1 message.2 := by
  have counts : ¬ (UInt32.ofNat message.2.length = 0 ∧ message.1 = .NONE) := by
    rintro ⟨zero, none⟩
    apply sound.counts
    refine ⟨?_, none⟩
    apply List.eq_nil_of_length_eq_zero
    rw [← sound.length_toNat, zero]
    rfl
  have sends : srv.sendCall env message =
      ((srv.queued message.1 message.2).sendBuf env).bind updateEvents := by
    rw [sendCall, send, if_neg counts, if_neg up]
    rfl
  have queued : (srv.queued message.1 message.2).queuedBytes = _ := queuedBytes_queued
  cases answer : env.send srv.sends with
  | accepted =>
    rw [sends, sendBuf_accepted outbuf_queued_ne_nil up answer]
    exact ⟨_, updateEvents_up up, rfl, rfl, queuedBytes_flushed.trans queued⟩
  | bufferFull =>
    rw [sends, sendBuf_full outbuf_queued_ne_nil up answer]
    exact ⟨_, updateEvents_up up, rfl, rfl, queued⟩
  | failed => exact absurd answer works

private theorem queues_calls {calls : List (MessageType × List UInt8)} (up : srv.channel ≠ none)
    (works : ∀ n, srv.sends ≤ n → n < srv.sends + calls.length → env.send n ≠ .failed)
    (small : ∀ call ∈ calls, call.2.length < 2 ^ 32 - 5) :
    ∃ srv', follow (sendCall env) calls srv = some srv' ∧
      srv'.queuedBytes =
        srv.queuedBytes ++ encodeAll (calls.filter fun call => !ignored call) := by
  induction calls generalizing srv with
  | nil => exact ⟨srv, rfl, (List.append_nil _).symm⟩
  | cons call calls ih =>
    have smaller : ∀ call' ∈ calls, call'.2.length < 2 ^ 32 - 5 :=
      fun call' mem => small call' (List.mem_cons_of_mem call mem)
    by_cases skipped : ignored call = true
    · have later : ∀ n, srv.sends ≤ n → n < srv.sends + calls.length → env.send n ≠ .failed := by
        intro n ge below
        apply works n ge
        rw [List.length_cons]
        omega
      obtain ⟨srv', sends, queued⟩ := ih up later smaller
      refine ⟨srv', ?_, ?_⟩
      · rw [follow, sendCall_ignored skipped]
        exact sends
      · rw [queued, List.filter_cons_of_neg (by simp [skipped])]
    · have sound : Sound call :=
        ⟨fun nothing => skipped (decide_eq_true nothing), small call List.mem_cons_self⟩
      have now : env.send srv.sends ≠ .failed := by
        apply works srv.sends le_rfl
        rw [List.length_cons]
        omega
      obtain ⟨srv₁, first, channel, tried, added⟩ := sendCall_queues sound up now
      have up₁ : srv₁.channel ≠ none := by
        rw [channel]
        exact up
      have later : ∀ n, srv₁.sends ≤ n → n < srv₁.sends + calls.length →
          env.send n ≠ .failed := by
        intro n ge below
        rw [tried] at ge below
        apply works n
        · omega
        · rw [List.length_cons]
          omega
      obtain ⟨srv', sends, queued⟩ := ih up₁ later smaller
      refine ⟨srv', ?_, ?_⟩
      · rw [follow, first]
        exact sends
      · rw [queued, added, List.filter_cons_of_pos (by simp [skipped]), encodeAll_cons,
          List.append_assoc]

/-- However the bytes that the server sends are cut into pieces, the client handles exactly the
messages that were sent: its loop ends for every piece, and nothing is thrown. -/
theorem client_decodes (size : SizeT) (memory : MessageType)
    (calls : List (MessageType × List UInt8)) (up : srv.channel ≠ none)
    (works : ∀ n, srv.sends ≤ n → n < srv.sends + calls.length → env.send n ≠ .failed)
    (small : ∀ call ∈ calls, call.2.length < 2 ^ 32 - 5) :
    ∃ srv', follow (sendCall env) calls srv = some srv' ∧
      ∀ (chunks : List (List UInt8)) (fuel : ℕ), chunks.flatten = srv.queuedBetween srv' →
        calls.length < fuel →
        let sent := calls.filter fun call => !ignored call
        ∃ cb, (RemoteexecCallback.new memory).receive size fuel chunks = some (.ok cb) ∧
          cb.handled = sent ∧ cb.shown = sent.map Report.of ∧
          cb.running = !(sent.any fun m => decide (m.1 = .ENDOFFILE)) ∧ cb.buf = [] := by
  obtain ⟨srv', sends, queued⟩ := queues_calls up works small
  refine ⟨srv', sends, ?_⟩
  intro chunks fuel cut enough sent
  have sound : ∀ message ∈ sent, Sound message := by
    intro message mem
    obtain ⟨call, counts⟩ := List.mem_filter.mp mem
    refine ⟨?_, small message call⟩
    intro nothing
    have skipped : ignored message = true := decide_eq_true nothing
    rw [skipped] at counts
    cases counts
  have reading : (RemoteexecCallback.new memory).Reading sent chunks.flatten := by
    refine ⟨?_, fun unread => absurd rfl unread⟩
    rw [cut, queuedBetween_append queued]
    rfl
  have waiting : (RemoteexecCallback.new memory).Waiting sent := by
    intro message ms _
    exact Nat.lt_of_lt_of_le (by decide : 0 < headerSize) (Nat.le_add_right _ _)
  have fewer : sent.length < fuel := lt_of_le_of_lt (List.length_filter_le _ _) enough
  obtain ⟨cb, receives, handled, empty⟩ := reading.receive waiting sound fewer
  refine ⟨cb, receives, handled.handled, handled.shown, ?_, empty⟩
  rw [handled.running]
  exact Bool.true_and _

/-- A command that says hello, with a call that `send` ignores. -/
theorem client_decodes_hello :
    let calls : List (MessageType × List UInt8) :=
      [(.STARTED, []), (.STDOUT, [104, 105, 10]), (.NONE, []), (.ENDOFFILE, exitText 0)]
    ∃ srv', follow (sendCall Env.fine) calls new.connected = some srv' ∧
      ∀ (chunks : List (List UInt8)) (fuel : ℕ),
        chunks.flatten = new.connected.queuedBetween srv' → 4 < fuel →
        ∃ cb, (RemoteexecCallback.new .NONE).receive .bits32 fuel chunks = some (.ok cb) ∧
          cb.handled = [(.STARTED, []), (.STDOUT, [104, 105, 10]), (.ENDOFFILE, exitText 0)] ∧
          cb.shown = [.received, .printed [104, 105, 10], .completed (exitText 0)] ∧
          cb.running = false ∧ cb.buf = [] :=
  client_decodes .bits32 .NONE
    [(.STARTED, []), (.STDOUT, [104, 105, 10]), (.NONE, []), (.ENDOFFILE, exitText 0)]
    (Option.some_ne_none _) (fun _ _ _ => SendResult.noConfusion) (by decide)

end S3TPServer

end Horst.S3tp
