import Horst.S3tp.Chronicle

/-!
The reassembly of frames from the chunks of a connection that stays up: which frame is
dispatched in which call, and with which type.
-/

set_option autoImplicit false
set_option relaxedAutoImplicit false

namespace Horst.S3tp

open Foundation Foundation.Framing

/-- Nothing outside the program fails; the channel may be full. -/
structure Env.Benign (env : Env) : Prop where
  send : ∀ j, env.send j ≠ .failed
  uvSpawn : ∀ j, env.uvSpawn j = true

/-- The callbacks on a connection that stays up while the process does not exit. -/
def Input.isSteady : Input → Bool
  | .data _ | .bufferFull | .bufferEmpty | .polled | .output _ _ => true
  | .disconnected | .exited _ _ | .handleClosed | .timeout => false

def Input.chunk? : Input → Option (List UInt8)
  | .data bytes => some bytes
  | _ => none

theorem Input.eq_data {input : Input} {bytes : List UInt8} (h : input.chunk? = some bytes) :
    input = .data bytes := by
  cases input with
  | data bytes' =>
    obtain rfl := Option.some.inj h
    rfl
  | _ => cases h

def chunks (inputs : List Input) : List (List UInt8) := inputs.filterMap Input.chunk?

namespace S3TPServer

variable {env : Env} {srv srv' srv'' : S3TPServer} {type : MessageType} {msg : List UInt8}

/-- The state of the reader is the same, and nothing was dispatched or closed. -/
structure Undisturbed (srv srv' : S3TPServer) : Prop where
  channel : srv'.channel = srv.channel
  buf : srv'.buf = srv.buf
  expected : srv'.expected = srv.expected
  calls : srv'.calls = srv.calls
  process : srv'.process.isSome = srv.process.isSome
  dispatched : srv'.dispatched = srv.dispatched
  closes : srv'.closes = srv.closes

theorem Undisturbed.refl : Undisturbed srv srv := ⟨rfl, rfl, rfl, rfl, rfl, rfl, rfl⟩

theorem Undisturbed.trans (h : Undisturbed srv srv') (h' : Undisturbed srv' srv'') :
    Undisturbed srv srv'' where
  channel := h'.channel.trans h.channel
  buf := h'.buf.trans h.buf
  expected := h'.expected.trans h.expected
  calls := h'.calls.trans h.calls
  process := h'.process.trans h.process
  dispatched := h'.dispatched.trans h.dispatched
  closes := h'.closes.trans h.closes

private theorem undisturbed_stopOutput : Undisturbed srv srv.stopOutput :=
  ⟨rfl, rfl, rfl, rfl, by simp [stopOutput], rfl, rfl⟩

private theorem undisturbed_startOutput : Undisturbed srv srv.startOutput :=
  ⟨rfl, rfl, rfl, rfl, by simp [startOutput], rfl, rfl⟩

private theorem undisturbed_flushed : Undisturbed srv srv.flushed := by
  refine ⟨rfl, rfl, rfl, rfl, rfl, quiet_flushed.dispatched, ?_⟩
  rw [closes, flushed, List.count_append, List.count_cons_of_ne (by simp)]
  split
  · simp [closes]
  · simp [closes]

private theorem sendBuf_benign (benign : env.Benign) (up : srv.channel ≠ none) :
    ∃ srv', srv.sendBuf env = some srv' ∧ Undisturbed srv srv' := by
  by_cases pending : srv.outbuf = []
  · exact ⟨srv, sendBuf_idle pending, .refl⟩
  · cases answer : env.send srv.sends with
    | bufferFull =>
      refine ⟨_, sendBuf_full pending up answer, ?_⟩
      have tried : Undisturbed srv srv.tried := ⟨rfl, rfl, rfl, rfl, rfl, rfl, rfl⟩
      exact tried.trans undisturbed_stopOutput
    | accepted => exact ⟨_, sendBuf_accepted pending up answer, undisturbed_flushed⟩
    | failed => exact absurd answer (benign.send srv.sends)

private theorem send_benign (benign : env.Benign) (up : srv.channel ≠ none) (counts : type ≠ .NONE)
    (msg : List UInt8) :
    ∃ srv', srv.send env msg type = some srv' ∧ Undisturbed srv srv' := by
  have queued : Undisturbed srv (srv.queued type msg) := ⟨rfl, rfl, rfl, rfl, rfl, rfl, rfl⟩
  have upQueued : (srv.queued type msg).channel ≠ none := up
  obtain ⟨srv', sends, undisturbed⟩ := sendBuf_benign benign upQueued
  have up' : srv'.channel ≠ none := by
    rw [undisturbed.channel]
    exact up
  refine ⟨srv', ?_, queued.trans undisturbed⟩
  rw [send_up up counts, sends, Option.bind_some, updateEvents_up up']

private theorem next_benign (benign : env.Benign) (up : srv.channel ≠ none) {input : Input}
    (steady : input.isSteady = true) (other : input.chunk? = none) :
    ∃ srv', srv.next env input = some srv' ∧ Undisturbed srv srv' := by
  cases input with
  | data bytes => cases other
  | bufferFull => exact ⟨_, rfl, undisturbed_stopOutput⟩
  | bufferEmpty =>
    have upStarted : srv.startOutput.channel ≠ none := up
    obtain ⟨srv', sends, undisturbed⟩ := sendBuf_benign benign upStarted
    exact ⟨srv', sends, undisturbed_startOutput.trans undisturbed⟩
  | polled => exact ⟨srv, onS3tpEvent_eq env srv, .refl⟩
  | output stdout bytes =>
    by_cases comes : srv.process.any Process.reading = true ∧ bytes ≠ []
    · have counts : (if stdout = true then MessageType.STDOUT else .STDERR) ≠ .NONE := by
        cases stdout <;> decide
      obtain ⟨srv', sends, undisturbed⟩ := send_benign benign up counts bytes
      exact ⟨srv', (if_pos comes).trans sends, undisturbed⟩
    · exact ⟨srv, if_neg comes, .refl⟩
  | _ => cases steady

private theorem startProcess_benign (benign : env.Benign) (up : srv.channel ≠ none)
    (command : List UInt8) :
    ∃ srv', srv.startProcess env command = some srv' ∧ srv'.process.isSome = true ∧
      Undisturbed { srv.asked command with process := srv'.process } srv' := by
  have spawned : env.uvSpawn srv.spawns = true := benign.uvSpawn srv.spawns
  set adopted : S3TPServer :=
    { srv.asked command with process := some ⟨command, .running, true, [], false⟩ }
  have upAdopted : adopted.channel ≠ none := up
  obtain ⟨srv₁, sends, undisturbed⟩ :=
    send_benign benign upAdopted (by decide : MessageType.STARTED ≠ .NONE) []
  have started := undisturbed.trans undisturbed_startOutput
  refine ⟨srv₁.startOutput, ?_, started.process, ?_⟩
  · rw [startProcess_eq]
    simp only [spawned, if_true, Option.bind_some]
    rw [adopt, sends, Option.bind_some]
  · exact
      { channel := started.channel
        buf := started.buf
        expected := started.expected
        calls := started.calls
        process := rfl
        dispatched := started.dispatched
        closes := started.closes }

end S3TPServer

def stream (fs : List Frame) : List UInt8 := (fs.map Frame.bytes).flatten

private theorem stream_cons
    (f : Frame) (fs : List Frame) : stream (f :: fs) = f.bytes ++ stream fs := by
  rw [stream, List.map_cons, List.flatten_cons]
  rfl

/-- What a frame is taken for that was completed as an entry of the timetable says: only the call
that reads the header knows the type. -/
def taken (garbage : ℕ → MessageType) (f : Frame) (entry : ℕ × Bool) :
    MessageType × List UInt8 :=
  (if entry.2 = true then f.type else garbage entry.1, f.payload)

def requests (running : Bool) (messages : List (MessageType × List UInt8)) : List Dispatch :=
  if running = true then messages.map fun message => Dispatch.stdin message.1 message.2
  else meaning messages

private theorem requests_nil (running : Bool) : requests running [] = [] := by
  cases running <;> rfl

private theorem requests_cons (running : Bool) (message : MessageType × List UInt8)
    (messages : List (MessageType × List UInt8)) :
    requests running (message :: messages) =
      requests running [message] ++ requests true messages := by
  cases running <;> rfl

namespace S3TPServer

variable {env : Env} {srv srv' : S3TPServer} {f : Frame} {fs : List Frame}
  {bytes bytesLeft : List UInt8} {headerRead : Bool}

/-- Between two calls: the frames `fs` were not dispatched yet, and of their bytes some are in
the buffer and the others still to come. Of the first frame the header was read, or not. -/
structure Reading (fs : List Frame) (bytesLeft : List UInt8) (headerRead : Bool)
    (srv : S3TPServer) : Prop where
  up : srv.channel ≠ none
  bytes : srv.buf ++ bytesLeft = stream fs
  unread : headerRead = false → srv.expected = 0
  read : headerRead = true → headerSize ≤ srv.buf.length ∧
    ∃ f rest, fs = f :: rest ∧ srv.expected = UInt32.ofNat f.payload.length

theorem Undisturbed.reading (h : Undisturbed srv srv')
    (reading : Reading fs bytesLeft headerRead srv) : Reading fs bytesLeft headerRead srv' where
  up := by
    rw [h.channel]
    exact reading.up
  bytes := by
    rw [h.buf]
    exact reading.bytes
  unread := by
    rw [h.expected]
    exact reading.unread
  read := by
    rw [h.expected, h.buf]
    exact reading.read

theorem Reading.front (reading : Reading (f :: fs) (bytes ++ bytesLeft) headerRead srv) :
    srv.buf ++ bytes ++ bytesLeft = f.bytes ++ stream fs := by
  rw [List.append_assoc, reading.bytes, stream_cons]

theorem Reading.header_eq (reading : Reading (f :: fs) (bytes ++ bytesLeft) headerRead srv)
    (long : headerSize ≤ (srv.buf ++ bytes).length) :
    srv.header bytes = UInt32.ofNat f.payload.length := by
  have four : 4 ≤ (srv.buf ++ bytes).length := le_trans (by decide) long
  have first : ofBytes (srv.buf ++ bytes) = UInt32.ofNat f.payload.length := by
    rw [← ofBytes_append four bytesLeft, reading.front]
    exact ofBytes_encode f.type f.payload _
  rw [header]
  cases headerRead with
  | false => rw [if_pos (reading.unread rfl), first]
  | true =>
    obtain ⟨_, f', rest, same, expected⟩ := reading.read rfl
    obtain ⟨rfl, rfl⟩ := List.cons.inj same
    rw [if_neg (by rw [expected]; exact f.length_ne_zero), expected]

private theorem Reading.typeRead_eq
    (reading : Reading (f :: fs) (bytes ++ bytesLeft) headerRead srv)
    (long : headerSize ≤ (srv.buf ++ bytes).length) :
    (srv.typeRead env bytes, f.payload) = taken env.garbage f (srv.calls, !headerRead) := by
  rw [typeRead, taken]
  cases headerRead with
  | false =>
    have tag : (srv.buf ++ bytes).getD 4 0 = (srv.buf ++ bytes ++ bytesLeft).getD 4 0 := by
      have fifth : 4 < (srv.buf ++ bytes).length := long
      rw [List.getD_eq_getElem?_getD, List.getD_eq_getElem?_getD, List.getElem?_append_left fifth]
    rw [if_pos (reading.unread rfl), tag, reading.front]
    rfl
  | true =>
    obtain ⟨_, f', rest, same, expected⟩ := reading.read rfl
    obtain ⟨rfl, rfl⟩ := List.cons.inj same
    rw [if_neg (by rw [expected]; exact f.length_ne_zero)]
    rfl

private theorem Reading.payload_eq (reading : Reading (f :: fs) (bytes ++ bytesLeft) headerRead srv)
    (whole : f.size ≤ (srv.buf ++ bytes).length) : (srv.headed bytes).payload = f.payload := by
  have long : headerSize ≤ (srv.buf ++ bytes).length := le_trans (Nat.le_add_right _ _) whole
  have enough : f.payload.length ≤ ((srv.buf ++ bytes).drop headerSize).length := by
    rw [List.length_drop]
    rw [Frame.size] at whole
    omega
  calc (srv.headed bytes).payload
      = ((srv.buf ++ bytes).drop headerSize).take (srv.header bytes).toNat := rfl
    _ = ((srv.buf ++ bytes).drop headerSize).take f.payload.length := by
        rw [reading.header_eq long, f.length_toNat]
    _ = ((srv.buf ++ bytes ++ bytesLeft).drop headerSize).take f.payload.length := by
        rw [List.drop_append_of_le_length long, List.take_append_of_le_length enough]
    _ = f.payload := by
        rw [reading.front, f.payload_bytes]

private theorem Reading.rest_eq (reading : Reading (f :: fs) (bytes ++ bytesLeft) headerRead srv)
    (whole : f.size ≤ (srv.buf ++ bytes).length) :
    (srv.buf ++ bytes).drop f.size ++ bytesLeft = stream fs := by
  rw [← List.drop_append_of_le_length whole, reading.front, f.drop_bytes]

theorem Reading.short (reading : Reading fs (bytes ++ bytesLeft) headerRead srv) :
    Reading fs bytesLeft headerRead (srv.arrived bytes) where
  up := reading.up
  bytes := (List.append_assoc _ _ _).trans reading.bytes
  unread := reading.unread
  read := by
    intro h
    obtain ⟨long, first⟩ := reading.read h
    have longer : srv.buf.length ≤ (srv.buf ++ bytes).length := by simp
    exact ⟨le_trans long longer, first⟩

theorem Reading.more (reading : Reading (f :: fs) (bytes ++ bytesLeft) headerRead srv)
    (long : headerSize ≤ (srv.buf ++ bytes).length) :
    Reading (f :: fs) bytesLeft true (srv.headed bytes) where
  up := reading.up
  bytes := (List.append_assoc _ _ _).trans reading.bytes
  unread := by simp
  read _ := ⟨long, f, fs, rfl, reading.header_eq long⟩

theorem dispatched_arrived : (srv.arrived bytes).dispatched = srv.dispatched := by
  rw [dispatched, arrived, log_record, List.filterMap_append]
  simp [LogEntry.dispatch?, dispatched]

theorem closes_arrived : (srv.arrived bytes).closes = srv.closes := by
  rw [closes, arrived, log_record, List.count_append]
  simp [closes]

theorem dispatched_record {c : Option ℕ} {dispatch : Dispatch} :
    (srv.record (.dispatched c dispatch)).dispatched = srv.dispatched ++ [dispatch] := by
  rw [dispatched, log_record, List.filterMap_append]
  rfl

private theorem closes_dispatched {c : Option ℕ} {dispatch : Dispatch} :
    (srv.record (.dispatched c dispatch)).closes = srv.closes := by
  rw [closes, log_record, List.count_append]
  simp [closes]

private theorem dispatch_benign
    (benign : env.Benign) (up : srv.channel ≠ none) (type : MessageType) :
    ∃ srv', srv.dispatch env type = some srv' ∧ srv'.process.isSome = true ∧
      srv'.channel = srv.channel ∧ srv'.buf = srv.buf ∧ srv'.expected = srv.expected ∧
      srv'.calls = srv.calls ∧ srv'.closes = srv.closes ∧
      srv'.dispatched = srv.dispatched ++ requests srv.process.isSome [(type, srv.payload)] := by
  cases hp : srv.process with
  | some process =>
    refine ⟨_, dispatch_running hp, rfl, rfl, rfl, rfl, rfl, closes_dispatched, ?_⟩
    exact dispatched_record
  | none =>
    obtain ⟨srv', starts, running, undisturbed⟩ := startProcess_benign benign up srv.payload
    refine ⟨srv', (dispatch_idle hp).trans starts, running, undisturbed.channel,
      undisturbed.buf, undisturbed.expected, undisturbed.calls, ?_, ?_⟩
    · exact undisturbed.closes.trans closes_dispatched
    · exact undisturbed.dispatched.trans dispatched_record

theorem Reading.complete (benign : env.Benign)
    (reading : Reading (f :: fs) (bytes ++ bytesLeft) headerRead srv)
    (whole : f.size ≤ (srv.buf ++ bytes).length) :
    ∃ srv', srv.onDataReceived env bytes = some srv' ∧ Reading fs bytesLeft false srv' ∧
      srv'.process.isSome = true ∧ srv'.buf.length = (srv.buf ++ bytes).length - f.size ∧
      srv'.calls = srv.calls + 1 ∧ srv'.closes = srv.closes ∧
      srv'.dispatched = srv.dispatched ++
        requests srv.process.isSome [taken env.garbage f (srv.calls, !headerRead)] := by
  have long : headerSize ≤ (srv.buf ++ bytes).length := le_trans (Nat.le_add_right _ _) whole
  have length : srv.header bytes = UInt32.ofNat f.payload.length := reading.header_eq long
  have completes : srv.Completes bytes := by
    refine ⟨long, ?_, ?_⟩
    · rw [length]
      exact f.length_ne_zero
    · rw [length, f.length_toNat]
      exact whole
  have upHeaded : (srv.headed bytes).channel ≠ none := reading.up
  obtain ⟨srv₁, dispatches, running, channel, buf, expected, calls, closes, dispatched⟩ :=
    dispatch_benign benign upHeaded (srv.typeRead env bytes)
  have erased : srv₁.eraseFrame.buf = (srv.buf ++ bytes).drop f.size := by
    rw [eraseFrame, buf, expected]
    show (srv.buf ++ bytes).drop (headerSize + (srv.header bytes).toNat) = _
    rw [length, f.length_toNat]
    rfl
  refine ⟨srv₁.eraseFrame, ?_, ?_, running, ?_, calls, ?_, ?_⟩
  · rw [receive_complete completes, dispatches, Option.bind_some]
  · exact
      { up := by
          show srv₁.channel ≠ none
          rw [channel]
          exact reading.up
        bytes := by
          rw [erased]
          exact reading.rest_eq whole
        unread := fun _ => rfl
        read := by simp }
  · rw [erased, List.length_drop]
  · exact closes.trans closes_arrived
  · rw [reading.payload_eq whole, reading.typeRead_eq long] at dispatched
    exact dispatched.trans (congrArg (· ++ _) dispatched_arrived)

/-- The callbacks dispatch the frames of the table, each once, and close nothing. -/
def Reads (env : Env) (fs : List Frame) (bytesLeft : List UInt8) (inputs : List Input)
    (table : List (ℕ × Bool)) (srv : S3TPServer) : Prop :=
  ∃ srv' headerRead', follow (next env) inputs srv = some srv' ∧
    Reading (fs.drop table.length) bytesLeft headerRead' srv' ∧ srv'.closes = srv.closes ∧
    srv'.dispatched = srv.dispatched ++
      requests srv.process.isSome (List.zipWith (taken env.garbage) fs table)

section Reads

variable {input : Input} {inputs : List Input} {table : List (ℕ × Bool)} {srv₁ : S3TPServer}

private theorem Reads.skip (rest : Reads env fs bytesLeft inputs table srv₁)
    (first : next env srv input = some srv₁) (closes₁ : srv₁.closes = srv.closes)
    (dispatched₁ : srv₁.dispatched = srv.dispatched)
    (process₁ : srv₁.process.isSome = srv.process.isSome) :
    Reads env fs bytesLeft (input :: inputs) table srv := by
  obtain ⟨srv', headerRead', follows, reading, closes, dispatched⟩ := rest
  refine ⟨srv', headerRead', ?_, reading, closes.trans closes₁, ?_⟩
  · rw [follow, first, Option.bind_some, follows]
  · rw [dispatched, dispatched₁, process₁]

theorem Reads.complete (rest : Reads env fs bytesLeft inputs table srv₁)
    (first : next env srv input = some srv₁) (closes₁ : srv₁.closes = srv.closes)
    (running : srv₁.process.isSome = true) {entry : ℕ × Bool}
    (dispatched₁ : srv₁.dispatched =
      srv.dispatched ++ requests srv.process.isSome [taken env.garbage f entry]) :
    Reads env (f :: fs) bytesLeft (input :: inputs) (entry :: table) srv := by
  obtain ⟨srv', headerRead', follows, reading, closes, dispatched⟩ := rest
  refine ⟨srv', headerRead', ?_, ?_, closes.trans closes₁, ?_⟩
  · rw [follow, first, Option.bind_some, follows]
  · rw [List.length_cons, List.drop_succ_cons]
    exact reading
  · rw [dispatched, dispatched₁, running, List.zipWith_cons_cons, List.append_assoc,
      ← requests_cons]

end Reads

theorem Reading.receive_more (reading : Reading (f :: fs) (bytes ++ bytesLeft) headerRead srv)
    (long : headerSize ≤ (srv.buf ++ bytes).length) (more : (srv.buf ++ bytes).length < f.size) :
    srv.onDataReceived env bytes = some (srv.headed bytes) := by
  have header : srv.header bytes = _ := reading.header_eq long
  refine S3TPServer.receive_more long ?_ ?_
  · rw [header]
    exact f.length_ne_zero
  · rw [header, f.length_toNat]
    exact more

/-- What a steady connection makes of its chunks: the frames are dispatched in their order, as
many and with the types that the timetable of the sizes says. -/
theorem Reading.run (benign : env.Benign) {inputs : List Input}
    (steady : ∀ input ∈ inputs, input.isSteady = true)
    (reading : Reading fs ((chunks inputs).flatten ++ bytesLeft) headerRead srv)
    {table : List (ℕ × Bool)}
    (schedule : table = timetable (fs.map Frame.size) srv.buf.length headerRead srv.calls
      ((chunks inputs).map List.length)) :
    Reads env fs bytesLeft inputs table srv := by
  induction inputs generalizing fs srv headerRead table with
  | nil =>
    have empty : table = [] := schedule
    rw [empty]
    refine ⟨srv, headerRead, rfl, reading, rfl, ?_⟩
    rw [List.zipWith_nil_right, requests_nil, List.append_nil]
  | cons input inputs ih =>
    have steadyRest : ∀ input ∈ inputs, input.isSteady = true :=
      fun input' mem => steady input' (List.mem_cons_of_mem input mem)
    cases chunk : input.chunk? with
    | none =>
      have same : chunks (input :: inputs) = chunks inputs := List.filterMap_cons_none chunk
      rw [same] at reading schedule
      obtain ⟨srv₁, first, undisturbed⟩ :=
        next_benign benign reading.up (steady input List.mem_cons_self) chunk
      rw [← undisturbed.buf, ← undisturbed.calls] at schedule
      have rest := ih steadyRest (undisturbed.reading reading) schedule
      exact rest.skip first undisturbed.closes undisturbed.dispatched undisturbed.process
    | some bytes =>
      obtain rfl := Input.eq_data chunk
      have more : chunks (.data bytes :: inputs) = bytes :: chunks inputs :=
        List.filterMap_cons_some chunk
      rw [more, List.flatten_cons, List.append_assoc] at reading
      rw [more, List.map_cons] at schedule
      have length : (srv.buf ++ bytes).length = srv.buf.length + bytes.length :=
        List.length_append
      by_cases short : srv.buf.length + bytes.length < headerSize
      · -- not even a header
        rw [timetable_short short, ← length] at schedule
        have rest := ih steadyRest reading.short schedule
        have first : srv.onDataReceived env bytes = some (srv.arrived bytes) :=
          receive_short (by rw [length]; exact short)
        exact rest.skip first closes_arrived dispatched_arrived rfl
      · have long : headerSize ≤ srv.buf.length + bytes.length := not_lt.mp short
        cases fs with
        | nil =>
          have nothing : (srv.buf ++ (bytes ++ ((chunks inputs).flatten ++ bytesLeft))).length =
              0 := congrArg List.length reading.bytes
          rw [headerSize] at long
          rw [List.length_append, List.length_append] at nothing
          omega
        | cons f fs =>
          rw [List.map_cons] at schedule
          by_cases whole : f.size ≤ srv.buf.length + bytes.length
          · -- the first frame is complete
            obtain ⟨srv₁, first, reading₁, running, left, calls, closes₁, dispatched₁⟩ :=
              reading.complete benign (by rw [length]; exact whole)
            rw [timetable_complete long whole, ← length, ← left, ← calls] at schedule
            have rest := ih steadyRest reading₁ rfl
            have received : next env srv (.data bytes) = some srv₁ := first
            rw [schedule]
            exact rest.complete received closes₁ running dispatched₁
          · -- a header, but not the whole frame
            have more : srv.buf.length + bytes.length < f.size := not_le.mp whole
            rw [timetable_more long more, ← length] at schedule
            rw [← length] at long more
            have rest := ih steadyRest (reading.more long) schedule
            exact rest.skip (reading.receive_more long more) closes_arrived dispatched_arrived rfl

end S3TPServer

section Agreement

variable {fs : List Frame} {table table₁ table₂ : List (ℕ × Bool)}
  {garbage garbage₁ garbage₂ : ℕ → MessageType}

private theorem zipWith_taken (timely : ∀ entry ∈ table, entry.2 = true) :
    List.zipWith (taken garbage) fs table =
      (fs.take table.length).map fun f => (f.type, f.payload) := by
  induction fs generalizing table with
  | nil => simp
  | cons f fs ih =>
    cases table with
    | nil => rfl
    | cons entry table =>
      have first : taken garbage f entry = (f.type, f.payload) := by
        rw [taken, if_pos (timely entry List.mem_cons_self)]
      have rest := ih fun entry' mem => timely entry' (List.mem_cons_of_mem entry mem)
      rw [List.zipWith_cons_cons, first, rest, List.length_cons, List.take_succ_cons,
        List.map_cons]

private theorem timely_of_agree (le : table.length ≤ fs.length)
    (agree : requests true (List.zipWith (taken fun _ => .ENDOFFILE) fs table) =
      requests true (List.zipWith (taken fun _ => .NONE) fs table)) :
    ∀ entry ∈ table, entry.2 = true := by
  induction table generalizing fs with
  | nil => simp
  | cons entry table ih =>
    cases fs with
    | nil => simp at le
    | cons f fs =>
      obtain ⟨first, rest⟩ := List.cons.inj agree
      have fresh : entry.2 = true := by
        by_contra stale
        have other : MessageType.NONE ≠ .ENDOFFILE := by decide
        simp [taken, stale, Dispatch.stdin, other] at first
      intro entry' mem
      rcases List.mem_cons.mp mem with rfl | later
      · exact fresh
      · exact ih (Nat.le_of_succ_le_succ le) rest entry' later

private theorem meaning_length (messages : List (MessageType × List UInt8)) :
    (meaning messages).length = messages.length := by
  cases messages with
  | nil => rfl
  | cons message messages => simp [meaning]

/-- The command of a connection is dispatched without regard to its type. -/
theorem meaning_taken (timely : ∀ entry ∈ table.tail, entry.2 = true) :
    meaning (List.zipWith (taken garbage) fs table) =
      meaning ((fs.take table.length).map fun f => (f.type, f.payload)) := by
  cases table with
  | nil => simp
  | cons entry table =>
    cases fs with
    | nil => rfl
    | cons f fs =>
      rw [List.tail_cons] at timely
      rw [List.zipWith_cons_cons, zipWith_taken timely]
      rfl

private theorem tail_timely (le : table.length ≤ fs.length)
    (agree : meaning (List.zipWith (taken fun _ => .ENDOFFILE) fs table) =
      meaning (List.zipWith (taken fun _ => .NONE) fs table)) :
    ∀ entry ∈ table.tail, entry.2 = true := by
  cases table with
  | nil => simp
  | cons entry table =>
    cases fs with
    | nil => simp at le
    | cons f fs =>
      obtain ⟨_, rest⟩ := List.cons.inj agree
      exact timely_of_agree (Nat.le_of_succ_le_succ le) rest

private theorem agree_iff (le₁ : table₁.length ≤ fs.length) (le₂ : table₂.length ≤ fs.length) :
    (∀ garbage₁ garbage₂, meaning (List.zipWith (taken garbage₁) fs table₁) =
        meaning (List.zipWith (taken garbage₂) fs table₂)) ↔
      table₁.length = table₂.length ∧ (∀ entry ∈ table₁.tail, entry.2 = true) ∧
        ∀ entry ∈ table₂.tail, entry.2 = true := by
  have count (garbage : ℕ → MessageType) {table : List (ℕ × Bool)}
      (le : table.length ≤ fs.length) :
      (meaning (List.zipWith (taken garbage) fs table)).length = table.length := by
    rw [meaning_length, List.length_zipWith]
    exact min_eq_right le
  constructor
  · intro agree
    have length := congrArg List.length (agree (fun _ => .NONE) fun _ => .NONE)
    rw [count _ le₁, count _ le₂] at length
    refine ⟨length, tail_timely le₁ ?_, tail_timely le₂ ?_⟩
    · exact (agree (fun _ => .ENDOFFILE) fun _ => .NONE).trans
        (agree (fun _ => .NONE) fun _ => .NONE).symm
    · exact (agree (fun _ => .NONE) fun _ => .ENDOFFILE).symm.trans
        (agree (fun _ => .NONE) fun _ => .NONE)
  · rintro ⟨length, timely₁, timely₂⟩ garbage₁ garbage₂
    rw [meaning_taken timely₁, meaning_taken timely₂, length]

end Agreement

namespace Env

/-- The same environment with other memory in the local variables. -/
def withGarbage (env : Env) (garbage : ℕ → MessageType) : Env := { env with garbage := garbage }

private theorem Benign.withGarbage {env : Env} (benign : env.Benign) (garbage : ℕ → MessageType) :
    (env.withGarbage garbage).Benign :=
  ⟨benign.send, benign.uvSpawn⟩

end Env

namespace S3TPServer

structure Fresh (srv : S3TPServer) : Prop where
  up : srv.channel ≠ none
  idle : srv.process = none
  buf : srv.buf = []
  expected : srv.expected = 0

variable {env : Env} {srv : S3TPServer} {fs : List Frame}

def schedule (fs : List Frame) (inputs : List Input) (srv : S3TPServer) : List (ℕ × Bool) :=
  timetable (fs.map Frame.size) 0 false srv.calls ((chunks inputs).map List.length)

private theorem schedule_length_le (inputs : List Input) :
    (schedule fs inputs srv).length ≤ fs.length := by
  have le : (schedule fs inputs srv).length ≤ (fs.map Frame.size).length := timetable_length_le
  rwa [List.length_map] at le

theorem Fresh.run (fresh : srv.Fresh) (benign : env.Benign) {inputs : List Input}
    (steady : ∀ input ∈ inputs, input.isSteady = true) {bytesLeft : List UInt8}
    (cut : (chunks inputs).flatten ++ bytesLeft = stream fs) :
    ∃ srv' headerRead', follow (next env) inputs srv = some srv' ∧
      Reading (fs.drop (schedule fs inputs srv).length) bytesLeft headerRead' srv' ∧
      srv'.closes = srv.closes ∧
      srv'.dispatched = srv.dispatched ++
        meaning (List.zipWith (taken env.garbage) fs (schedule fs inputs srv)) := by
  have reading : Reading fs ((chunks inputs).flatten ++ bytesLeft) false srv :=
    { up := fresh.up
      bytes := by
        rw [fresh.buf, List.nil_append, cut]
      unread := fun _ => fresh.expected
      read := by simp }
  have table : schedule fs inputs srv = timetable (fs.map Frame.size) srv.buf.length false
      srv.calls ((chunks inputs).map List.length) := by
    rw [fresh.buf]
    rfl
  obtain ⟨srv', headerRead', follows, reading', closes, dispatched⟩ :=
    reading.run benign steady table
  refine ⟨srv', headerRead', follows, reading', closes, ?_⟩
  rw [dispatched, fresh.idle]
  rfl

/-- Two runs from one state dispatch the same, whatever the local variables hold in them. -/
def SameDispatches (env₁ env₂ : Env) (inputs₁ inputs₂ : List Input) (srv : S3TPServer) : Prop :=
  ∀ garbage₁ garbage₂, ∃ srv₁ srv₂,
    follow (next (env₁.withGarbage garbage₁)) inputs₁ srv = some srv₁ ∧
    follow (next (env₂.withGarbage garbage₂)) inputs₂ srv = some srv₂ ∧
    srv₁.dispatched = srv₂.dispatched

/-- The way in which the bytes of a connection are cut into chunks does not matter, if and only
if equally many frames are completed, and from the second on each of them in the very call
that reads its header. -/
theorem chunking_iff {env₁ env₂ : Env} (benign₁ : env₁.Benign) (benign₂ : env₂.Benign)
    (fresh : srv.Fresh) {inputs₁ inputs₂ : List Input}
    (steady₁ : ∀ input ∈ inputs₁, input.isSteady = true)
    (steady₂ : ∀ input ∈ inputs₂, input.isSteady = true)
    (cut₁ : (chunks inputs₁).flatten = stream fs) (cut₂ : (chunks inputs₂).flatten = stream fs) :
    SameDispatches env₁ env₂ inputs₁ inputs₂ srv ↔
      (schedule fs inputs₁ srv).length = (schedule fs inputs₂ srv).length ∧
      (∀ entry ∈ (schedule fs inputs₁ srv).tail, entry.2 = true) ∧
      ∀ entry ∈ (schedule fs inputs₂ srv).tail, entry.2 = true := by
  have all₁ : (chunks inputs₁).flatten ++ [] = stream fs := by rw [List.append_nil, cut₁]
  have all₂ : (chunks inputs₂).flatten ++ [] = stream fs := by rw [List.append_nil, cut₂]
  rw [← agree_iff (schedule_length_le inputs₁) (schedule_length_le inputs₂)]
  constructor
  · intro same garbage₁ garbage₂
    obtain ⟨srv₁, srv₂, follows₁, follows₂, dispatched⟩ := same garbage₁ garbage₂
    obtain ⟨srv₁', _, follows₁', _, _, dispatched₁⟩ :=
      fresh.run (benign₁.withGarbage garbage₁) steady₁ all₁
    obtain ⟨srv₂', _, follows₂', _, _, dispatched₂⟩ :=
      fresh.run (benign₂.withGarbage garbage₂) steady₂ all₂
    obtain rfl := Option.some.inj (follows₁.symm.trans follows₁')
    obtain rfl := Option.some.inj (follows₂.symm.trans follows₂')
    rw [dispatched₁, dispatched₂] at dispatched
    exact List.append_cancel_left dispatched
  · intro agree garbage₁ garbage₂
    obtain ⟨srv₁, _, follows₁, _, _, dispatched₁⟩ :=
      fresh.run (benign₁.withGarbage garbage₁) steady₁ all₁
    obtain ⟨srv₂, _, follows₂, _, _, dispatched₂⟩ :=
      fresh.run (benign₂.withGarbage garbage₂) steady₂ all₂
    refine ⟨srv₁, srv₂, follows₁, follows₂, ?_⟩
    rw [dispatched₁, dispatched₂]
    exact congrArg (_ ++ ·) (agree garbage₁ garbage₂)

theorem fresh_connected (idle : srv.process = none) : srv.connected.Fresh :=
  ⟨Option.some_ne_none _, idle, rfl, rfl⟩

theorem benign_fine : Env.fine.Benign := ⟨by simp [Env.fine], fun _ => rfl⟩

/-- A header that comes apart from its frame does no harm where the frame is the command. -/
theorem chunking_iff_split :
    let cat : Frame := ⟨.NONE, [99, 97, 116, 10], by decide, by decide⟩
    let ls : Frame := ⟨.STDIN, [108, 115, 10], by decide, by decide⟩
    let inputs₁ := [Input.data cat.bytes, Input.data ls.bytes]
    let inputs₂ := [Input.data (cat.bytes.take 6), .data (cat.bytes.drop 6), .data ls.bytes]
    SameDispatches Env.fine Env.fine inputs₁ inputs₂ new.connected ↔
      (schedule [cat, ls] inputs₁ new.connected).length =
        (schedule [cat, ls] inputs₂ new.connected).length ∧
      (∀ entry ∈ (schedule [cat, ls] inputs₁ new.connected).tail, entry.2 = true) ∧
      ∀ entry ∈ (schedule [cat, ls] inputs₂ new.connected).tail, entry.2 = true := by
  intro cat ls inputs₁ inputs₂
  exact chunking_iff benign_fine benign_fine (fresh_connected rfl) (by decide) (by decide)
    (by decide) (by decide)

/-- The second of two frames that come in one chunk stays in the buffer. -/
theorem coalesced_frames :
    ¬ ∀ (env₁ env₂ : Env) (srv : S3TPServer) (fs : List Frame) (inputs₁ inputs₂ : List Input),
      env₁.Benign → env₂.Benign → srv.Fresh →
      (∀ input ∈ inputs₁, input.isSteady = true) → (∀ input ∈ inputs₂, input.isSteady = true) →
      (chunks inputs₁).flatten = stream fs → (chunks inputs₂).flatten = stream fs →
        SameDispatches env₁ env₂ inputs₁ inputs₂ srv := by
  intro claim
  let cat : Frame := ⟨.NONE, [99, 97, 116, 10], by decide, by decide⟩
  let ls : Frame := ⟨.STDIN, [108, 115, 10], by decide, by decide⟩
  obtain ⟨srv₁, srv₂, follows₁, follows₂, same⟩ := claim Env.fine Env.fine new.connected [cat, ls]
    [.data cat.bytes, .data ls.bytes] [.data (cat.bytes ++ ls.bytes)] benign_fine benign_fine
    (fresh_connected rfl) (by decide) (by decide) (by decide) (by decide)
    (fun _ => .NONE) fun _ => .NONE
  have differ : (follow (next (Env.fine.withGarbage fun _ => .NONE))
        [.data cat.bytes, .data ls.bytes] new.connected).map dispatched ≠
      (follow (next (Env.fine.withGarbage fun _ => .NONE))
        [.data (cat.bytes ++ ls.bytes)] new.connected).map dispatched := by
    decide +kernel
  rw [follows₁, follows₂] at differ
  exact differ (congrArg some same)

end S3TPServer

end Horst.S3tp
