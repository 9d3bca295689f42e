import Horst.S3tp.Reassembly

/-!
The client `remoteexec`: the frames that it writes, and what the server makes of them.
-/

set_option autoImplicit false
set_option relaxedAutoImplicit false

namespace Horst.S3tp

open Foundation Foundation.Framing

namespace Remoteexec

/-- The loop of `main` over its arguments, with a blank before each but the first. -/
def commandLine : List (List UInt8) → List UInt8
  | [] => []
  | arg :: args => args.foldl (fun command arg => command ++ [32] ++ arg) arg

/-- What `read` put into a buffer of `1<<16` bytes; nothing means the end of the input. -/
structure Read where
  bytes : List UInt8
  le : bytes.length ≤ 1 <<< 16

/-- The messages of the loop of `main`, which reads nothing more after the end of the input. -/
def stdinLoop : List Read → List (MessageType × List UInt8)
  | [] => []
  | r :: reads =>
      if r.bytes = [] then [(.ENDOFFILE, [])] else (.STDIN, r.bytes) :: stdinLoop reads

/-- The messages of `main`, which is given at least one argument (without any it only tells its
usage): the command with a line end, and then the input. -/
def main (args : List (List UInt8)) (reads : List Read) : List (MessageType × List UInt8) :=
  (.NONE, commandLine args ++ [10]) :: stdinLoop reads

/-- The bytes that `writeData` sends for a message. -/
def writeData (message : MessageType × List UInt8) : List UInt8 := encode message.1 message.2

end Remoteexec

open Remoteexec

def Frame.message (f : Frame) : MessageType × List UInt8 := (f.type, f.payload)

private theorem exists_frames {messages : List (MessageType × List UInt8)}
    (wellFormed : ∀ message ∈ messages, message.2 ≠ [] ∧ message.2.length < 2 ^ 32) :
    ∃ fs : List Frame, fs.map Frame.message = messages ∧
      fs.map Frame.bytes = messages.map writeData := by
  induction messages with
  | nil => exact ⟨[], rfl, rfl⟩
  | cons message messages ih =>
    obtain ⟨nonempty, fits⟩ := wellFormed message List.mem_cons_self
    obtain ⟨fs, same, bytes⟩ := ih fun m mem => wellFormed m (List.mem_cons_of_mem message mem)
    refine ⟨⟨message.1, message.2, nonempty, fits⟩ :: fs, ?_, ?_⟩
    · rw [List.map_cons, same]
      rfl
    · rw [List.map_cons, List.map_cons, bytes]
      rfl

private theorem split_chunks {inputs : List Input} {before after : List (List UInt8)}
    {bytes : List UInt8} (h : chunks inputs = before ++ bytes :: after) :
    ∃ first rest, inputs = first ++ .data bytes :: rest ∧ chunks first = before := by
  obtain ⟨first, rest, rfl, chunksFirst, chunksRest⟩ := List.filterMap_eq_append_iff.mp h
  obtain ⟨quiet, input, rest', rfl, silent, chunk, _⟩ := List.filterMap_eq_cons_iff.mp chunksRest
  obtain rfl := Input.eq_data chunk
  refine ⟨first ++ quiet, rest', by rw [List.append_assoc], ?_⟩
  have nothing : quiet.filterMap Input.chunk? = [] := List.filterMap_eq_nil_iff.mpr silent
  rw [chunks, List.filterMap_append, nothing, List.append_nil, chunksFirst]

namespace S3TPServer

variable {env : Env} {srv srv' : S3TPServer} {fs : List Frame} {inputs : List Input}

private theorem Fresh.run_whole (fresh : srv.Fresh) (benign : env.Benign)
    (steady : ∀ input ∈ inputs, input.isSteady = true)
    (whole : chunks inputs = fs.map Frame.bytes) :
    ∃ srv', follow (next env) inputs srv = some srv' ∧ srv'.channel ≠ none ∧ srv'.buf = [] ∧
      srv'.expected = 0 ∧ srv'.closes = srv.closes ∧
      srv'.dispatched = srv.dispatched ++ meaning (fs.map Frame.message) := by
  have cut : (chunks inputs).flatten ++ [] = stream fs := by
    rw [List.append_nil, whole]
    rfl
  have sizes : (chunks inputs).map List.length = fs.map Frame.size := by
    rw [whole, List.map_map]
    exact List.map_congr_left fun f _ => f.bytes_length
  have table : schedule fs inputs srv =
      (List.range' srv.calls (fs.map Frame.size).length).map fun k => (k, true) := by
    rw [schedule, sizes]
    refine timetable_whole ?_
    intro size mem
    obtain ⟨f, _, rfl⟩ := List.mem_map.mp mem
    exact Nat.le_add_right _ _
  have count : (schedule fs inputs srv).length = fs.length := by
    rw [table, List.length_map, List.length_range', List.length_map]
  have timely : ∀ entry ∈ (schedule fs inputs srv).tail, entry.2 = true := by
    intro entry mem
    have member : entry ∈ schedule fs inputs srv := List.mem_of_mem_tail mem
    rw [table] at member
    obtain ⟨_, _, rfl⟩ := List.mem_map.mp member
    rfl
  obtain ⟨srv', headerRead, follows, reading, closes, dispatched⟩ :=
    fresh.run benign steady cut
  rw [count, List.drop_length] at reading
  have unread : headerRead = false := by
    by_contra read
    obtain ⟨_, f, rest, none, _⟩ := reading.read (Bool.not_eq_false _ ▸ read)
    cases none
  have empty : srv'.buf = [] := (List.append_eq_nil_iff.mp reading.bytes).1
  refine ⟨srv', follows, reading.up, empty, reading.unread unread, closes, ?_⟩
  rw [dispatched, meaning_taken timely, count, List.take_length]
  rfl

private theorem closes_close (h : srv.close env = some srv') : srv.closes < srv'.closes := by
  have once : (srv.record .closed).closes = srv.closes + 1 := by
    rw [closes, log_record, List.count_append]
    rfl
  have reconnects : Quiet (srv.record .closed).dropped srv' := quiet_reconnect h
  have le : (srv.record .closed).closes ≤ srv'.closes := reconnects.grows.closes
  omega

private theorem Fresh.zero_closes (fresh : srv.Fresh) (benign : env.Benign)
    (steady : ∀ input ∈ inputs, input.isSteady = true)
    {message : MessageType × List UInt8} {after : List (List UInt8)}
    (delivered : chunks inputs = fs.map Frame.bytes ++ writeData message :: after)
    (zero : UInt32.ofNat message.2.length = 0)
    (follows : follow (next env) inputs srv = some srv') : srv.closes < srv'.closes := by
  obtain ⟨first, rest, rfl, whole⟩ := split_chunks delivered
  have steadyFirst : ∀ input ∈ first, input.isSteady = true :=
    fun input mem => steady input (List.mem_append_left _ mem)
  obtain ⟨srv₁, follows₁, _, buf, expected, closes, _⟩ :=
    fresh.run_whole benign steadyFirst whole
  rw [follow_append, follows₁, Option.bind_some] at follows
  obtain ⟨srv₂, receives, later⟩ := Option.bind_eq_some_iff.mp follows
  have bytes : srv₁.buf ++ writeData message = encode message.1 message.2 := by
    rw [buf, List.nil_append, writeData]
  have long : headerSize ≤ (srv₁.buf ++ writeData message).length := by
    rw [bytes, encode_length]
    exact Nat.le_add_right _ _
  have header : srv₁.header (writeData message) = 0 := by
    have length : ofBytes (encode message.1 message.2 ++ []) = _ := ofBytes_encode _ _ _
    rw [List.append_nil] at length
    rw [S3TPServer.header, if_pos expected, bytes, length, zero]
  have closing : (srv₁.headed (writeData message)).close env = some srv₂ :=
    (receive_zero long header).symm.trans receives
  have arrived : (srv₁.headed (writeData message)).closes = srv₁.closes := closes_arrived
  have less : (srv₁.headed (writeData message)).closes < srv₂.closes := closes_close closing
  have le : srv₂.closes ≤ srv'.closes := (grows_follow later).closes
  omega

private theorem encode_carried (type : MessageType) (msg : List UInt8) :
    encode type (carried msg) = encode type msg := by
  have all : carried (carried msg) = carried msg := by
    rw [carried, ofNat_carried_length, ← carried_length, List.take_length]
  show frame (UInt32.ofNat (carried msg).length) _ (carried (carried msg)) = _
  rw [ofNat_carried_length, all]
  rfl

private theorem Fresh.first_command (fresh : srv.Fresh) (benign : env.Benign)
    (steady : ∀ input ∈ inputs, input.isSteady = true)
    {message : MessageType × List UInt8} {after : List (List UInt8)}
    (delivered : chunks inputs = [writeData message] ++ after)
    (positive : UInt32.ofNat message.2.length ≠ 0)
    (follows : follow (next env) inputs srv = some srv') :
    srv.dispatched ++ [.command (carried message.2)] <+: srv'.dispatched := by
  obtain ⟨first, rest, rfl, whole, _⟩ := List.filterMap_eq_append_iff.mp delivered
  have steadyFirst : ∀ input ∈ first, input.isSteady = true :=
    fun input mem => steady input (List.mem_append_left _ mem)
  have fits : (carried message.2).length < 2 ^ 32 := by
    rw [carried_length]
    exact UInt32.toNat_lt _
  have nonempty : carried message.2 ≠ [] := by
    intro empty
    apply positive
    apply UInt32.toNat.inj
    rw [← carried_length, empty]
    rfl
  have bytes : chunks first = [Frame.mk message.1 (carried message.2) nonempty fits].map
      Frame.bytes := by
    rw [chunks, whole, List.map_singleton, Frame.bytes, encode_carried]
    rfl
  obtain ⟨srv₁, follows₁, _, _, _, _, dispatched⟩ := fresh.run_whole benign steadyFirst bytes
  rw [follow_append, follows₁, Option.bind_some] at follows
  have grown : srv₁.dispatched <+: srv'.dispatched := (grows_follow follows).dispatched
  rw [dispatched] at grown
  exact grown

end S3TPServer

namespace Remoteexec

def WellFormed (message : MessageType × List UInt8) : Prop :=
  message.2 ≠ [] ∧ message.2.length < 2 ^ 32

theorem Read.fits (r : Read) : r.bytes.length < 2 ^ 32 := lt_of_le_of_lt r.le (by decide)

private theorem stdinLoop_wellFormed {reads : List Read} (endless : ∀ r ∈ reads, r.bytes ≠ []) :
    ∀ message ∈ stdinLoop reads, WellFormed message := by
  induction reads with
  | nil => simp [stdinLoop]
  | cons r reads ih =>
    have some : r.bytes ≠ [] := endless r List.mem_cons_self
    rw [stdinLoop, if_neg some]
    intro message mem
    rcases List.mem_cons.mp mem with rfl | later
    · exact ⟨some, r.fits⟩
    · exact ih (fun r' mem' => endless r' (List.mem_cons_of_mem r mem')) message later

private theorem stdinLoop_end {reads : List Read} (ends : ∃ r ∈ reads, r.bytes = []) :
    ∃ before, stdinLoop reads = before ++ [(.ENDOFFILE, [])] ∧
      ∀ message ∈ before, WellFormed message := by
  induction reads with
  | nil => simp at ends
  | cons r reads ih =>
    rw [stdinLoop]
    by_cases last : r.bytes = []
    · rw [if_pos last]
      exact ⟨[], rfl, by simp⟩
    · have later : ∃ r ∈ reads, r.bytes = [] := by
        obtain ⟨r', mem, empty⟩ := ends
        rcases List.mem_cons.mp mem with rfl | mem'
        · exact absurd empty last
        · exact ⟨r', mem', empty⟩
      obtain ⟨before, loop, wellFormed⟩ := ih later
      rw [if_neg last, loop]
      refine ⟨(.STDIN, r.bytes) :: before, rfl, ?_⟩
      intro message mem
      rcases List.mem_cons.mp mem with rfl | mem'
      · exact ⟨last, r.fits⟩
      · exact wellFormed message mem'

end Remoteexec

namespace S3TPServer

variable {env : Env} {srv : S3TPServer} {inputs : List Input}

/-- The server makes of the messages what they ask for, and does not close the connection. -/
def Agrees (env : Env) (inputs : List Input) (messages : List (MessageType × List UInt8))
    (srv : S3TPServer) : Prop :=
  ∃ srv', follow (next env) inputs srv = some srv' ∧
    srv'.dispatched = srv.dispatched ++ meaning messages ∧ srv'.closes = srv.closes

/-- Client and server agree on the frames of `remoteexec`, one in each chunk, if and only if the
input of the client does not end and the length of its command fits the length field. -/
theorem agrees_iff (benign : env.Benign) (fresh : srv.Fresh)
    (steady : ∀ input ∈ inputs, input.isSteady = true) (args : List (List UInt8))
    (reads : List Read) (delivered : chunks inputs = (main args reads).map writeData) :
    Agrees env inputs (main args reads) srv ↔
      (∀ r ∈ reads, r.bytes ≠ []) ∧ (commandLine args).length + 1 < 2 ^ 32 := by
  have lineLength : (commandLine args ++ [10]).length = (commandLine args).length + 1 :=
    List.length_append
  constructor
  · rintro ⟨srv', follows, dispatched, closes⟩
    have short : (commandLine args ++ [10]).length < 2 ^ 32 := by
      by_contra long
      by_cases zero : UInt32.ofNat (commandLine args ++ [10]).length = 0
      · have split : chunks inputs = ([] : List Frame).map Frame.bytes ++ _ := delivered
        have less := fresh.zero_closes benign steady split zero follows
        omega
      · have grown := fresh.first_command benign steady delivered zero follows
        rw [dispatched, List.prefix_append_right_inj] at grown
        have same : carried (commandLine args ++ [10]) = commandLine args ++ [10] :=
          Dispatch.command.inj (List.cons_prefix_cons.mp grown).1
        have fits : (carried (commandLine args ++ [10])).length < 2 ^ 32 := by
          rw [carried_length]
          exact UInt32.toNat_lt _
        rw [same] at fits
        exact long fits
    refine ⟨?_, by rw [← lineLength]; exact short⟩
    intro r mem empty
    obtain ⟨before, loop, wellFormed⟩ := stdinLoop_end ⟨r, mem, empty⟩
    have all : ∀ message ∈ (.NONE, commandLine args ++ [10]) :: before,
        message.2 ≠ [] ∧ message.2.length < 2 ^ 32 := by
      intro message mem
      rcases List.mem_cons.mp mem with rfl | mem'
      · exact ⟨by simp, short⟩
      · exact wellFormed message mem'
    obtain ⟨fs, _, bytes⟩ := exists_frames all
    have split : chunks inputs = fs.map Frame.bytes ++ writeData (.ENDOFFILE, []) :: [] := by
      rw [delivered, main, loop, bytes, ← List.cons_append, List.map_append]
      rfl
    have less := fresh.zero_closes benign steady split rfl follows
    omega
  · rintro ⟨endless, short⟩
    have all : ∀ message ∈ main args reads, message.2 ≠ [] ∧ message.2.length < 2 ^ 32 := by
      intro message mem
      rcases List.mem_cons.mp mem with rfl | mem'
      · exact ⟨by simp, by rw [lineLength]; exact short⟩
      · exact stdinLoop_wellFormed endless message mem'
    obtain ⟨fs, messages, bytes⟩ := exists_frames all
    rw [← bytes] at delivered
    obtain ⟨srv', follows, _, _, _, closes, dispatched⟩ :=
      fresh.run_whole benign steady delivered
    rw [messages] at dispatched
    exact ⟨srv', follows, dispatched, closes⟩

/-- A command with input that does not end. -/
theorem agrees_iff_input :
    let reads : List Read := [⟨[108, 115, 10], by decide⟩]
    let inputs := (main [[99, 97, 116]] reads).map fun message => Input.data (writeData message)
    Agrees Env.fine inputs (main [[99, 97, 116]] reads) new.connected ↔
      (∀ r ∈ reads, r.bytes ≠ []) ∧ (commandLine [[99, 97, 116]]).length + 1 < 2 ^ 32 := by
  intro reads inputs
  exact agrees_iff benign_fine (fresh_connected rfl) (by decide) _ _ (by decide)

/-- The end of the input of a command closes its connection. -/
theorem end_of_input_closes :
    ¬ ∀ (env : Env) (srv : S3TPServer) (inputs : List Input) (args : List (List UInt8))
      (reads : List Read), env.Benign → srv.Fresh →
      (∀ input ∈ inputs, input.isSteady = true) →
      chunks inputs = (main args reads).map writeData →
        Agrees env inputs (main args reads) srv := by
  intro claim
  let reads : List Read := [⟨[], by decide⟩]
  let inputs := (main [[99, 97, 116]] reads).map fun message => Input.data (writeData message)
  obtain ⟨srv', follows, _, closes⟩ := claim Env.fine new.connected inputs [[99, 97, 116]] reads
    benign_fine (fresh_connected rfl) (by decide) (by decide)
  have differ : (follow (next Env.fine) inputs new.connected).map S3TPServer.closes ≠
      some new.connected.closes := by
    decide +kernel
  rw [follows] at differ
  exact differ (congrArg some closes)

end S3TPServer

end Horst.S3tp
