import Horst.Foundation.Framing

/-!
The wire protocol between the S3TP server and its clients (`s3tp_proto.h`): the
message types, the frames, and what a frame from a client asks of the server.
-/

set_option autoImplicit false
set_option relaxedAutoImplicit false

namespace Horst.S3tp

open Foundation.Framing

/-- `enum class MessageType : std::uint8_t`. A byte from the wire is copied into such a
variable as it is, so the value need not be one of the enumerators. -/
structure MessageType where
  value : UInt8
  deriving DecidableEq, Repr

namespace MessageType

def NONE : MessageType := ⟨0⟩
def STDIN : MessageType := ⟨1⟩
def STDOUT : MessageType := ⟨2⟩
def STDERR : MessageType := ⟨4⟩
def STARTED : MessageType := ⟨8⟩
def ENDOFFILE : MessageType := ⟨16⟩

end MessageType

/-- The bytes that `S3TPServer::send` and `writeData` make of a message. The length of
the message goes through a `uint32_t`. -/
def encode (type : MessageType) (msg : List UInt8) : List UInt8 :=
  let len := UInt32.ofNat msg.length
  frame len type.value (msg.take len.toNat)

section Encode

variable (type : MessageType) (msg rest : List UInt8)

def carried (msg : List UInt8) : List UInt8 := msg.take (UInt32.ofNat msg.length).toNat

theorem carried_length : (carried msg).length = (UInt32.ofNat msg.length).toNat := by
  rw [carried, List.length_take, UInt32.toNat_ofNat']
  exact min_eq_left (Nat.mod_le _ _)

theorem ofNat_carried_length :
    UInt32.ofNat (carried msg).length = UInt32.ofNat msg.length := by
  rw [carried_length, UInt32.ofNat_toNat]

theorem carried_of_fits {msg : List UInt8} (fits : msg.length < 2 ^ 32) : carried msg = msg := by
  have length : (UInt32.ofNat msg.length).toNat = msg.length := by
    rw [UInt32.toNat_ofNat']
    exact Nat.mod_eq_of_lt fits
  rw [carried, length, List.take_length]

@[simp] theorem encode_length : (encode type msg).length = headerSize + (carried msg).length :=
  frame_length

theorem ofBytes_encode : ofBytes (encode type msg ++ rest) = UInt32.ofNat msg.length :=
  ofBytes_frame

theorem payload_encode :
    ((encode type msg ++ rest).drop headerSize).take (UInt32.ofNat msg.length).toNat =
      carried msg :=
  payload_frame (carried_length msg)

theorem encode_ne_nil : encode type msg ≠ [] := by
  intro h
  have length : (encode type msg).length = 0 := by rw [h]; rfl
  rw [encode_length, headerSize] at length
  omega

end Encode

def messages (bytes : List UInt8) : List (MessageType × List UInt8) :=
  (unframe bytes).map fun f => (⟨f.1⟩, f.2)

theorem messages_encode (ms : List (MessageType × List UInt8)) :
    messages (ms.map fun m => encode m.1 m.2).flatten = ms.map fun m => (m.1, carried m.2) := by
  let frames : List (UInt8 × List UInt8) := ms.map fun m => (m.1.value, carried m.2)
  have whole : ∀ f ∈ frames, f.2.length = (UInt32.ofNat f.2.length).toNat := by
    intro f mem
    obtain ⟨m, _, rfl⟩ := List.mem_map.mp mem
    rw [ofNat_carried_length, carried_length]
  have same : (ms.map fun m => encode m.1 m.2) =
      frames.map fun f => frame (UInt32.ofNat f.2.length) f.1 f.2 := by
    rw [List.map_map]
    apply List.map_congr_left
    intro m _
    change frame _ _ (carried m.2) = frame (UInt32.ofNat (carried m.2).length) _ (carried m.2)
    rw [ofNat_carried_length]
  rw [messages, same, unframe_flatten whole, List.map_map]
  rfl

def encodeAll (messages : List (MessageType × List UInt8)) : List UInt8 :=
  (messages.map fun message => encode message.1 message.2).flatten

section EncodeAll

variable {message : MessageType × List UInt8} {messages : List (MessageType × List UInt8)}

@[simp] theorem encodeAll_nil : encodeAll [] = [] := rfl

theorem encodeAll_cons :
    encodeAll (message :: messages) = encode message.1 message.2 ++ encodeAll messages := by
  rw [encodeAll, List.map_cons, List.flatten_cons]
  rfl

theorem encodeAll_singleton : encodeAll [message] = encode message.1 message.2 := by
  rw [encodeAll_cons, encodeAll_nil, List.append_nil]

theorem encodeAll_append (messages' : List (MessageType × List UInt8)) :
    encodeAll (messages ++ messages') = encodeAll messages ++ encodeAll messages' := by
  rw [encodeAll, List.map_append, List.flatten_append]
  rfl

end EncodeAll

def payloads (type : MessageType) (ms : List (MessageType × List UInt8)) : List UInt8 :=
  (ms.filter fun m => m.1 = type).flatMap Prod.snd

section Payloads

variable {type : MessageType} {ms : List (MessageType × List UInt8)}
  {m : MessageType × List UInt8}

theorem payloads_of_eq (h : m.1 = type) : payloads type (ms ++ [m]) = payloads type ms ++ m.2 := by
  simp [payloads, List.filter_append, h]

theorem payloads_of_ne (h : m.1 ≠ type) : payloads type (ms ++ [m]) = payloads type ms := by
  simp [payloads, List.filter_append, h]

end Payloads

/-- A well-formed frame: the length fits its four bytes and is not zero. -/
structure Frame where
  type : MessageType
  payload : List UInt8
  nonempty : payload ≠ []
  fits : payload.length < 2 ^ 32

namespace Frame

variable (f : Frame)

def bytes : List UInt8 := encode f.type f.payload

def size : ℕ := headerSize + f.payload.length

theorem length_toNat : (UInt32.ofNat f.payload.length).toNat = f.payload.length := by
  rw [UInt32.toNat_ofNat']
  exact Nat.mod_eq_of_lt f.fits

theorem length_ne_zero : UInt32.ofNat f.payload.length ≠ 0 := by
  intro zero
  have none : f.payload.length = 0 := by rw [← f.length_toNat, zero]; rfl
  exact f.nonempty (List.eq_nil_of_length_eq_zero none)

@[simp] theorem bytes_length : f.bytes.length = f.size := by
  rw [bytes, encode_length, carried_of_fits f.fits, size]

theorem payload_bytes (rest : List UInt8) :
    ((f.bytes ++ rest).drop headerSize).take f.payload.length = f.payload := by
  have h : ((f.bytes ++ rest).drop headerSize).take _ = _ := payload_encode f.type f.payload rest
  rwa [f.length_toNat, carried_of_fits f.fits] at h

theorem drop_bytes (rest : List UInt8) : (f.bytes ++ rest).drop f.size = rest := by
  rw [← f.bytes_length]
  exact List.drop_left

end Frame

/-- The platforms that the program is built for, by the width of their `size_t`. -/
inductive SizeT
  | bits32
  | bits64
  deriving DecidableEq, Repr

namespace SizeT

def bits : SizeT → ℕ
  | .bits32 => 32
  | .bits64 => 64

/-- A sum of two numbers of type `size_t`. -/
def add (size : SizeT) (a b : ℕ) : ℕ := (a + b) % 2 ^ size.bits

private theorem le_bits (size : SizeT) : 2 ^ 32 ≤ 2 ^ size.bits := by
  cases size with
  | bits32 => exact le_rfl
  | bits64 => decide

theorem add_of_lt {size : SizeT} {a b : ℕ} (fits : a + b < 2 ^ 32) : size.add a b = a + b :=
  Nat.mod_eq_of_lt (lt_of_lt_of_le fits size.le_bits)

end SizeT

inductive Dispatch
  | command (line : List UInt8)
  | input (payload : List UInt8)
  | closeInput
  deriving DecidableEq, Repr

/-- What a frame that is not the command of its connection asks for. -/
def Dispatch.stdin (type : MessageType) (payload : List UInt8) : Dispatch :=
  if type = MessageType.ENDOFFILE then .closeInput else .input payload

/-- What a sequence of frames asks for: a command, then its input. -/
def meaning : List (MessageType × List UInt8) → List Dispatch
  | [] => []
  | (_, line) :: messages =>
      .command line :: messages.map fun message => Dispatch.stdin message.1 message.2

end Horst.S3tp
