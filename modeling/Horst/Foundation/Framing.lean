import Mathlib.Algebra.Group.Nat.Defs
import Mathlib.Data.List.Basic
import Mathlib.Data.Nat.Basic

/-!
Length-prefixed framing of a byte stream: a 32-bit length in little-endian order,
one tag byte, the payload. A reader that completes at most one frame in each call
is described by its timetable, which depends on sizes only.
-/

set_option autoImplicit false
set_option relaxedAutoImplicit false

namespace Horst.Foundation.Framing

/-- The four bytes of a number, the least significant first. -/
def toBytes (n : UInt32) : List UInt8 :=
  [UInt8.ofNat n.toNat, UInt8.ofNat (n.toNat / 2 ^ 8), UInt8.ofNat (n.toNat / 2 ^ 16),
    UInt8.ofNat (n.toNat / 2 ^ 24)]

def ofBytes : List UInt8 → UInt32
  | b₀ :: b₁ :: b₂ :: b₃ :: _ =>
      UInt32.ofNat (b₀.toNat + 2 ^ 8 * b₁.toNat + 2 ^ 16 * b₂.toNat + 2 ^ 24 * b₃.toNat)
  | _ => 0

@[simp] theorem toBytes_length (n : UInt32) : (toBytes n).length = 4 := rfl

theorem ofBytes_toBytes (n : UInt32) (rest : List UInt8) : ofBytes (toBytes n ++ rest) = n := by
  have bound : n.toNat < 2 ^ 32 := n.toNat_lt
  apply UInt32.toNat.inj
  simp only [toBytes, ofBytes, List.cons_append, List.nil_append, UInt8.toNat_ofNat',
    UInt32.toNat_ofNat']
  omega

theorem ofBytes_append {bytes : List UInt8} (h : 4 ≤ bytes.length) (rest : List UInt8) :
    ofBytes (bytes ++ rest) = ofBytes bytes := by
  match bytes, h with
  | _ :: _ :: _ :: _ :: _, _ => rfl

def headerSize : ℕ := 5

/-- A frame with a length field of its own, which need not be that of the payload. -/
def frame (length : UInt32) (tag : UInt8) (payload : List UInt8) : List UInt8 :=
  toBytes length ++ tag :: payload

section Frame

variable {length : UInt32} {tag : UInt8} {payload rest : List UInt8}

@[simp] theorem frame_length : (frame length tag payload).length = headerSize + payload.length := by
  simp [frame, headerSize]
  omega

theorem ofBytes_frame : ofBytes (frame length tag payload ++ rest) = length := by
  rw [frame, List.append_assoc]
  exact ofBytes_toBytes length _

theorem tag_frame : (frame length tag payload ++ rest).getD 4 0 = tag := rfl

theorem payload_frame (h : payload.length = length.toNat) :
    ((frame length tag payload ++ rest).drop headerSize).take length.toNat = payload := by
  rw [← h]
  exact List.take_left

theorem rest_frame (h : payload.length = length.toNat) :
    (frame length tag payload ++ rest).drop (headerSize + length.toNat) = rest := by
  rw [← h, ← @frame_length length tag payload]
  exact List.drop_left

end Frame

/-- The frames at the front of a stream, by tag and payload, as far as they are complete;
at most the given number of them. -/
def unframeUpTo : ℕ → List UInt8 → List (UInt8 × List UInt8)
  | 0, _ => []
  | count + 1, bytes =>
      let size := headerSize + (ofBytes bytes).toNat
      if bytes.length < size then
        []
      else
        (bytes.getD 4 0, (bytes.drop headerSize).take (ofBytes bytes).toNat) ::
          unframeUpTo count (bytes.drop size)

def unframe (bytes : List UInt8) : List (UInt8 × List UInt8) := unframeUpTo bytes.length bytes

section Unframe

variable {length : UInt32} {tag : UInt8} {payload rest : List UInt8} {count : ℕ}

theorem unframeUpTo_frame (h : payload.length = length.toNat) :
    unframeUpTo (count + 1) (frame length tag payload ++ rest) =
      (tag, payload) :: unframeUpTo count rest := by
  have enough : ¬ (frame length tag payload ++ rest).length < headerSize + length.toNat := by
    rw [List.length_append, frame_length, h]
    omega
  rw [unframeUpTo, ofBytes_frame, if_neg enough, tag_frame, payload_frame h, rest_frame h]

/-- A stream of frames is read back as these frames. -/
theorem unframeUpTo_flatten {frames : List (UInt8 × List UInt8)}
    (fits : ∀ f ∈ frames, f.2.length = (UInt32.ofNat f.2.length).toNat)
    (enough : frames.length ≤ count) :
    unframeUpTo count (frames.map fun f => frame (UInt32.ofNat f.2.length) f.1 f.2).flatten =
      frames := by
  induction frames generalizing count with
  | nil =>
    cases count with
    | zero => rfl
    | succ count => rfl
  | cons f frames ih =>
    cases count with
    | zero => simp at enough
    | succ count =>
      have first := fits f List.mem_cons_self
      have rest := ih (fun f' mem => fits f' (List.mem_cons_of_mem f mem))
        (Nat.le_of_succ_le_succ enough)
      rw [List.map_cons, List.flatten_cons, unframeUpTo_frame first, rest]

theorem unframe_flatten {frames : List (UInt8 × List UInt8)}
    (fits : ∀ f ∈ frames, f.2.length = (UInt32.ofNat f.2.length).toNat) :
    unframe (frames.map fun f => frame (UInt32.ofNat f.2.length) f.1 f.2).flatten = frames := by
  apply unframeUpTo_flatten fits
  induction frames with
  | nil => exact Nat.zero_le _
  | cons f frames ih =>
    have rest := ih fun f' mem => fits f' (List.mem_cons_of_mem f mem)
    rw [List.map_cons, List.flatten_cons, List.length_append, frame_length, List.length_cons,
      headerSize]
    omega

end Unframe

/-- Which calls complete a frame, and whether such a call also was the one to read the
frame's header. The frames have the given sizes, headers included; of the first of
them some bytes are there already; each call brings a number of further bytes. -/
def timetable (sizes : List ℕ) (buffered : ℕ) (headerRead : Bool) (call : ℕ) :
    List ℕ → List (ℕ × Bool)
  | [] => []
  | n :: chunks =>
      if buffered + n < headerSize then
        timetable sizes (buffered + n) headerRead (call + 1) chunks
      else match sizes with
        | [] => []
        | size :: sizes =>
            if size ≤ buffered + n then
              (call, !headerRead) :: timetable sizes (buffered + n - size) false (call + 1) chunks
            else
              timetable (size :: sizes) (buffered + n) true (call + 1) chunks

section Timetable

variable {sizes cuts : List ℕ} {size buffered call n : ℕ} {headerRead : Bool}

theorem timetable_short (short : buffered + n < headerSize) :
    timetable sizes buffered headerRead call (n :: cuts) =
      timetable sizes (buffered + n) headerRead (call + 1) cuts := by
  rw [timetable.eq_def]
  exact if_pos short

theorem timetable_done (long : headerSize ≤ buffered + n) :
    timetable [] buffered headerRead call (n :: cuts) = [] := by
  rw [timetable.eq_def]
  exact if_neg (not_lt.mpr long)

theorem timetable_more (long : headerSize ≤ buffered + n) (more : buffered + n < size) :
    timetable (size :: sizes) buffered headerRead call (n :: cuts) =
      timetable (size :: sizes) (buffered + n) true (call + 1) cuts := by
  rw [timetable.eq_def]
  exact (if_neg (not_lt.mpr long)).trans (if_neg (not_le.mpr more))

theorem timetable_complete (long : headerSize ≤ buffered + n) (whole : size ≤ buffered + n) :
    timetable (size :: sizes) buffered headerRead call (n :: cuts) =
      (call, !headerRead) :: timetable sizes (buffered + n - size) false (call + 1) cuts := by
  rw [timetable.eq_def]
  exact (if_neg (not_lt.mpr long)).trans (if_pos whole)

theorem timetable_length_le :
    (timetable sizes buffered headerRead call cuts).length ≤ sizes.length := by
  induction cuts generalizing sizes buffered headerRead call with
  | nil => exact Nat.zero_le _
  | cons n cuts ih =>
    by_cases short : buffered + n < headerSize
    · rw [timetable_short short]
      exact ih
    · have long : headerSize ≤ buffered + n := not_lt.mp short
      cases sizes with
      | nil =>
        rw [timetable_done long]
        exact le_rfl
      | cons size sizes =>
        by_cases more : buffered + n < size
        · rw [timetable_more long more]
          exact ih
        · rw [timetable_complete long (not_lt.mp more), List.length_cons, List.length_cons]
          exact Nat.succ_le_succ ih

/-- If every call brings a whole frame, each completes the frame that it brings. -/
theorem timetable_whole (long : ∀ size ∈ sizes, headerSize ≤ size) :
    timetable sizes 0 false call sizes =
      (List.range' call sizes.length).map fun k => (k, true) := by
  induction sizes generalizing call with
  | nil => rfl
  | cons size sizes ih =>
    have first : headerSize ≤ 0 + size := by
      have := long size List.mem_cons_self
      omega
    have nothing : 0 + size - size = 0 := by omega
    rw [timetable_complete first (by omega), nothing, List.length_cons, List.range'_succ,
      List.map_cons, ih fun size' mem => long size' (List.mem_cons_of_mem size mem)]
    rfl

end Timetable

end Horst.Foundation.Framing
