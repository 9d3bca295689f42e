import Horst.S3tp.NullChannel
import Horst.S3tp.Reconnect

/-!
The receive path with the width of `size_t`: when a frame lies in the buffer at the moments
at which it is dispatched and erased.
-/

set_option autoImplicit false
set_option relaxedAutoImplicit false

namespace Horst.S3tp

open Foundation Foundation.Framing

/-- A number of type `size_t` that becomes negative where a distance of iterators is taken of it. -/
def SizeT.Negative (size : SizeT) (n : ℕ) : Prop := 2 ^ (size.bits - 1) ≤ n

instance (size : SizeT) (n : ℕ) : Decidable (size.Negative n) :=
  inferInstanceAs (Decidable (_ ≤ _))

namespace S3TPServer

/-- What `onDataReceived` finds in the buffer, with the state in which it goes on. -/
inductive FrameRead
  | waits (srv : S3TPServer)
  | invalid (srv : S3TPServer)
  | thrown
  | whole (type : MessageType) (srv : S3TPServer)

section Platform

variable (size : SizeT) (env : Env)

/-- `onDataReceived` after the bytes were copied into the buffer, with a sum of type `size_t`. -/
def frameReadOn (garbage : MessageType) (srv : S3TPServer) : FrameRead :=
  if srv.buf.length < headerSize then
    .waits srv
  else
    let type := if srv.expected = 0 then ⟨srv.buf.getD 4 0⟩ else garbage
    let srv := if srv.expected = 0 then { srv with expected := ofBytes srv.buf } else srv
    if srv.expected = 0 then
      .invalid srv
    else if size.add srv.expected.toNat headerSize ≤ srv.buf.length then
      -- the constructor of the string with the command refuses a range of negative length
      if srv.process = none ∧ size.Negative srv.expected.toNat then .thrown else .whole type srv
    else
      .waits srv

/-- The branch for a complete frame. In `Process::input`, `malloc` fails for more bytes than
there can be. -/
def dispatchOn (type : MessageType) (srv : S3TPServer) : Option S3TPServer :=
  if srv.process ≠ none ∧ type ≠ .ENDOFFILE ∧ size.Negative srv.expected.toNat then
    some srv
  else
    srv.dispatch env type

def eraseFrameOn (srv : S3TPServer) : S3TPServer :=
  { srv with buf := srv.buf.drop (size.add srv.expected.toNat headerSize), expected := 0 }

/-- `onDataReceived`, which does not return where an exception leaves it. -/
def onDataReceivedOn (bytes : List UInt8) (srv : S3TPServer) : Option S3TPServer :=
  match (srv.arrived bytes).frameReadOn size (env.garbage srv.calls) with
  | .waits srv => some srv
  | .invalid srv => srv.close env
  | .thrown => none
  | .whole type srv => (srv.dispatchOn size env type).bind fun srv => some (srv.eraseFrameOn size)

def nextOn (srv : S3TPServer) : Input → Option S3TPServer
  | .data bytes => srv.onDataReceivedOn size env bytes
  | input => srv.next env input

/-- The states of a callback in which a frame is dispatched, and in which it is erased. -/
def handlings (srv : S3TPServer) : Input → List S3TPServer
  | .data bytes =>
      match (srv.arrived bytes).frameReadOn size (env.garbage srv.calls) with
      | .whole type srv => srv :: (srv.dispatchOn size env type).toList
      | _ => []
  | _ => []

def DispatchesOn (srv : S3TPServer) (bytes : List UInt8) : Prop :=
  headerSize ≤ (srv.buf ++ bytes).length ∧ srv.header bytes ≠ 0 ∧
    size.add (srv.header bytes).toNat headerSize ≤ (srv.buf ++ bytes).length ∧
    ¬ (srv.process = none ∧ size.Negative (srv.header bytes).toNat)

instance (srv : S3TPServer) (bytes : List UInt8) : Decidable (srv.DispatchesOn size bytes) :=
  inferInstanceAs (Decidable (_ ∧ _))

/-- The callback can come, and the bytes that it brings fit into memory. -/
def Arrives (srv : S3TPServer) (input : Input) : Prop :=
  srv.Comes input ∧ ∀ bytes, input = .data bytes → (srv.buf ++ bytes).length < 2 ^ size.bits

/-- For a process, the sum of the header and the length does not wrap around. -/
def Unwrapped (srv : S3TPServer) (bytes : List UInt8) : Prop :=
  headerSize ≤ (srv.buf ++ bytes).length → size = .bits32 → srv.process ≠ none →
    (srv.header bytes).toNat < 2 ^ 32 - headerSize

def KeepsLine (srv : S3TPServer) : Prop :=
  env.send srv.sends = .accepted ∨
    env.send srv.sends = .bufferFull ∧ env.send (srv.sends + 1) ≠ .failed

/-- No length wraps around for a process, and of a command whose process cannot be spawned the
exit code does not cost the connection, unless the callback ends before the frame is erased. -/
def Within (srv : S3TPServer) : Input → Prop
  | .data bytes =>
      srv.Unwrapped size bytes ∧
        (srv.Completes bytes → srv.process = none → ¬ size.Negative (srv.header bytes).toNat →
          env.uvSpawn srv.spawns = false → srv.StartSafe env → srv.KeepsLine env)
  | _ => True

end Platform

def InBounds (srv : S3TPServer) : Prop := headerSize + srv.expected.toNat ≤ srv.buf.length

variable {size : SizeT} {env : Env} {srv srv' : S3TPServer} {type : MessageType}
  {msg bytes : List UInt8} {input : Input}

private theorem frameRead_short (short : (srv.buf ++ bytes).length < headerSize) :
    (srv.arrived bytes).frameReadOn size (env.garbage srv.calls) = .waits (srv.arrived bytes) :=
  if_pos short

private theorem frameRead_header (long : headerSize ≤ (srv.buf ++ bytes).length) :
    (srv.arrived bytes).frameReadOn size (env.garbage srv.calls) =
      if srv.header bytes = 0 then
        .invalid (srv.headed bytes)
      else if size.add (srv.header bytes).toNat headerSize ≤ (srv.buf ++ bytes).length then
        if srv.process = none ∧ size.Negative (srv.header bytes).toNat then .thrown
        else .whole (srv.typeRead env bytes) (srv.headed bytes)
      else
        .waits (srv.headed bytes) := by
  rw [frameReadOn, if_neg (by exact not_lt.mpr long)]
  by_cases fresh : srv.expected = 0
  · simp only [headed, arrived, header, typeRead, fresh, expected_record, process_record, if_true]
  · simp only [headed, arrived, header, typeRead, fresh, expected_record, process_record, if_false]

private theorem frameRead_whole (dispatches : srv.DispatchesOn size bytes) :
    (srv.arrived bytes).frameReadOn size (env.garbage srv.calls) =
      .whole (srv.typeRead env bytes) (srv.headed bytes) := by
  obtain ⟨long, positive, whole, built⟩ := dispatches
  rw [frameRead_header long, if_neg positive, if_pos whole, if_neg built]

private theorem handlings_whole (dispatches : srv.DispatchesOn size bytes) :
    srv.handlings size env (.data bytes) =
      srv.headed bytes ::
        ((srv.headed bytes).dispatchOn size env (srv.typeRead env bytes)).toList := by
  rw [handlings, frameRead_whole dispatches]

private theorem handlings_none (waits : ¬ srv.DispatchesOn size bytes) :
    srv.handlings size env (.data bytes) = [] := by
  rw [handlings]
  by_cases long : headerSize ≤ (srv.buf ++ bytes).length
  · rw [frameRead_header long]
    by_cases zero : srv.header bytes = 0
    · rw [if_pos zero]
    · rw [if_neg zero]
      by_cases whole : size.add (srv.header bytes).toNat headerSize ≤ (srv.buf ++ bytes).length
      · rw [if_pos whole]
        by_cases thrown : srv.process = none ∧ size.Negative (srv.header bytes).toNat
        · rw [if_pos thrown]
        · exact absurd ⟨long, zero, whole, thrown⟩ waits
      · rw [if_neg whole]
  · rw [frameRead_short (not_le.mp long)]

private theorem not_negative_bits64 (n : UInt32) : ¬ SizeT.bits64.Negative n.toNat := by
  have bound : n.toNat < 2 ^ 32 := n.toNat_lt
  rw [SizeT.Negative, SizeT.bits]
  omega

private theorem add_bits64
    (n : UInt32) : SizeT.bits64.add n.toNat headerSize = headerSize + n.toNat := by
  have bound : n.toNat < 2 ^ 32 := n.toNat_lt
  rw [SizeT.add, SizeT.bits, Nat.add_comm, headerSize]
  apply Nat.mod_eq_of_lt
  omega

private theorem eraseFrameOn_bits64 : srv.eraseFrameOn .bits64 = srv.eraseFrame := by
  rw [eraseFrameOn, add_bits64]
  rfl

private theorem dispatchOn_bits64 : srv.dispatchOn .bits64 env type = srv.dispatch env type :=
  if_neg fun refused => not_negative_bits64 _ refused.2.2

/-- Where `size_t` has 64 bits, these are the callbacks of the server. -/
theorem nextOn_bits64 : srv.nextOn .bits64 env input = srv.next env input := by
  cases input with
  | data bytes =>
    change srv.onDataReceivedOn .bits64 env bytes = srv.onDataReceived env bytes
    rw [onDataReceivedOn]
    by_cases long : headerSize ≤ (srv.buf ++ bytes).length
    · have built : ¬ (srv.process = none ∧ SizeT.bits64.Negative (srv.header bytes).toNat) :=
        fun thrown => not_negative_bits64 _ thrown.2
      rw [frameRead_header long, receive_header long, add_bits64, if_neg built]
      by_cases zero : srv.header bytes = 0
      · rw [if_pos zero, if_pos zero]
      · rw [if_neg zero, if_neg zero]
        by_cases whole : headerSize + (srv.header bytes).toNat ≤ (srv.buf ++ bytes).length
        · rw [if_pos whole, if_pos whole]
          simp only [dispatchOn_bits64, eraseFrameOn_bits64]
        · rw [if_neg whole, if_neg whole]
    · have short : (srv.buf ++ bytes).length < headerSize := not_le.mp long
      rw [frameRead_short short]
      exact (receive_short short).symm
  | _ => rfl

private theorem add_of_small
    (small : size = .bits32 → (srv.header bytes).toNat < 2 ^ 32 - headerSize) :
    size.add (srv.header bytes).toNat headerSize = headerSize + (srv.header bytes).toNat := by
  have bound : (srv.header bytes).toNat < 2 ^ 32 := (srv.header bytes).toNat_lt
  rw [SizeT.add, Nat.add_comm]
  apply Nat.mod_eq_of_lt
  cases size with
  | bits32 =>
    have below := small rfl
    rw [SizeT.bits]
    omega
  | bits64 =>
    rw [SizeT.bits, headerSize]
    omega

private theorem Unwrapped.dispatches_iff (unwrapped : srv.Unwrapped size bytes) :
    srv.DispatchesOn size bytes ↔
      srv.Completes bytes ∧ ¬ (srv.process = none ∧ size.Negative (srv.header bytes).toNat) := by
  have sum (long : headerSize ≤ (srv.buf ++ bytes).length)
      (built : ¬ (srv.process = none ∧ size.Negative (srv.header bytes).toNat)) :
      size.add (srv.header bytes).toNat headerSize = headerSize + (srv.header bytes).toNat := by
    apply add_of_small
    intro narrow
    by_cases busy : srv.process ≠ none
    · exact unwrapped long narrow busy
    · have positive : ¬ size.Negative (srv.header bytes).toNat :=
        fun negative => built ⟨not_not.mp busy, negative⟩
      rw [narrow, SizeT.Negative, SizeT.bits, not_le] at positive
      rw [headerSize]
      omega
  constructor
  · rintro ⟨long, positive, whole, built⟩
    rw [sum long built] at whole
    exact ⟨⟨long, positive, whole⟩, built⟩
  · rintro ⟨⟨long, positive, whole⟩, built⟩
    rw [← sum long built] at whole
    exact ⟨long, positive, whole, built⟩

private theorem dispatches_of_wrapped (wrapped : ¬ srv.Unwrapped size bytes)
    (fits : (srv.buf ++ bytes).length < 2 ^ size.bits) :
    srv.DispatchesOn size bytes ∧ ¬ (srv.headed bytes).InBounds := by
  rw [Unwrapped, Classical.not_imp, Classical.not_imp, Classical.not_imp, not_lt] at wrapped
  obtain ⟨long, rfl, busy, large⟩ := wrapped
  have bound : (srv.header bytes).toNat < 2 ^ 32 := (srv.header bytes).toNat_lt
  have header : headerSize = 5 := rfl
  have bits : SizeT.bits32.bits = 32 := rfl
  rw [bits] at fits
  refine ⟨⟨long, ?_, ?_, fun built => busy built.1⟩, ?_⟩
  · intro zero
    rw [zero] at large
    exact absurd large (by decide)
  · have small : SizeT.bits32.add (srv.header bytes).toNat headerSize ≤ headerSize := by
      rw [SizeT.add, bits]
      omega
    exact le_trans small long
  · intro inside
    have whole : headerSize + (srv.header bytes).toNat ≤ (srv.buf ++ bytes).length := inside
    omega

/-- The buffer and the length of its frame are left as they are. -/
def Left (srv srv' : S3TPServer) : Prop := srv'.buf = srv.buf ∧ srv'.expected = srv.expected

private theorem Left.inBounds (left : Left srv srv') (inside : srv.InBounds) : srv'.InBounds := by
  rw [InBounds, left.1, left.2]
  exact inside

private theorem not_inBounds_of_nil (empty : srv.buf = []) : ¬ srv.InBounds := by
  rw [InBounds, empty, headerSize]
  exact fun inside => absurd inside (by simp)

theorem left_send (busy : srv.process ≠ none) (h : srv.send env msg type = some srv') :
    Left srv srv' := by
  rcases send_cases h with rfl | ⟨_, sends⟩
  · exact ⟨rfl, rfl⟩
  · rcases sendBuf_cases sends with rfl | ⟨_, rfl | rfl | closes⟩
    · exact ⟨rfl, rfl⟩
    · exact ⟨rfl, rfl⟩
    · exact ⟨rfl, rfl⟩
    · have busyThen : (srv.queued type msg).tried.process ≠ none := busy
      obtain rfl := Option.some.inj ((close_kill busyThen).symm.trans closes)
      exact ⟨rfl, rfl⟩

theorem left_adopt {process : Process} (h : srv.adopt env process = some srv') :
    Left srv srv' := by
  obtain ⟨srv₁, sends, ends⟩ := Option.bind_eq_some_iff.mp h
  obtain rfl := Option.some.inj ends
  have sent : Left { srv with process := some process } srv₁ :=
    left_send (Option.some_ne_none process) sends
  exact sent

private theorem left_onExit {exitCode : Int} (up : srv.channel ≠ none) (idle : srv.process = none)
    (h : srv.onExit env exitCode = some srv') :
    (srv.KeepsLine env → Left srv srv') ∧ (¬ srv.KeepsLine env → srv'.buf = []) := by
  have counts : MessageType.ENDOFFILE ≠ .NONE := by decide
  rw [onExit] at h
  cases answer : env.send srv.sends with
  | accepted =>
    rw [send_accepted up counts answer, Option.bind_some] at h
    set sent := ((srv.queued .ENDOFFILE (exitText exitCode)).flushed).forgetProcess
    have upSent : sent.channel ≠ none := up
    obtain rfl := Option.some.inj ((finish_idle_up rfl upSent).symm.trans h)
    exact ⟨fun _ => ⟨rfl, rfl⟩, fun lost => absurd (Or.inl answer) lost⟩
  | failed =>
    have lost : ¬ srv.KeepsLine env := by
      rw [KeepsLine, answer]
      simp
    by_cases connects : srv.Connects env
    · rw [send_rebound up counts answer idle connects, Option.bind_some] at h
      set rebound := (connected _).forgetProcess
      have upRebound : rebound.channel ≠ none := Option.some_ne_none _
      obtain rfl := Option.some.inj ((finish_idle_up rfl upRebound).symm.trans h)
      exact ⟨fun keeps => absurd keeps lost, fun _ => rfl⟩
    · rw [send_lost up counts answer (Or.inr connects)] at h
      cases h
  | bufferFull =>
    rw [send_full up counts answer, Option.bind_some] at h
    set full := ((srv.queued .ENDOFFILE (exitText exitCode)).tried.stopOutput).forgetProcess
    have pending : full.outbuf ≠ [] := outbuf_queued_ne_nil
    have upFull : full.channel ≠ none := up
    rw [finish_pending pending] at h
    have keeps_iff : srv.KeepsLine env ↔ env.send full.sends ≠ .failed := by
      rw [KeepsLine, answer]
      simp [full, queued, tried, stopOutput, forgetProcess]
    rw [keeps_iff]
    cases second : env.send full.sends with
    | accepted =>
      obtain rfl := Option.some.inj ((sendBuf_accepted pending upFull second).symm.trans h)
      exact ⟨fun _ => ⟨rfl, rfl⟩, fun lost => absurd (by simp) lost⟩
    | bufferFull =>
      obtain rfl := Option.some.inj ((sendBuf_full pending upFull second).symm.trans h)
      exact ⟨fun _ => ⟨rfl, rfl⟩, fun lost => absurd (by simp) lost⟩
    | failed =>
      refine ⟨fun keeps => absurd rfl keeps, fun _ => ?_⟩
      rw [sendBuf_failed pending upFull second] at h
      have idleFull : full.tried.process = none := rfl
      by_cases connects : full.tried.Connects env
      · obtain rfl := Option.some.inj ((close_bind idleFull connects).symm.trans h)
        rfl
      · obtain rfl := Option.some.inj ((close_retry idleFull connects).symm.trans h)
        rfl

private theorem left_startProcess {command : List UInt8} (up : srv.channel ≠ none)
    (idle : srv.process = none) (h : srv.startProcess env command = some srv') :
    (env.uvSpawn srv.spawns = true ∨ srv.KeepsLine env → Left srv srv') ∧
      (env.uvSpawn srv.spawns = false → ¬ srv.KeepsLine env → srv'.buf = []) := by
  cases startProcess_inv h with
  | spawned spawned adopts =>
    rw [spawned]
    have adopted : Left (srv.asked command) srv' := left_adopt adopts
    exact ⟨fun _ => adopted, fun fails => absurd fails (by decide)⟩
  | @fails srv₁ _ fails exits adopts =>
    rw [fails]
    have asked : ((srv.asked command).KeepsLine env → Left (srv.asked command) srv₁) ∧ _ :=
      left_onExit up idle exits
    obtain ⟨keeps, loses⟩ := asked
    have adopted : Left srv₁ srv' := left_adopt adopts
    refine ⟨?_, fun _ lost => adopted.1.trans (loses lost)⟩
    rintro (impossible | keepsLine)
    · cases impossible
    · have before : Left (srv.asked command) srv₁ := keeps keepsLine
      exact ⟨adopted.1.trans before.1, adopted.2.trans before.2⟩

private theorem left_dispatch {process : Process} (hp : srv.process = some process)
    (h : srv.dispatch env type = some srv') : Left srv srv' := by
  obtain rfl := Option.some.inj ((dispatch_running hp).symm.trans h)
  exact ⟨rfl, rfl⟩

private theorem inBounds_headed (completes : srv.Completes bytes) : (srv.headed bytes).InBounds :=
  completes.2.2

private theorem inBounds_erased (completes : srv.Completes bytes) (up : srv.channel ≠ none) :
    (∀ m ∈ ((srv.headed bytes).dispatchOn size env (srv.typeRead env bytes)).toList, m.InBounds) ↔
      (srv.process = none → env.uvSpawn srv.spawns = false → srv.StartSafe env →
        srv.KeepsLine env) := by
  have inside : (srv.headed bytes).InBounds := inBounds_headed completes
  cases hp : srv.process with
  | some process =>
    refine iff_of_true ?_ (fun idle => absurd idle (Option.some_ne_none process))
    intro m mem
    have running : (srv.headed bytes).process = some process := hp
    have dispatched : (srv.headed bytes).dispatchOn size env (srv.typeRead env bytes) = some m :=
      Option.mem_toList.mp mem
    rw [dispatchOn] at dispatched
    split at dispatched
    · obtain rfl := Option.some.inj dispatched
      exact inside
    · have left : Left (srv.headed bytes) m := left_dispatch running dispatched
      exact left.inBounds inside
  | none =>
    have upHeaded : (srv.headed bytes).channel ≠ none := up
    have idle : (srv.headed bytes).process = none := hp
    have returns : ((srv.headed bytes).startProcess env (srv.headed bytes).payload).isSome ↔
        srv.StartSafe env := startProcess_isSome_iff idle
    rw [dispatchOn, if_neg (fun refused => refused.1 idle), dispatch_idle idle]
    constructor
    · intro all _ fails safe
      obtain ⟨m, starts⟩ := Option.isSome_iff_exists.mp (returns.mpr safe)
      by_contra lost
      have empty : m.buf = [] := (left_startProcess upHeaded idle starts).2 fails lost
      exact not_inBounds_of_nil empty (all m (Option.mem_toList.mpr starts))
    · intro keeps m mem
      have starts := Option.mem_toList.mp mem
      have safe : srv.StartSafe env := returns.mp (Option.isSome_of_eq_some starts)
      have left : Left (srv.headed bytes) m := by
        apply (left_startProcess upHeaded idle starts).1
        cases spawned : env.uvSpawn srv.spawns with
        | true => exact Or.inl spawned
        | false => exact Or.inr (keeps rfl spawned safe)
      exact left.inBounds inside

private theorem inBounds_iff (arrives : srv.Arrives size input) :
    (∀ m ∈ srv.handlings size env input, m.InBounds) ↔ srv.Within size env input := by
  cases input with
  | data bytes =>
    obtain ⟨up, fits⟩ := arrives
    rw [Within]
    by_cases unwrapped : srv.Unwrapped size bytes
    · rw [and_iff_right unwrapped]
      by_cases dispatches : srv.DispatchesOn size bytes
      · obtain ⟨completes, built⟩ := unwrapped.dispatches_iff.mp dispatches
        rw [handlings_whole dispatches, List.forall_mem_cons, inBounds_erased completes up,
          and_iff_right (inBounds_headed completes), forall_prop_of_true completes]
        constructor
        · exact fun keeps idle _ => keeps idle
        · exact fun keeps idle => keeps idle fun negative => built ⟨idle, negative⟩
      · rw [handlings_none dispatches]
        refine iff_of_true (by simp) fun completes idle positive => ?_
        have built : ¬ (srv.process = none ∧ size.Negative (srv.header bytes).toNat) :=
          fun thrown => positive thrown.2
        exact absurd (unwrapped.dispatches_iff.mpr ⟨completes, built⟩) dispatches
    · obtain ⟨dispatches, outside⟩ := dispatches_of_wrapped unwrapped (fits bytes rfl)
      refine iff_of_false (fun all => ?_) (fun within => unwrapped within.1)
      rw [handlings_whole dispatches] at all
      exact outside (all _ List.mem_cons_self)
  | _ => exact iff_of_true (by simp [handlings]) trivial

/-- On both platforms and whatever comes, the frames that are dispatched and erased lie in the
buffer exactly if no length wraps around while a process runs and no connection is lost while the
exit code of a command is sent whose process could not be spawned. -/
theorem frames_in_bounds_iff (size : SizeT) (env : Env) (srv : S3TPServer) (inputs : List Input)
    (arrive : AllAlong (nextOn size env) (Arrives size) inputs srv) :
    AllAlong (nextOn size env)
        (fun srv input => ∀ m ∈ srv.handlings size env input, m.InBounds) inputs srv ↔
      AllAlong (nextOn size env) (Within size env) inputs srv :=
  arrive.iff fun _ _ arrives => inBounds_iff arrives

/-- On 32 bits a command whose length does not wrap around. -/
theorem frames_in_bounds_iff_command :
    AllAlong (nextOn .bits32 Env.fine)
        (fun srv input => ∀ m ∈ srv.handlings .bits32 Env.fine input, m.InBounds)
        [.data (encode .NONE [108, 115, 10])] new.connected ↔
      AllAlong (nextOn .bits32 Env.fine) (Within .bits32 Env.fine)
        [.data (encode .NONE [108, 115, 10])] new.connected :=
  frames_in_bounds_iff .bits32 Env.fine new.connected [.data (encode .NONE [108, 115, 10])]
    ⟨⟨Option.some_ne_none _, by intro bytes same; cases same; decide⟩, fun _ _ => trivial⟩

/-- On 32 bits, `cat` is passed a frame of the largest length, of which only the header has come. -/
theorem input_out_of_bounds :
    ¬ ∀ (size : SizeT) (env : Env) (srv₀ : S3TPServer) (inputs : List Input),
      start env = some srv₀ → AllAlong (nextOn size env) (Arrives size) inputs srv₀ →
        AllAlong (nextOn size env)
          (fun srv input => ∀ m ∈ srv.handlings size env input, m.InBounds) inputs srv₀ := by
  intro claim
  have starts : start Env.fine = some new.connected := reconnect_bind rfl rfl ⟨rfl, rfl⟩
  set command := encode .NONE [99, 97, 116, 10]
  set header : List UInt8 := [255, 255, 255, 255, 0]
  obtain ⟨running, first, test⟩ := (Option.any_eq_true _ _).mp
    (show (new.connected.nextOn .bits32 Env.fine (.data command)).any (fun running =>
      decide (running.channel ≠ none ∧ (running.buf ++ header).length < 2 ^ 32 ∧
        running.DispatchesOn .bits32 header ∧ (running.headed header).buf.length = 5 ∧
        (running.headed header).expected = 4294967295)) = true by decide)
  obtain ⟨up, fits, dispatches, length, expected⟩ := of_decide_eq_true test
  have arrive : AllAlong (nextOn .bits32 Env.fine) (Arrives .bits32)
      [.data command, .data header] new.connected := by
    refine ⟨⟨Option.some_ne_none _, ?_⟩, fun next second => ?_⟩
    · intro bytes same
      obtain rfl := Input.data.inj same
      decide
    · obtain rfl := Option.some.inj (first.symm.trans second)
      refine ⟨⟨up, ?_⟩, fun _ _ => trivial⟩
      intro bytes same
      obtain rfl := Input.data.inj same
      exact fits
  have all := claim .bits32 Env.fine new.connected [.data command, .data header] starts arrive
  have handled : ∀ m ∈ running.handlings .bits32 Env.fine (.data header), m.InBounds :=
    (all.2 running first).1
  rw [handlings_whole dispatches] at handled
  have inside : (running.headed header).InBounds := handled _ List.mem_cons_self
  rw [InBounds, length, expected] at inside
  exact absurd inside (by decide)

end S3TPServer

end Horst.S3tp
