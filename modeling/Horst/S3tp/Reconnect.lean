import Horst.S3tp.Methods

/-!
When the server has no channel, its timer is set, and a new channel is bound only in a
clean state. The moments at which channels are bound can lie inside a callback; the server
records its state at each of them.
-/

set_option autoImplicit false
set_option relaxedAutoImplicit false

namespace Horst.S3tp

open Foundation Foundation.Framing

/-- Nothing is left of an earlier connection where a channel is bound. -/
def LogEntry.Clean : LogEntry → Prop
  | .bound _ process buf outbuf expected =>
      process = none ∧ buf = [] ∧ outbuf = [] ∧ expected = 0
  | _ => True

namespace S3TPServer

def Armed (srv : S3TPServer) : Prop := srv.timer ≠ none ↔ srv.channel = none

/-- The channel was bound at a moment that the server has recorded. -/
def Bound (srv : S3TPServer) (n : ℕ) : Prop :=
  ∃ process buf outbuf expected, .bound n process buf outbuf expected ∈ srv.log

variable {env : Env} {srv srv' srv'' : S3TPServer} {type : MessageType} {msg : List UInt8}

theorem Armed.timer (armed : srv.Armed) (up : srv.channel ≠ none) : srv.timer = none := by
  by_contra set
  exact up (armed.mp set)

structure Keeps (srv srv' : S3TPServer) : Prop where
  armed : srv.Armed → srv'.Armed
  grows : ∃ ls, srv'.log = srv.log ++ ls ∧ ∀ l ∈ ls, l.Clean
  bound : ∀ n, srv'.channel = some n → srv.channel = some n ∨ srv'.Bound n

theorem Keeps.of_log {ls : List LogEntry} (timer : srv'.timer = srv.timer)
    (channel : srv'.channel = srv.channel) (log : srv'.log = srv.log ++ ls)
    (clean : ∀ l ∈ ls, l.Clean) : Keeps srv srv' where
  armed armed := by
    rw [Armed, timer, channel]
    exact armed
  grows := ⟨ls, log, clean⟩
  bound n same := by
    rw [channel] at same
    exact Or.inl same

theorem Keeps.of_eq (timer : srv'.timer = srv.timer) (channel : srv'.channel = srv.channel)
    (log : srv'.log = srv.log) : Keeps srv srv' :=
  .of_log timer channel (log.trans (List.append_nil _).symm) (by simp)

theorem Keeps.refl : Keeps srv srv := .of_eq rfl rfl rfl

theorem Keeps.trans (h : Keeps srv srv') (h' : Keeps srv' srv'') : Keeps srv srv'' := by
  obtain ⟨ls, log, clean⟩ := h.grows
  obtain ⟨ls', log', clean'⟩ := h'.grows
  refine ⟨h'.armed ∘ h.armed, ⟨ls ++ ls', ?_, ?_⟩, ?_⟩
  · rw [log', log, List.append_assoc]
  · intro l mem
    rcases List.mem_append.mp mem with first | second
    · exact clean l first
    · exact clean' l second
  · intro n same
    rcases h'.bound n same with before | last
    · rcases h.bound n before with first | ⟨process, buf, outbuf, expected, mem⟩
      · exact Or.inl first
      · refine Or.inr ⟨process, buf, outbuf, expected, ?_⟩
        rw [log']
        exact List.mem_append_left ls' mem
    · exact Or.inr last

theorem Keeps.clean (h : Keeps srv srv') (clean : ∀ l ∈ srv.log, l.Clean) :
    ∀ l ∈ srv'.log, l.Clean := by
  obtain ⟨ls, log, added⟩ := h.grows
  intro l mem
  rw [log] at mem
  rcases List.mem_append.mp mem with old | new
  · exact clean l old
  · exact added l new

theorem Keeps.after (h : Keeps srv' srv'') (timer : srv'.timer = srv.timer)
    (channel : srv'.channel = srv.channel) (log : srv'.log = srv.log) : Keeps srv srv'' := by
  have first : Keeps srv srv' := .of_eq timer channel log
  exact first.trans h

theorem Keeps.record {entry : LogEntry} (clean : entry.Clean) : Keeps srv (srv.record entry) :=
  .of_log rfl rfl rfl (by simpa using clean)

private theorem armed_reconnect (unset : srv.timer = none) (h : srv.reconnect env = some srv') :
    srv'.Armed := by
  rcases reconnect_inv h with ⟨up, rfl⟩ | ⟨down, _, rfl⟩ | ⟨_, _, _, rfl⟩ | ⟨_, _, _, rfl⟩
  · exact iff_of_false (not_not_intro unset) up
  · exact iff_of_true (Option.some_ne_none _) down
  · exact iff_of_false (not_not_intro unset) (Option.some_ne_none _)
  · exact iff_of_true (Option.some_ne_none _) rfl

private theorem keeps_reconnect {old : S3TPServer} (h : srv.reconnect env = some srv')
    (unset : old.Armed → srv.timer = none)
    (channel : srv.channel = none ∨ srv.channel = old.channel) (log : srv.log = old.log) :
    Keeps old srv' := by
  have armed : old.Armed → srv'.Armed := fun before => armed_reconnect (unset before) h
  have down {n : ℕ} (gone : srv.channel = none) (here : srv.channel = some n) :
      old.channel = some n ∨ srv'.Bound n := by
    rw [gone] at here
    cases here
  rcases reconnect_inv h with
    ⟨up, rfl⟩ | ⟨none, _, rfl⟩ | ⟨_, idle, _, rfl⟩ | ⟨_, _, _, rfl⟩
  · have same : srv'.channel = old.channel := channel.resolve_left up
    exact ⟨armed, ⟨[], log.trans (List.append_nil _).symm, by simp⟩,
      fun n here => Or.inl (same.symm.trans here)⟩
  · refine ⟨armed, ⟨[.killed], ?_, by simp [LogEntry.Clean]⟩, fun n here => down none here⟩
    rw [← log]
    rfl
  · set entry : LogEntry := .bound srv.binds srv.process [] [] 0
    have recorded : srv.connected.log = old.log ++ [entry] := by
      rw [← log]
      rfl
    refine ⟨armed, ⟨[entry], recorded, ?_⟩, fun n here => Or.inr ?_⟩
    · intro l mem
      obtain rfl := List.mem_singleton.mp mem
      exact ⟨idle, rfl, rfl, rfl⟩
    · obtain rfl : srv.binds = n := Option.some.inj here
      refine ⟨srv.process, [], [], 0, ?_⟩
      rw [recorded]
      exact List.mem_append_right _ (List.mem_singleton_self entry)
  · refine ⟨armed, ⟨[], log.trans (List.append_nil _).symm, by simp⟩, fun n here => ?_⟩
    cases here

private theorem keeps_close (up : srv.channel ≠ none) (h : srv.close env = some srv') :
    Keeps srv srv' := by
  have closed : Keeps srv (srv.record .closed) := .record trivial
  have reconnects : (srv.record .closed).dropped.reconnect env = some srv' := h
  exact closed.trans (keeps_reconnect reconnects (fun armed => armed.timer up) (Or.inl rfl) rfl)

private theorem keeps_sendBuf (h : srv.sendBuf env = some srv') : Keeps srv srv' := by
  by_cases pending : srv.outbuf = []
  · obtain rfl := Option.some.inj ((sendBuf_idle pending).symm.trans h)
    exact .refl
  · by_cases up : srv.channel ≠ none
    · cases answer : env.send srv.sends with
      | bufferFull =>
        obtain rfl := Option.some.inj ((sendBuf_full pending up answer).symm.trans h)
        exact .of_eq rfl rfl rfl
      | accepted =>
        obtain rfl := Option.some.inj ((sendBuf_accepted pending up answer).symm.trans h)
        refine .of_log rfl rfl rfl ?_
        split <;> simp [LogEntry.Clean]
      | failed =>
        rw [sendBuf_failed pending up answer] at h
        have closes : Keeps srv.tried srv' := keeps_close up h
        exact closes.after rfl rfl rfl
    · rw [sendBuf_down pending (not_not.mp up)] at h
      cases h

private theorem keeps_send (counts : type ≠ .NONE) (h : srv.send env msg type = some srv') :
    Keeps srv srv' := by
  by_cases up : srv.channel ≠ none
  · have queued : Keeps (srv.queued type msg) srv' := keeps_sendBuf (sendBuf_of_send up counts h)
    exact queued.after rfl rfl rfl
  · have down : srv.channel = none := not_not.mp up
    obtain rfl := Option.some.inj ((send_down down).symm.trans h)
    exact .refl

private theorem keeps_finish (h : srv.finish env = some srv') : Keeps srv srv' := by
  by_cases pending : srv.outbuf = []
  · rw [finish_idle pending, disconnect] at h
    split at h
    · cases h
    · obtain rfl := Option.some.inj h
      exact .record trivial
  · rw [finish_pending pending] at h
    exact keeps_sendBuf h

private theorem keeps_onExit {exitCode : Int} (h : srv.onExit env exitCode = some srv') :
    Keeps srv srv' := by
  obtain ⟨srv₁, sends, ends⟩ := Option.bind_eq_some_iff.mp h
  have first : Keeps srv srv₁ := keeps_send (by decide) sends
  have second : Keeps srv₁.forgetProcess srv' := keeps_finish ends
  exact first.trans (second.after rfl rfl rfl)

private theorem keeps_adopt {process : Process} (h : srv.adopt env process = some srv') :
    Keeps srv srv' := by
  obtain ⟨srv₁, sends, ends⟩ := Option.bind_eq_some_iff.mp h
  obtain rfl := Option.some.inj ends
  have sent : Keeps { srv with process := some process } srv₁ := keeps_send (by decide) sends
  have started : Keeps srv₁ srv₁.startOutput := .of_eq rfl rfl rfl
  exact (sent.trans started).after rfl rfl rfl

private theorem keeps_startProcess
    {command : List UInt8} (h : srv.startProcess env command = some srv') :
    Keeps srv srv' := by
  have asked : Keeps srv (srv.asked command) :=
    .of_log rfl rfl rfl (by simp [LogEntry.Clean])
  cases startProcess_inv h with
  | spawned _ adopts =>
    have adopted : Keeps (srv.asked command) srv' := keeps_adopt adopts
    exact asked.trans adopted
  | @fails srv₁ _ _ exits adopts =>
    have first : Keeps (srv.asked command) srv₁ := keeps_onExit exits
    have second : Keeps srv₁ srv' := keeps_adopt adopts
    exact asked.trans (first.trans second)

private theorem keeps_data {bytes : List UInt8} (up : srv.channel ≠ none)
    (h : srv.onDataReceived env bytes = some srv') : Keeps srv srv' := by
  have arrived : Keeps srv (srv.arrived bytes) :=
    .of_log rfl rfl rfl (by simp [LogEntry.Clean])
  have headed : Keeps srv (srv.headed bytes) := arrived.trans (.of_eq rfl rfl rfl)
  cases receive_inv h with
  | short => exact arrived
  | zero _ _ _ closes =>
    have closed : Keeps (srv.headed bytes) srv' := keeps_close up closes
    exact headed.trans closed
  | more => exact headed
  | @whole srv₁ _ dispatches =>
    have erased : Keeps srv₁ srv₁.eraseFrame := .of_eq rfl rfl rfl
    cases dispatch_inv dispatches with
    | @input process running =>
      refine headed.trans (Keeps.trans ?_ erased)
      exact .of_log rfl rfl rfl (by simp [LogEntry.Clean])
    | command idle starts =>
      have started : Keeps (srv.headed bytes) srv₁ := keeps_startProcess starts
      exact headed.trans (started.trans erased)

private theorem keeps_closeCb (h : srv.closeCb env = some srv') : Keeps srv srv' := by
  cases closeCb_inv h with
  | reports _ _ _ _ exits => exact keeps_onExit exits
  | same => exact .refl
  | gone => exact .of_eq rfl rfl rfl

private theorem keeps_onTimer (h : srv.onTimer env = some srv') : Keeps srv srv' := by
  cases onTimer_inv h with
  | idle => exact .refl
  | kill _ reconnects => exact keeps_reconnect reconnects (fun _ => rfl) (Or.inr rfl) rfl
  | retry _ reconnects => exact keeps_reconnect reconnects (fun _ => rfl) (Or.inr rfl) rfl

/-- The callbacks of the channel come only while there is one. -/
def Comes (srv : S3TPServer) : Input → Prop
  | .data _ | .disconnected | .bufferFull | .bufferEmpty => srv.channel ≠ none
  | .polled | .output _ _ | .exited _ _ | .handleClosed | .timeout => True

instance (srv : S3TPServer) (input : Input) : Decidable (srv.Comes input) := by
  cases input <;> unfold Comes <;> infer_instance

/-- One callback that can come, and does not dereference a null channel. -/
def Called (env : Env) (srv : S3TPServer) (input : Input) (srv' : S3TPServer) : Prop :=
  srv.Comes input ∧ srv.Step env input srv'

theorem keeps_next {input : Input} (called : Called env srv input srv') : Keeps srv srv' := by
  obtain ⟨comes, h⟩ := called
  cases input with
  | data bytes => exact keeps_data comes h
  | disconnected =>
    have reconnects : srv.dropped.reconnect env = some srv' := h
    exact keeps_reconnect reconnects (fun armed => armed.timer comes) (Or.inl rfl) rfl
  | bufferFull =>
    obtain rfl := Option.some.inj h
    exact .of_eq rfl rfl rfl
  | bufferEmpty =>
    have sent : Keeps srv.startOutput srv' := keeps_sendBuf h
    exact sent.after rfl rfl rfl
  | polled =>
    obtain rfl := Option.some.inj ((onS3tpEvent_eq env srv).symm.trans h)
    exact .refl
  | output stdout bytes =>
    have reads : srv.readCallback env stdout bytes = some srv' := h
    rw [readCallback] at reads
    split at reads
    · exact keeps_send (by cases stdout <;> decide) reads
    · obtain rfl := Option.some.inj reads
      exact .refl
  | exited exitStatus signal =>
    obtain rfl := Option.some.inj h
    exact .of_eq rfl rfl rfl
  | handleClosed => exact keeps_closeCb h
  | timeout => exact keeps_onTimer h

private theorem keeps_run {srv₀ : S3TPServer} {ts : List (Transition S3TPServer Input)}
    (starts : start env = some srv₀) (run : Run (Called env) srv₀ ts srv) : Keeps new srv :=
  run.invariant (keeps_reconnect starts (fun _ => rfl) (Or.inl rfl) rfl) fun _ _ _ before called =>
    before.trans (keeps_next called)

theorem armed_run {srv₀ : S3TPServer} {ts : List (Transition S3TPServer Input)}
    (starts : start env = some srv₀) (run : Run (Called env) srv₀ ts srv) : srv.Armed :=
  run.invariant (armed_reconnect rfl starts) fun _ _ _ before called =>
    (keeps_next called).armed before

/-- In every state between callbacks the timer is set exactly if there is no channel. Every
channel is bound while there is no process and nothing in the buffers. -/
theorem reconnect_invariant {srv₀ : S3TPServer} {ts : List (Transition S3TPServer Input)}
    (starts : start env = some srv₀) (run : Run (Called env) srv₀ ts srv) :
    (srv.timer ≠ none ↔ srv.channel = none) ∧
      (∀ n, srv.channel = some n → srv.Bound n) ∧
      ∀ n process buf outbuf expected, .bound n process buf outbuf expected ∈ srv.log →
        process = none ∧ buf = [] ∧ outbuf = [] ∧ expected = 0 := by
  have keeps : Keeps new srv := keeps_run starts run
  refine ⟨armed_run starts run, ?_, ?_⟩
  · intro n here
    exact (keeps.bound n here).resolve_left (Option.some_ne_none n).symm
  · intro n process buf outbuf expected mem
    have clean : ∀ l ∈ srv.log, l.Clean := keeps.clean (by simp [new])
    exact clean _ mem

theorem called_of_eq (env : Env) (srv : S3TPServer) (input : Input) (srv' : S3TPServer)
    (h : (if srv.Comes input then srv.next env input else none) = some srv') :
    Called env srv input srv' := by
  split at h
  · rename_i comes
    exact ⟨comes, h⟩
  · cases h

/-- The client goes away while its command runs, which is killed before the next connection. -/
def reconnection : List Input :=
  [.data (encode .NONE [108, 115, 10]), .disconnected, .exited 0 SIGTERM, .handleClosed, .timeout]

theorem reconnect_invariant_killed :
    ∃ ts srv, Run (Called Env.fine) new.connected ts srv ∧
      ts.map Transition.label = reconnection ∧
      (srv.timer ≠ none ↔ srv.channel = none) ∧
      (∀ n, srv.channel = some n → srv.Bound n) ∧
      ∀ n process buf outbuf expected, .bound n process buf outbuf expected ∈ srv.log →
        process = none ∧ buf = [] ∧ outbuf = [] ∧ expected = 0 := by
  have starts : start Env.fine = some new.connected := reconnect_bind rfl rfl ⟨rfl, rfl⟩
  obtain ⟨ts, srv, run, labels, _⟩ :=
    exists_trace (called_of_eq Env.fine) new.connected reconnection (fun _ => true)
      (by decide +kernel)
  exact ⟨ts, srv, run, labels, reconnect_invariant starts run⟩

end S3TPServer

end Horst.S3tp
