import Horst.S3tp.Methods

/-!
Where the server dereferences a null channel: for each callback the condition on the
state before it under which it does not, and from these the condition for whole runs.
-/

set_option autoImplicit false
set_option relaxedAutoImplicit false

namespace Horst.S3tp

open Foundation Foundation.Framing

namespace S3TPServer

variable {env : Env} {srv srv' : S3TPServer} {type : MessageType} {msg : List UInt8}

private theorem reconnect_isSome : (srv.reconnect env).isSome := by
  rcases reconnect_cases env srv with ⟨_, h⟩ | ⟨_, _, h⟩ | ⟨_, _, _, h⟩ | ⟨_, _, _, h⟩
  · exact Option.isSome_of_eq_some h
  · exact Option.isSome_of_eq_some h
  · exact Option.isSome_of_eq_some h
  · exact Option.isSome_of_eq_some h

private theorem start_isSome : (start env).isSome := reconnect_isSome

private theorem close_isSome : (srv.close env).isSome := reconnect_isSome

theorem sendBuf_isSome_iff : (srv.sendBuf env).isSome ↔ srv.outbuf = [] ∨ srv.channel ≠ none := by
  by_cases pending : srv.outbuf = []
  · simp [sendBuf_idle pending, pending]
  · by_cases up : srv.channel ≠ none
    · have returns : (srv.sendBuf env).isSome := by
        cases h : env.send srv.sends with
        | bufferFull => exact Option.isSome_of_eq_some (sendBuf_full pending up h)
        | failed =>
          rw [sendBuf_failed pending up h]
          exact close_isSome
        | accepted => exact Option.isSome_of_eq_some (sendBuf_accepted pending up h)
      simp [returns, up]
    · rw [sendBuf_down pending (not_not.mp up)]
      simp [pending, not_not.mp up]

/-- `channel->send` does not fail, or the server runs no process and can connect again. -/
def Holds (env : Env) (srv : S3TPServer) : Prop :=
  env.send srv.sends ≠ .failed ∨ srv.process = none ∧ srv.Connects env

private theorem send_isSome_iff (counts : type ≠ .NONE) :
    (srv.send env msg type).isSome ↔ srv.channel = none ∨ srv.Holds env := by
  by_cases up : srv.channel ≠ none
  · cases h : env.send srv.sends with
    | bufferFull => simp [send_full up counts h, Holds, h]
    | accepted => simp [send_accepted up counts h, Holds, h]
    | failed =>
      by_cases rebinds : srv.process = none ∧ srv.Connects env
      · simp [send_rebound up counts h rebinds.1 rebinds.2, Holds, rebinds]
      · have lost : srv.process ≠ none ∨ ¬ srv.Connects env := not_and_or.mp rebinds
        simp [send_lost up counts h lost, Holds, h, rebinds, up]
  · simp [send_down (not_not.mp up), not_not.mp up]

/-- What `send` leaves, when it returns, of what the callers go on to use. -/
theorem send_leaves (counts : type ≠ .NONE) (up : srv.channel ≠ none)
    (h : srv.send env msg type = some srv') :
    srv'.channel ≠ none ∧ srv'.sends = srv.sends + 1 ∧
      (srv'.outbuf = [] ↔ env.send srv.sends ≠ .bufferFull) ∧
      (env.send srv.sends ≠ .failed → srv'.binds = srv.binds) := by
  cases answer : env.send srv.sends with
  | bufferFull =>
    obtain rfl := Option.some.inj ((send_full up counts answer).symm.trans h)
    exact ⟨up, rfl, by simp [tried, stopOutput, outbuf_queued_ne_nil], fun _ => rfl⟩
  | accepted =>
    obtain rfl := Option.some.inj ((send_accepted up counts answer).symm.trans h)
    exact ⟨up, rfl, by simp [flushed], fun _ => rfl⟩
  | failed =>
    have returns : srv.channel = none ∨ srv.Holds env :=
      (send_isSome_iff counts).mp (Option.isSome_of_eq_some h)
    obtain ⟨idle, connects⟩ := (returns.resolve_left up).resolve_left (not_not_intro answer)
    obtain rfl := Option.some.inj ((send_rebound up counts answer idle connects).symm.trans h)
    exact ⟨Option.some_ne_none _, rfl, by simp [connected, resetBuffers], by simp⟩

theorem finish_isSome_iff : (srv.finish env).isSome ↔ srv.channel ≠ none := by
  rw [finish]
  split
  · rename_i pending
    rw [sendBuf_isSome_iff]
    exact or_iff_right pending
  · by_cases up : srv.channel ≠ none
    · simp [disconnect_up up, up]
    · simp [disconnect_down (not_not.mp up), not_not.mp up]

theorem onExit_isSome_iff {exitCode : Int} :
    (srv.onExit env exitCode).isSome ↔ srv.channel ≠ none ∧ srv.Holds env := by
  have counts : MessageType.ENDOFFILE ≠ .NONE := by decide
  have sends : (srv.send env (exitText exitCode) .ENDOFFILE).isSome ↔ _ := send_isSome_iff counts
  rw [onExit]
  cases h : srv.send env (exitText exitCode) .ENDOFFILE with
  | none =>
    have fails : ¬ (srv.channel = none ∨ srv.Holds env) := by
      rw [← sends, h]
      exact Bool.false_ne_true
    simp [(not_or.mp fails).2]
  | some srv₁ =>
    have returns : srv.channel = none ∨ srv.Holds env := sends.mp (Option.isSome_of_eq_some h)
    rw [Option.bind_some, finish_isSome_iff]
    by_cases up : srv.channel ≠ none
    · have up₁ : srv₁.forgetProcess.channel ≠ none := (send_leaves counts up h).1
      simp [up, up₁, returns.resolve_left up]
    · have down : srv.channel = none := not_not.mp up
      obtain rfl := Option.some.inj ((send_down down).symm.trans h)
      simp [forgetProcess, down]

private theorem adopt_isSome_iff {process : Process} :
    (srv.adopt env process).isSome ↔ srv.channel = none ∨ env.send srv.sends ≠ .failed := by
  have sends : ({ srv with process := some process }.send env [] .STARTED).isSome ↔ _ :=
    send_isSome_iff (by decide)
  rw [adopt, Option.isSome_bind]
  show Option.any (fun _ => true) _ = true ↔ _
  rw [Option.any_true, sends]
  simp [Holds]

/-- The calls of `channel->send` and the attempt to connect that follow when a process cannot
be spawned do not end without a channel before `STARTED` was sent. -/
def FailedStartSafe (env : Env) (srv : S3TPServer) : Prop :=
  match env.send srv.sends with
  | .accepted => env.send (srv.sends + 1) ≠ .failed
  | .failed => srv.Connects env ∧ env.send (srv.sends + 1) ≠ .failed
  | .bufferFull =>
      env.send (srv.sends + 2) ≠ .failed ∨
        env.send (srv.sends + 1) = .failed ∧ ¬ srv.Connects env

def StartSafe (env : Env) (srv : S3TPServer) : Prop :=
  if env.uvSpawn srv.spawns = true then
    srv.channel = none ∨ env.send srv.sends ≠ .failed
  else
    srv.channel ≠ none ∧ srv.FailedStartSafe env

private theorem onExit_idle {exitCode : Int} (up : srv.channel ≠ none) (idle : srv.process = none) :
    (∃ srv', srv.onExit env exitCode = some srv' ∧
      (srv'.channel = none ∨ env.send srv'.sends ≠ .failed)) ↔ srv.FailedStartSafe env := by
  have counts : MessageType.ENDOFFILE ≠ .NONE := by decide
  rw [onExit, FailedStartSafe]
  cases answer : env.send srv.sends with
  | accepted =>
    rw [send_accepted up counts answer, Option.bind_some]
    set sent := ((srv.queued .ENDOFFILE (exitText exitCode)).flushed).forgetProcess
    have next : sent.sends = srv.sends + 1 := rfl
    have upSent : sent.channel ≠ none := up
    rw [finish_idle_up rfl upSent]
    simp [upSent, next]
  | failed =>
    by_cases connects : srv.Connects env
    · rw [send_rebound up counts answer idle connects, Option.bind_some]
      set rebound := (connected _).forgetProcess
      have next : rebound.sends = srv.sends + 1 := rfl
      have upRebound : rebound.channel ≠ none := Option.some_ne_none _
      rw [finish_idle_up rfl upRebound]
      simp [upRebound, next, connects]
    · rw [send_lost up counts answer (Or.inr connects)]
      simp [connects]
  | bufferFull =>
    rw [send_full up counts answer, Option.bind_some]
    set full := ((srv.queued .ENDOFFILE (exitText exitCode)).tried.stopOutput).forgetProcess
    have pending : full.outbuf ≠ [] := outbuf_queued_ne_nil
    rw [finish_pending pending]
    have next : full.sends = srv.sends + 1 := rfl
    have upFull : full.channel ≠ none := up
    cases second : env.send (srv.sends + 1) with
    | accepted =>
      rw [sendBuf_accepted pending upFull second]
      simp [flushed, upFull, next]
    | bufferFull =>
      rw [sendBuf_full pending upFull second]
      simp [tried, stopOutput, upFull, next]
    | failed =>
      rw [sendBuf_failed pending upFull second]
      have idleFull : full.tried.process = none := rfl
      by_cases connects : srv.Connects env
      · have closes : full.tried.close env = _ := close_bind idleFull connects
        rw [closes]
        simp [connected, resetBuffers, dropped, tried, next, connects]
      · have closes : full.tried.close env = _ := close_retry idleFull connects
        rw [closes]
        simp [refused, resetBuffers, dropped, connects]

theorem startProcess_isSome_iff {command : List UInt8} (idle : srv.process = none) :
    (srv.startProcess env command).isSome ↔ srv.StartSafe env := by
  rw [startProcess_eq, StartSafe]
  by_cases spawned : env.uvSpawn srv.spawns = true
  · simp only [spawned, if_true, Option.bind_some]
    exact adopt_isSome_iff
  · simp only [spawned, if_false, Bool.false_eq_true]
    by_cases up : srv.channel ≠ none
    · rw [Option.isSome_bind, Option.any_eq_true]
      simp only [adopt_isSome_iff]
      have exits : (∃ srv', (srv.asked command).onExit env (-1) = some srv' ∧ _) ↔
          (srv.asked command).FailedStartSafe env := onExit_idle up idle
      exact exits.trans (and_iff_right up).symm
    · have fails : ¬ ((srv.asked command).onExit env (-1)).isSome := by
        rw [onExit_isSome_iff]
        exact fun h => up h.1
      rw [Option.not_isSome_iff_eq_none.mp fails]
      simp [not_not.mp up]

private theorem onDataReceived_isSome_iff {bytes : List UInt8} :
    (srv.onDataReceived env bytes).isSome ↔
      (srv.Completes bytes → srv.process = none → srv.StartSafe env) := by
  by_cases completes : srv.Completes bytes
  · have erased : (srv.onDataReceived env bytes).isSome ↔
        ((srv.headed bytes).dispatch env (srv.typeRead env bytes)).isSome := by
      rw [receive_complete completes, Option.isSome_bind]
      show Option.any (fun _ => true) _ = true ↔ _
      rw [Option.any_true]
    rw [erased, dispatch]
    cases h : srv.process with
    | some process =>
      have running : (srv.headed bytes).process = some process := h
      rw [running]
      by_cases eof : srv.typeRead env bytes = .ENDOFFILE
      · simp [eof]
      · simp [eof]
    | none =>
      have idle : (srv.headed bytes).process = none := h
      rw [idle]
      refine (startProcess_isSome_iff idle).trans ?_
      exact ⟨fun safe _ _ => safe, fun safe => safe completes rfl⟩
  · have returns : (srv.onDataReceived env bytes).isSome := by
      rcases receive_cases srv bytes with short | ⟨long, zero⟩ | ⟨long, positive, more⟩ | whole
      · exact Option.isSome_of_eq_some (receive_short short)
      · rw [receive_zero long zero]
        exact close_isSome
      · exact Option.isSome_of_eq_some (receive_more long positive more)
      · exact absurd whole completes
    simp [returns, completes]

private theorem readCallback_isSome_iff {stdout : Bool} {bytes : List UInt8} :
    (srv.readCallback env stdout bytes).isSome ↔
      (srv.process.any Process.reading = true → bytes ≠ [] →
        srv.channel = none ∨ env.send srv.sends ≠ .failed) := by
  rw [readCallback]
  by_cases comes : srv.process.any Process.reading = true ∧ bytes ≠ []
  · have busy : srv.process ≠ none := by
      intro idle
      rw [idle] at comes
      exact Bool.false_ne_true comes.1
    have counts : (if stdout = true then MessageType.STDOUT else .STDERR) ≠ .NONE := by
      cases stdout <;> decide
    rw [if_pos comes, send_isSome_iff counts, Holds]
    simp [comes, busy]
  · rw [if_neg comes]
    exact iff_of_true rfl fun reading some => absurd ⟨reading, some⟩ comes

private theorem closeCb_isSome_iff :
    (srv.closeCb env).isSome ↔
      (srv.reportedExit ≠ none → srv.channel ≠ none ∧ env.send srv.sends ≠ .failed) := by
  cases hp : srv.process with
  | none =>
    rw [closeCb, reportedExit, hp]
    simp
  | some process =>
    by_cases ended : ∃ exitStatus signal, process.child = .closing exitStatus signal
    · obtain ⟨exitStatus, signal, child⟩ := ended
      rw [closeCb_closing env hp child, reportedExit_closing hp child]
      by_cases reported : signal ≠ SIGTERM
      · rw [if_pos reported, if_pos reported, onExit_isSome_iff, Holds]
        simp [hp]
      · rw [if_neg reported, if_neg reported]
        simp
    · have other : ∀ exitStatus signal, process.child ≠ .closing exitStatus signal :=
        fun exitStatus signal child => ended ⟨exitStatus, signal, child⟩
      rw [closeCb_open env hp other, reportedExit_open hp other]
      simp

def Safe (env : Env) (srv : S3TPServer) : Input → Prop
  | .data bytes => srv.Completes bytes → srv.process = none → srv.StartSafe env
  | .bufferEmpty => srv.outbuf = [] ∨ srv.channel ≠ none
  | .output _ bytes =>
      srv.process.any Process.reading = true → bytes ≠ [] →
        srv.channel = none ∨ env.send srv.sends ≠ .failed
  | .handleClosed =>
      srv.reportedExit ≠ none → srv.channel ≠ none ∧ env.send srv.sends ≠ .failed
  | .disconnected | .bufferFull | .polled | .exited _ _ | .timeout => True

private theorem onDisconnected_isSome : (srv.onDisconnected env).isSome := reconnect_isSome

private theorem onS3tpEvent_isSome : srv.onS3tpEvent.isSome := by
  rw [onS3tpEvent]
  split
  · rename_i up
    rw [updateEvents_up up]
    rfl
  · rfl

private theorem onTimer_isSome : (srv.onTimer env).isSome := by
  rw [onTimer]
  cases srv.timer with
  | none => rfl
  | some timer =>
    cases timer with
    | kill => exact reconnect_isSome
    | retry => exact reconnect_isSome

private theorem next_isSome_iff (srv : S3TPServer) (input : Input) :
    (srv.next env input).isSome ↔ srv.Safe env input := by
  cases input with
  | data bytes => exact onDataReceived_isSome_iff
  | disconnected => exact iff_of_true onDisconnected_isSome trivial
  | bufferFull => exact iff_of_true rfl trivial
  | bufferEmpty => exact sendBuf_isSome_iff
  | polled => exact iff_of_true onS3tpEvent_isSome trivial
  | output stdout bytes => exact readCallback_isSome_iff
  | exited exitStatus signal => exact iff_of_true rfl trivial
  | handleClosed => exact closeCb_isSome_iff
  | timeout => exact iff_of_true onTimer_isSome trivial

/-- The channel is never used after it was dropped, exactly in the runs in which every
callback comes in a state that is safe for it. -/
theorem serve_isSome_iff (env : Env) (inputs : List Input) :
    (serve env inputs).isSome ↔
      ∃ srv, start env = some srv ∧ AllAlong (next env) (Safe env) inputs srv := by
  obtain ⟨srv, starts⟩ := Option.isSome_iff_exists.mp (start_isSome : (start env).isSome)
  rw [serve, starts, Option.bind_some, follow_isSome_iff next_isSome_iff]
  simp

/-- A command ends by itself after the client has disconnected and before it is killed. -/
theorem exit_after_disconnect :
    ¬ ∀ (env : Env) (inputs : List Input), (serve env inputs).isSome := by
  intro claim
  have returns : (serve Env.fine [.data (encode .NONE [108, 115, 10]), .disconnected,
      .exited 0 0, .handleClosed]).isSome := claim _ _
  revert returns
  decide +kernel

end S3TPServer

end Horst.S3tp
