import Horst.S3tp.Turns

/-!
The messages that a client gets for its command: that it was received, the output of the
process, and last its exit code.
-/

set_option autoImplicit false
set_option relaxedAutoImplicit false

namespace Horst.S3tp

open Foundation Foundation.Framing

/-- The messages that were queued for a command, and the exit code of its process. -/
@[ext] structure Reply where
  frames : List (MessageType × List UInt8)
  exitCode : Option Int
  deriving DecidableEq, Repr

/-- The server with its reply to the last command. -/
structure Replying where
  srv : S3TPServer
  reply : Option Reply

/-- The exit code that a callback leaves: that of `uv_spawn` failing, or the exit status. -/
def S3TPServer.exitCode (srv : S3TPServer) (before : Option Int) : Input → Option Int
  | .exited exitStatus _ =>
      if srv.process.any (fun process => process.child = .running) = true then some exitStatus
      else before
  | _ => before

namespace Replying

/-- The reply after a callback: a new one for a new command, else it goes on. -/
def after (env : Env) (r : Replying) (input : Input) (srv' : S3TPServer) : Replying :=
  let frames := r.srv.replies env input
  { srv := srv'
    reply :=
      if r.srv.Asks input then
        some ⟨frames, if env.uvSpawn r.srv.spawns = true then none else some (-1)⟩
      else
        r.reply.map fun reply =>
          ⟨reply.frames ++ frames, r.srv.exitCode reply.exitCode input⟩ }

def Step (env : Env) (r : Replying) (input : Input) (r' : Replying) : Prop :=
  S3TPServer.Flows env r.srv input r'.srv ∧ r' = r.after env input r'.srv

/-- A reply as it should be: first that the command was received, then output, and last the
exit code; the server has the process until then, and only as long. -/
def Orderly (reply : Reply) (process : Option Process) : Prop :=
  ∃ output : List (MessageType × List UInt8), (∀ m ∈ output, m.1 = .STDOUT ∨ m.1 = .STDERR) ∧
    match process with
    | some process =>
        reply.frames = (.STARTED, []) :: output ∧
          (process.child = .running ∨ ∃ exitStatus signal, process.child = .closing exitStatus signal)
    | none =>
        ∃ exitCode, reply.exitCode = some exitCode ∧
          reply.frames = (.STARTED, []) :: output ++ [(.ENDOFFILE, S3TPServer.exitText exitCode)]

def Answers (r : Replying) : Prop := ∀ reply, r.reply = some reply → Orderly reply r.srv.process

/-- The callback is the last one of a process that was ended by `SIGTERM`. -/
def Killed (r : Replying) (input : Input) : Prop :=
  input = .handleClosed ∧ r.reply ≠ none ∧
    ∃ process exitStatus, r.srv.process = some process ∧
      process.child = .closing exitStatus SIGTERM

/-- A command comes only if its process can be spawned, and no process ends by `SIGTERM`. -/
def Proper (env : Env) (t : Transition Replying Input) : Prop :=
  (t.source.srv.Asks t.label → env.uvSpawn t.source.srv.spawns = true) ∧
    ¬ t.source.Killed t.label

structure Tracked (r : Replying) : Prop where
  online : S3TPServer.Online r.srv
  answers : r.Answers
  coded : ∀ reply process exitStatus signal, r.reply = some reply →
    r.srv.process = some process → process.child = .closing exitStatus signal →
    reply.exitCode = some exitStatus

variable {env : Env} {r r' : Replying} {input : Input} {reply reply' : Reply}

theorem streamType_output (stdout : Bool) :
    streamType stdout = .STDOUT ∨ streamType stdout = .STDERR := by
  cases stdout with
  | true => exact Or.inl rfl
  | false => exact Or.inr rfl

private theorem reply_after {srv' : S3TPServer} (asks : ¬ r.srv.Asks input)
    (h : (r.after env input srv').reply = some reply') :
    ∃ reply, r.reply = some reply ∧ reply'.frames = reply.frames ++ r.srv.replies env input ∧
      reply'.exitCode = r.srv.exitCode reply.exitCode input := by
  have goesOn : (r.after env input srv').reply = r.reply.map _ := if_neg asks
  rw [goesOn] at h
  obtain ⟨reply, before, rfl⟩ := Option.map_eq_some_iff.mp h
  exact ⟨reply, before, rfl, rfl⟩

private theorem reply_asks {srv' : S3TPServer} (asks : r.srv.Asks input) :
    (r.after env input srv').reply = some ⟨r.srv.replies env input,
      if env.uvSpawn r.srv.spawns = true then none else some (-1)⟩ :=
  if_pos asks

private theorem exitCode_idle {srv : S3TPServer} {before : Option Int} (idle : srv.process = none) :
    srv.exitCode before input = before := by
  cases input with
  | exited exitStatus signal =>
    rw [S3TPServer.exitCode, idle]
    rfl
  | _ => rfl

private theorem exitCode_ended {srv : S3TPServer} {before : Option Int} {process : Process}
    (hp : srv.process = some process) (ended : process.child ≠ .running) :
    srv.exitCode before input = before := by
  cases input with
  | exited exitStatus signal =>
    rw [S3TPServer.exitCode, hp]
    simp [ended]
  | _ => rfl

private theorem not_killed_of_idle (idle : r.srv.process = none) : ¬ r.Killed input := by
  rintro ⟨_, _, process, _, hp, _⟩
  rw [idle] at hp
  cases hp

private theorem answers_idle {srv' : S3TPServer} (answers : r.Answers) (asks : ¬ r.srv.Asks input)
    (idle : r.srv.process = none) (idle' : srv'.process = none)
    (none : r.srv.replies env input = []) : (r.after env input srv').Answers := by
  intro reply' current
  obtain ⟨reply, before, frames, exitCode⟩ := reply_after asks current
  have same : reply' = reply := by
    ext1
    · rw [frames, none, List.append_nil]
    · rw [exitCode, exitCode_idle idle]
  have orderly : Orderly reply r.srv.process := answers reply before
  have idleAfter : (r.after env input srv').srv.process = Option.none := idle'
  rw [idle] at orderly
  rw [same, idleAfter]
  exact orderly

private theorem answers_goesOn {srv' : S3TPServer} {old new : Process} (answers : r.Answers)
    (hp : r.srv.process = some old) (hp' : srv'.process = some new)
    (child : new.child = .running ∨ ∃ exitStatus signal, new.child = .closing exitStatus signal)
    (shape : r.srv.replies env input = [] ∨
      ∃ stdout bytes, r.srv.replies env input = [(streamType stdout, bytes)]) :
    (r.after env input srv').Answers := by
  intro reply' current
  obtain ⟨reply, before, frames, _⟩ := reply_after (S3TPServer.asks_busy hp) current
  have orderly : Orderly reply r.srv.process := answers reply before
  have busyAfter : (r.after env input srv').srv.process = some new := hp'
  rw [hp] at orderly
  rw [busyAfter]
  obtain ⟨output, streams, begins, _⟩ := orderly
  rcases shape with none | ⟨stdout, bytes, one⟩
  · refine ⟨output, streams, ?_, child⟩
    rw [frames, none, List.append_nil, begins]
  · refine ⟨output ++ [(streamType stdout, bytes)], ?_, ?_, child⟩
    · exact List.forall_mem_append.mpr
        ⟨streams, List.forall_mem_singleton.mpr (streamType_output stdout)⟩
    · rw [frames, one, begins]
      rfl

private theorem not_answers {process : Process} (unfinished : r.reply ≠ none)
    (hp : r.srv.process = some process) (still : process.child ≠ .running)
    (silent : ∀ exitStatus signal, process.child ≠ .closing exitStatus signal) : ¬ r.Answers := by
  intro answers
  obtain ⟨reply, current⟩ := Option.ne_none_iff_exists'.mp unfinished
  have orderly : Orderly reply r.srv.process := answers reply current
  rw [hp] at orderly
  obtain ⟨_, _, _, running | ⟨exitStatus, signal, closing⟩⟩ := orderly
  · exact still running
  · exact silent exitStatus signal closing

private theorem reply_after_ne_none {srv' : S3TPServer} (asks : ¬ r.srv.Asks input)
    (unfinished : r.reply ≠ none) : (r.after env input srv').reply ≠ none := by
  have goesOn : (r.after env input srv').reply = r.reply.map _ := if_neg asks
  rw [goesOn]
  exact fun nothing => unfinished (Option.map_eq_none_iff.mp nothing)

section Step

variable {srv' : S3TPServer} (tracked : Tracked r) (online : S3TPServer.Online srv')
include tracked online

theorem Tracked.idle (asks : ¬ r.srv.Asks input) (idle : r.srv.process = none)
    (idle' : srv'.process = none) (none : r.srv.replies env input = []) :
    Hinges (r.after env input srv').Answers (Proper env ⟨r, input, r.after env input srv'⟩)
      (Tracked (r.after env input srv')) := by
  have answers : (r.after env input srv').Answers :=
    answers_idle tracked.answers asks idle idle' none
  refine .of_holds answers ?_ ⟨online, answers, ?_⟩
  · exact ⟨fun begins => absurd begins asks, not_killed_of_idle idle⟩
  · intro _ process _ _ _ hp
    exact absurd (idle'.symm.trans hp) (by simp)

omit tracked in
private theorem tracked_starts {process : Process} (asks : r.srv.Asks input)
    (idle : r.srv.process = none) (spawned : env.uvSpawn r.srv.spawns = true)
    (hp' : srv'.process = some process) (running : process.child = .running)
    (told : r.srv.replies env input = [(.STARTED, [])]) :
    Hinges (r.after env input srv').Answers (Proper env ⟨r, input, r.after env input srv'⟩)
      (Tracked (r.after env input srv')) := by
  have answers : (r.after env input srv').Answers := by
    intro reply current
    obtain rfl := Option.some.inj ((reply_asks asks).symm.trans current)
    have busyAfter : (r.after env input srv').srv.process = some process := hp'
    rw [busyAfter]
    exact ⟨[], by simp, told, Or.inl running⟩
  refine .of_holds answers ⟨fun _ => spawned, not_killed_of_idle idle⟩ ⟨online, answers, ?_⟩
  intro _ process' _ _ _ hp ended
  obtain rfl := Option.some.inj (hp'.symm.trans hp)
  rw [running] at ended
  cases ended

omit tracked in
private theorem tracked_ceases
    {old new : Process} {exitStatus : Int} (hp : r.srv.process = some old)
    (hp' : srv'.process = some new) (closing : old.child = .closing exitStatus SIGTERM)
    (gone : new.child = .gone) :
    Hinges (r.after env .handleClosed srv').Answers
      (Proper env ⟨r, .handleClosed, r.after env .handleClosed srv'⟩)
      (Tracked (r.after env .handleClosed srv')) := by
  have asks : ¬ r.srv.Asks .handleClosed := id
  cases earlier : r.reply with
  | none =>
    have nothing : (r.after env .handleClosed srv').reply = none := by
      rw [after, if_neg asks, earlier]
      rfl
    have answers : (r.after env .handleClosed srv').Answers := by
      intro reply current
      rw [nothing] at current
      cases current
    refine .of_holds answers ⟨fun begins => absurd begins asks, ?_⟩ ⟨online, answers, ?_⟩
    · rintro ⟨_, unfinished, _⟩
      exact unfinished earlier
    · intro reply _ _ _ current
      rw [nothing] at current
      cases current
  | some reply =>
    have unfinished : r.reply ≠ none := by
      rw [earlier]
      exact Option.some_ne_none reply
    have improper : ¬ Proper env ⟨r, .handleClosed, r.after env .handleClosed srv'⟩ :=
      fun proper => proper.2 ⟨rfl, unfinished, old, exitStatus, hp, closing⟩
    refine ⟨iff_of_false ?_ improper, fun proper => absurd proper improper⟩
    exact not_answers (reply_after_ne_none asks unfinished) hp' (by simp [gone]) (by simp [gone])

theorem Tracked.stays {old new : Process} (hp : r.srv.process = some old)
    (hp' : srv'.process = some new) (child : new.child = old.child)
    (other : input = .handleClosed → ∀ exitStatus signal, old.child ≠ .closing exitStatus signal)
    (shape : r.srv.replies env input = [] ∨
      ∃ stdout bytes, r.srv.replies env input = [(streamType stdout, bytes)]) :
    Hinges (r.after env input srv').Answers (Proper env ⟨r, input, r.after env input srv'⟩)
      (Tracked (r.after env input srv')) := by
  have asks : ¬ r.srv.Asks input := S3TPServer.asks_busy hp
  have answers : (r.after env input srv').Answers := by
    intro reply current
    obtain ⟨reply₀, earlier, _⟩ := reply_after asks current
    have orderly : Orderly reply₀ r.srv.process := tracked.answers reply₀ earlier
    rw [hp] at orderly
    obtain ⟨_, _, _, lives⟩ := orderly
    rw [← child] at lives
    exact answers_goesOn tracked.answers hp hp' lives shape reply current
  refine .of_holds answers ⟨fun begins => absurd begins asks, ?_⟩ ⟨online, answers, ?_⟩
  · rintro ⟨closed, _, process, exitStatus, hpThen, ended⟩
    obtain rfl := Option.some.inj (hp.symm.trans hpThen)
    exact other closed exitStatus SIGTERM ended
  · intro reply process exitStatus signal current hpThen ended
    obtain rfl := Option.some.inj (hp'.symm.trans hpThen)
    obtain ⟨reply₀, earlier, _, exitCode⟩ := reply_after asks current
    have endedBefore : old.child = .closing exitStatus signal := child.symm.trans ended
    rw [exitCode, exitCode_ended hp (by simp [endedBefore])]
    exact tracked.coded reply₀ old exitStatus signal earlier hp endedBefore

theorem Tracked.exits {old new : Process} {exitStatus signal : Int}
    (hp : r.srv.process = some old) (hp' : srv'.process = some new)
    (running : old.child = .running) (closing : new.child = .closing exitStatus signal)
    (shape : r.srv.replies env (.exited exitStatus signal) = [] ∨
      ∃ stdout bytes,
        r.srv.replies env (.exited exitStatus signal) = [(streamType stdout, bytes)]) :
    Hinges (r.after env (.exited exitStatus signal) srv').Answers
      (Proper env ⟨r, .exited exitStatus signal, r.after env (.exited exitStatus signal) srv'⟩)
      (Tracked (r.after env (.exited exitStatus signal) srv')) := by
  have asks : ¬ r.srv.Asks (.exited exitStatus signal) := id
  have answers : (r.after env (.exited exitStatus signal) srv').Answers :=
    answers_goesOn tracked.answers hp hp' (Or.inr ⟨_, _, closing⟩) shape
  refine .of_holds answers ⟨fun begins => absurd begins asks, by simp [Killed]⟩
    ⟨online, answers, ?_⟩
  intro reply process exitStatus' signal' current hpThen ended
  obtain rfl := Option.some.inj (hp'.symm.trans hpThen)
  obtain ⟨reply₀, _, _, exitCode⟩ := reply_after asks current
  rw [closing] at ended
  cases ended
  rw [exitCode, S3TPServer.exitCode, hp]
  simp [running]

theorem Tracked.ends {old : Process} {exitStatus signal : Int} (hp : r.srv.process = some old)
    (closing : old.child = .closing exitStatus signal) (reported : signal ≠ SIGTERM)
    (idle' : srv'.process = none)
    (told : r.srv.replies env input = [(.ENDOFFILE, S3TPServer.exitText exitStatus)]) :
    Hinges (r.after env input srv').Answers (Proper env ⟨r, input, r.after env input srv'⟩)
      (Tracked (r.after env input srv')) := by
  have asks : ¬ r.srv.Asks input := S3TPServer.asks_busy hp
  have answers : (r.after env input srv').Answers := by
    intro reply current
    obtain ⟨reply₀, earlier, frames, exitCode⟩ := reply_after asks current
    have orderly : Orderly reply₀ r.srv.process := tracked.answers reply₀ earlier
    have idleAfter : (r.after env input srv').srv.process = none := idle'
    rw [hp] at orderly
    rw [idleAfter]
    obtain ⟨output, streams, begins, _⟩ := orderly
    refine ⟨output, streams, exitStatus, ?_, ?_⟩
    · rw [exitCode, exitCode_ended hp (by simp [closing])]
      exact tracked.coded reply₀ old exitStatus signal earlier hp closing
    · rw [frames, told, begins]
  refine .of_holds answers ⟨fun begins => absurd begins asks, ?_⟩ ⟨online, answers, ?_⟩
  · rintro ⟨_, _, process, status, hpThen, ended⟩
    obtain rfl := Option.some.inj (hp.symm.trans hpThen)
    rw [closing] at ended
    obtain ⟨_, rfl⟩ := Child.closing.inj ended
    exact reported rfl
  · intro _ process _ _ _ hpThen
    exact absurd (idle'.symm.trans hpThen) (by simp)

end Step

private theorem hinges_fails {srv' : S3TPServer} {process : Process} (asks : r.srv.Asks input)
    (fails : env.uvSpawn r.srv.spawns = false) (hp' : srv'.process = some process)
    (unspawned : process.child = .unspawned) :
    Hinges (r.after env input srv').Answers (Proper env ⟨r, input, r.after env input srv'⟩)
      (Tracked (r.after env input srv')) := by
  have improper : ¬ Proper env ⟨r, input, r.after env input srv'⟩ := by
    rintro ⟨spawns, _⟩
    have spawned : env.uvSpawn r.srv.spawns = true := spawns asks
    rw [fails] at spawned
    cases spawned
  have unfinished : (r.after env input srv').reply ≠ none := by
    rw [reply_asks asks]
    exact Option.some_ne_none _
  refine ⟨iff_of_false ?_ improper, fun proper => absurd proper improper⟩
  exact not_answers unfinished hp' (by simp [unspawned]) (by simp [unspawned])

/-- What one callback does to the reply. -/
theorem Tracked.step (tracked : Tracked r) (step : Step env r input r') :
    Hinges r'.Answers (Proper env ⟨r, input, r'⟩) (Tracked r') := by
  obtain ⟨flows, same⟩ := step
  have online : S3TPServer.Online r'.srv := tracked.online.next flows
  obtain ⟨turn, _⟩ := tracked.online.turn flows
  generalize r'.srv = srv' at flows same online turn
  subst same
  cases turn with
  | idles asks idle idle' _ _ none _ => exact tracked.idle online asks idle idle' none
  | flushes asks idle idle' _ _ none _ _ => exact tracked.idle online asks idle idle' none
  | starts asks idle spawned hp' running _ told _ =>
    exact tracked_starts online asks idle spawned hp' running told
  | fails asks _ fails hp' unspawned _ _ => exact hinges_fails asks fails hp' unspawned
  | @goesOn old new _ hp hp' ages _ shape _ =>
    generalize before : old.child = aged at ages
    generalize behind : new.child = child at ages
    cases ages with
    | stays other =>
      rw [← before] at other
      exact tracked.stays online hp hp' (behind.trans before.symm) other shape
    | exits => exact tracked.exits online hp hp' before behind shape
    | ceases => exact tracked_ceases online hp hp' before behind
  | ends _ hp child reported idle' _ told _ =>
    exact tracked.ends online hp child reported idle' told

/-- The bytes that a callback queues for the client are the messages that it adds to the reply. -/
def Queues (env : Env) (t : Transition Replying Input) : Prop :=
  t.target.srv.queuedBytes =
    t.source.srv.queuedBytes ++ encodeAll (t.source.srv.replies env t.label)

/-- From any state on in which a connection is up, as long as it is, the replies are what is
queued for the client, and every command gets the answer that it should exactly if its process
can be spawned and does not end by `SIGTERM`. -/
theorem answers_iff {s srv₀ : S3TPServer} {ts₀ : List (Transition S3TPServer Input)}
    {ts : List (Transition Replying Input)} (starts : S3TPServer.start env = some s)
    (before : Run (S3TPServer.Called env) s ts₀ srv₀) (up : srv₀.channel ≠ none)
    (run : Run (Step env) ⟨srv₀, none⟩ ts r) :
    (∀ t ∈ ts, Queues env t) ∧
      ((∀ t ∈ ts, t.target.Answers) ↔ ∀ t ∈ ts, Proper env t) := by
  have online : S3TPServer.Online srv₀ := S3TPServer.online_of_run starts before up
  have queues : (∀ t ∈ ts, Queues env t) ↔ ∀ t ∈ ts, True := by
    apply run.forall_iff (I := fun r => S3TPServer.Online r.srv) online
    intro s event s' online step
    exact .of_holds (online.turn step.1).2 trivial (online.next step.1)
  refine ⟨queues.mpr fun _ _ => trivial, ?_⟩
  apply run.forall_iff (I := Tracked)
  · exact ⟨online, by simp [Answers], by simp⟩
  · intro s event s' tracked step
    exact tracked.step step

def step? (env : Env) (r : Replying) (input : Input) : Option Replying :=
  (r.srv.flow? env input).map (r.after env input)

private theorem step_of_eq (works : ∀ n, env.send n ≠ .failed) (r : Replying) (input : Input)
    (r' : Replying) (h : r.step? env input = some r') : Step env r input r' := by
  obtain ⟨srv', flows, rfl⟩ := Option.map_eq_some_iff.mp h
  exact ⟨S3TPServer.flows_of_eq works r.srv input srv' flows, rfl⟩

def hello : List Input :=
  [.data (encode .NONE [108, 115, 10]), .output true [104, 105, 10], .exited 0 0, .handleClosed]

private theorem fine_works (n : ℕ) : Env.fine.send n ≠ .failed := by
  intro failed
  cases failed

theorem answers_iff_hello :
    ∃ ts r, Run (Step Env.fine) ⟨S3TPServer.new.connected, none⟩ ts r ∧
      ts.map Transition.label = hello ∧
      r.reply = some ⟨[(.STARTED, []), (.STDOUT, [104, 105, 10]),
        (.ENDOFFILE, S3TPServer.exitText 0)], some 0⟩ ∧
      (∀ t ∈ ts, Queues Env.fine t) ∧
      ((∀ t ∈ ts, t.target.Answers) ↔ ∀ t ∈ ts, Proper Env.fine t) := by
  obtain ⟨ts, r, run, labels, told⟩ :=
    exists_run_to (step_of_eq fine_works) ⟨S3TPServer.new.connected, none⟩
      hello (fun r => r.reply = some ⟨[(.STARTED, []), (.STDOUT, [104, 105, 10]),
        (.ENDOFFILE, S3TPServer.exitText 0)], some 0⟩) (by decide +kernel)
  exact ⟨ts, r, run, labels, of_decide_eq_true told,
    answers_iff S3TPServer.start_fine .nil (Option.some_ne_none _) run⟩

def spawnless : Env := { Env.fine with uvSpawn := fun _ => false }

private theorem spawnless_works (n : ℕ) : spawnless.send n ≠ .failed := fine_works n

/-- The exit code of a command whose process cannot be spawned comes before the message that it
was received, and the process stays. -/
theorem exit_before_start :
    ¬ ∀ (env : Env) (s srv₀ : S3TPServer) (ts₀ : List (Transition S3TPServer Input))
      (ts : List (Transition Replying Input)) (r : Replying), S3TPServer.start env = some s →
        Run (S3TPServer.Called env) s ts₀ srv₀ → srv₀.channel ≠ none →
          Run (Step env) ⟨srv₀, none⟩ ts r → ∀ t ∈ ts, t.target.Answers := by
  intro claim
  have starts : S3TPServer.start spawnless = some S3TPServer.new.connected :=
    S3TPServer.reconnect_bind rfl rfl ⟨rfl, rfl⟩
  obtain ⟨ts, r, run, _, told⟩ :=
    exists_trace (step_of_eq spawnless_works) ⟨S3TPServer.new.connected, none⟩
      [.data (encode .NONE [108, 115, 10])]
      (fun ts => ts.any fun t => t.target.reply.any fun reply =>
        reply.frames = [(.ENDOFFILE, S3TPServer.exitText (-1)), (.STARTED, [])])
      (by decide +kernel)
  obtain ⟨t, mem, told⟩ := List.any_eq_true.mp told
  obtain ⟨reply, current, frames⟩ := (Option.any_eq_true _ _).mp told
  have answers : t.target.Answers :=
    claim spawnless _ _ [] ts r starts .nil (Option.some_ne_none _) run t mem
  have orderly : Orderly reply t.target.srv.process := answers reply current
  rw [Orderly, of_decide_eq_true frames] at orderly
  obtain ⟨output, _, begins⟩ := orderly
  cases hp : t.target.srv.process with
  | none => simp [hp, MessageType.STARTED, MessageType.ENDOFFILE] at begins
  | some process => simp [hp, MessageType.STARTED, MessageType.ENDOFFILE] at begins

end Replying

end Horst.S3tp
