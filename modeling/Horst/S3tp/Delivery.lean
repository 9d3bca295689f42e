import Horst.S3tp.Turns

/-!
The bytes of a connection with one command: they go out in order, and the connection is
closed softly when the process has ended and all of them were taken.
-/

set_option autoImplicit false
set_option relaxedAutoImplicit false

namespace Horst.S3tp

open Foundation Foundation.Framing

def accepted (log : List LogEntry) : List UInt8 := (log.filterMap LogEntry.sent?).flatten

namespace S3TPServer

def framesOf (env : Env) (ts : List (Transition S3TPServer Input)) :
    List (MessageType × List UInt8) :=
  ts.flatMap fun t => t.source.replies env t.label

def Ended (t : Transition S3TPServer Input) : Prop :=
  t.label = .handleClosed ∧ t.source.reportedExit ≠ none

def Concluded (frames : List (MessageType × List UInt8)) : Prop :=
  ∃ ms text, frames = ms ++ [(.ENDOFFILE, text)]

inductive Phase (start : S3TPServer) (frames : List (MessageType × List UInt8)) (ended : Prop)
    (log : List LogEntry) (srv : S3TPServer) : Prop
  | waiting :
      srv.process = none → srv.outbuf = [] → srv.spawns = start.spawns → ¬ ended →
      .disconnect ∉ log → Phase start frames ended log srv
  | running :
      srv.process ≠ none → srv.spawns = start.spawns + 1 → ¬ ended →
      .disconnect ∉ log → Phase start frames ended log srv
  | ending :
      srv.process = none → srv.outbuf ≠ [] → srv.spawns = start.spawns + 1 →
      .disconnect ∉ log → Concluded frames → Phase start frames ended log srv
  | closed {early late : List LogEntry} :
      srv.process = none → srv.outbuf = [] → srv.spawns = start.spawns + 1 →
      log = early ++ .disconnect :: late → .disconnect ∉ early → .disconnect ∉ late →
      accepted early = encodeAll frames → Concluded frames → Phase start frames ended log srv

variable {env : Env} {srv₀ srv srv' : S3TPServer} {input : Input}
  {ts : List (Transition S3TPServer Input)} {log : List LogEntry}

theorem framesOf_snoc {t : Transition S3TPServer Input} :
    framesOf env (ts ++ [t]) = framesOf env ts ++ t.source.replies env t.label := by
  rw [framesOf, List.flatMap_append, List.flatMap_singleton]
  rfl

private theorem accepted_append {log log' : List LogEntry} :
    accepted (log ++ log') = accepted log ++ accepted log' := by
  rw [accepted, List.filterMap_append, List.flatten_append]
  rfl

private theorem accepted_disconnect : accepted [.disconnect] = [] := rfl

theorem Online.run (online : Online srv₀) (run : Run (Flows env) srv₀ ts srv) : Online srv :=
  run.invariant online fun _ _ _ before flows => before.next flows

theorem Online.bytes (online : Online srv₀) (run : Run (Flows env) srv₀ ts srv) :
    srv.queuedBytes = srv₀.queuedBytes ++ encodeAll (framesOf env ts) := by
  induction run with
  | nil => exact (List.append_nil _).symm
  | snoc prior flows ih =>
    obtain ⟨_, added⟩ := (online.run prior).turn flows
    rw [added, ih, framesOf_snoc, encodeAll_append, List.append_assoc]

private theorem accepted_of_bytes {bytes : List UInt8} (empty : srv₀.outbuf = [])
    (grown : srv.log = srv₀.log ++ log) (queued : srv.queuedBytes = srv₀.queuedBytes ++ bytes) :
    accepted log ++ srv.outbuf = bytes := by
  have sent : srv.sentBytes = srv₀.sentBytes ++ accepted log := by
    rw [sentBytes, grown, List.filterMap_append, List.flatten_append]
    rfl
  rw [queuedBytes, queuedBytes, sent, empty, List.append_nil, List.append_assoc] at queued
  exact List.append_cancel_left queued

theorem Turn.spawns_le (turn : Turn env srv input srv') : srv.spawns ≤ srv'.spawns := by
  cases turn with
  | idles _ _ _ _ spawns => exact le_of_eq spawns.symm
  | flushes _ _ _ _ spawns => exact le_of_eq spawns.symm
  | starts _ _ _ _ _ spawns =>
    rw [spawns]
    exact Nat.le_succ _
  | fails _ _ _ _ _ spawns =>
    rw [spawns]
    exact Nat.le_succ _
  | goesOn _ _ _ _ spawns => exact le_of_eq spawns.symm
  | ends _ _ _ _ _ spawns => exact le_of_eq spawns.symm

private theorem not_ended_of_idle (idle : srv.process = none) : ¬ Ended ⟨srv, input, srv'⟩ := by
  rintro ⟨_, reported⟩
  apply reported
  rw [reportedExit, idle]

private theorem ended_snoc {t : Transition S3TPServer Input} :
    (∃ u ∈ ts ++ [t], Ended u) ↔ (∃ u ∈ ts, Ended u) ∨ Ended t := by
  simp [or_and_right, exists_or]

private theorem not_ended_of_ages {old : Process} {child : Child} (hp : srv.process = some old)
    (ages : Ages old.child input child) : ¬ Ended ⟨srv, input, srv'⟩ := by
  rintro ⟨closed, reported⟩
  apply reported
  generalize aged : old.child = before at ages
  cases ages with
  | stays other =>
    have notClosing := other closed
    rw [← aged] at notClosing
    exact reportedExit_open hp notClosing
  | exits => cases closed
  | ceases =>
    rw [reportedExit_closing hp aged]
    exact if_neg (not_not_intro rfl)

private theorem append_none
    {frames replies : List (MessageType × List UInt8)} (none : replies = []) :
    frames ++ replies = frames := by
  rw [none, List.append_nil]

def Reaches (start : S3TPServer) (frames : List (MessageType × List UInt8)) (ended : Prop)
    (srv : S3TPServer) : Prop :=
  ∃ log, srv.log = start.log ++ log ∧ Phase start frames ended log srv

section Next

variable {frames : List (MessageType × List UInt8)} {ended : Prop}
  (turn : Turn env srv input srv') (grown : srv.log = srv₀.log ++ log)

private theorem log_lasts {ls : List LogEntry} (grown : srv.log = srv₀.log ++ log)
    (added : srv'.log = srv.log ++ ls) : srv'.log = srv₀.log ++ (log ++ ls) := by
  rw [added, grown, List.append_assoc]

private theorem accepted_closed {ls : List LogEntry} {bytes : List UInt8}
    (grown : srv.log = srv₀.log ++ log) (added : srv'.log = srv.log ++ ls ++ [.disconnect])
    (empty : srv'.outbuf = [])
    (all : ∀ log', srv'.log = srv₀.log ++ log' → accepted log' ++ srv'.outbuf = bytes) :
    srv'.log = srv₀.log ++ (log ++ ls ++ [.disconnect]) ∧ accepted (log ++ ls) = bytes := by
  have whole : srv'.log = srv₀.log ++ (log ++ ls ++ [.disconnect]) := by
    rw [added, grown]
    simp
  refine ⟨whole, ?_⟩
  have taken := all _ whole
  rw [empty, List.append_nil, accepted_append, accepted_disconnect, List.append_nil] at taken
  exact taken

include turn grown

private theorem waiting_next (spawned : env.uvSpawn srv₀.spawns = true) (idle : srv.process = none)
    (empty : srv.outbuf = []) (spawns : srv.spawns = srv₀.spawns) (going : ¬ ended)
    (last : .disconnect ∉ log) :
    Reaches srv₀ (frames ++ srv.replies env input) (ended ∨ Ended ⟨srv, input, srv'⟩) srv' := by
  have notEnded : ¬ (ended ∨ Ended ⟨srv, input, srv'⟩) :=
    not_or.mpr ⟨going, not_ended_of_idle idle⟩
  cases turn with
  | idles _ _ idle' outbuf spawns' _ lasts =>
    obtain ⟨ls, added, quiet⟩ := lasts
    exact ⟨log ++ ls, log_lasts grown added, .waiting idle' (outbuf.trans empty)
      (spawns'.trans spawns) notEnded (List.not_mem_append last quiet)⟩
  | flushes _ _ _ _ _ _ pending _ => exact absurd empty pending
  | starts _ _ _ hp' _ spawns' _ lasts =>
    obtain ⟨ls, added, quiet⟩ := lasts
    have busy : srv'.process ≠ none := by
      rw [hp']
      exact Option.some_ne_none _
    exact ⟨log ++ ls, log_lasts grown added,
      .running busy (by rw [spawns', spawns]) notEnded (List.not_mem_append last quiet)⟩
  | fails _ _ fails _ _ _ _ =>
    rw [spawns, spawned] at fails
    cases fails
  | goesOn _ hp _ _ _ _ _ => exact absurd (idle.symm.trans hp) (by simp)
  | ends _ hp _ _ _ _ _ _ => exact absurd (idle.symm.trans hp) (by simp)

private theorem running_next (busy : srv.process ≠ none) (spawns : srv.spawns = srv₀.spawns + 1)
    (going : ¬ ended) (last : .disconnect ∉ log)
    (all : ∀ log', srv'.log = srv₀.log ++ log' →
      accepted log' ++ srv'.outbuf = encodeAll (frames ++ srv.replies env input)) :
    Reaches srv₀ (frames ++ srv.replies env input) (ended ∨ Ended ⟨srv, input, srv'⟩) srv' := by
  cases turn with
  | idles _ idle _ _ _ _ _ => exact absurd idle busy
  | flushes _ idle _ _ _ _ _ _ => exact absurd idle busy
  | starts _ idle _ _ _ _ _ _ => exact absurd idle busy
  | fails _ idle _ _ _ _ _ => exact absurd idle busy
  | goesOn _ hp hp' ages spawns' _ lasts =>
    obtain ⟨ls, added, quiet⟩ := lasts
    have busy' : srv'.process ≠ none := by
      rw [hp']
      exact Option.some_ne_none _
    exact ⟨log ++ ls, log_lasts grown added, .running busy' (spawns'.trans spawns)
      (not_or.mpr ⟨going, not_ended_of_ages hp ages⟩) (List.not_mem_append last quiet)⟩
  | ends _ _ _ _ idle' spawns' told winds =>
    have concluded : Concluded (frames ++ srv.replies env input) := ⟨frames, _, by rw [told]⟩
    rcases winds with ⟨empty, ls, added, quiet⟩ | ⟨pending, ls, added, quiet⟩
    · obtain ⟨whole, taken⟩ := accepted_closed grown added empty all
      exact ⟨_, whole, .closed idle' empty (spawns'.trans spawns) rfl
        (List.not_mem_append last (quiet busy)) List.not_mem_nil taken concluded⟩
    · exact ⟨log ++ ls, log_lasts grown added, .ending idle' pending (spawns'.trans spawns)
        (List.not_mem_append last quiet) concluded⟩

private theorem ending_next (once : srv'.spawns ≤ srv₀.spawns + 1) (idle : srv.process = none)
    (pending : srv.outbuf ≠ []) (spawns : srv.spawns = srv₀.spawns + 1)
    (last : .disconnect ∉ log) (concluded : Concluded frames)
    (all : ∀ log', srv'.log = srv₀.log ++ log' →
      accepted log' ++ srv'.outbuf = encodeAll (frames ++ srv.replies env input)) :
    Reaches srv₀ (frames ++ srv.replies env input) (ended ∨ Ended ⟨srv, input, srv'⟩) srv' := by
  cases turn with
  | idles _ _ idle' outbuf spawns' none lasts =>
    obtain ⟨ls, added, quiet⟩ := lasts
    rw [append_none none]
    refine ⟨log ++ ls, log_lasts grown added, .ending idle' ?_ (spawns'.trans spawns)
      (List.not_mem_append last quiet) concluded⟩
    rw [outbuf]
    exact pending
  | flushes _ _ idle' empty spawns' none _ added =>
    obtain ⟨whole, taken⟩ := accepted_closed grown added empty all
    rw [append_none none] at taken ⊢
    exact ⟨_, whole, .closed idle' empty (spawns'.trans spawns) rfl
      (List.not_mem_append last (by simp)) List.not_mem_nil taken concluded⟩
  | starts _ _ _ _ _ spawns' _ _ => omega
  | fails _ _ _ _ _ spawns' _ => omega
  | goesOn _ hp _ _ _ _ _ => exact absurd (idle.symm.trans hp) (by simp)
  | ends _ hp _ _ _ _ _ _ => exact absurd (idle.symm.trans hp) (by simp)

private theorem closed_next (once : srv'.spawns ≤ srv₀.spawns + 1) {early late : List LogEntry}
    (idle : srv.process = none) (empty : srv.outbuf = []) (spawns : srv.spawns = srv₀.spawns + 1)
    (split : log = early ++ .disconnect :: late) (first : .disconnect ∉ early)
    (last : .disconnect ∉ late) (taken : accepted early = encodeAll frames)
    (concluded : Concluded frames) :
    Reaches srv₀ (frames ++ srv.replies env input) (ended ∨ Ended ⟨srv, input, srv'⟩) srv' := by
  cases turn with
  | idles _ _ idle' outbuf spawns' none lasts =>
    obtain ⟨ls, added, quiet⟩ := lasts
    have longer : log ++ ls = early ++ .disconnect :: (late ++ ls) := by
      rw [split]
      simp
    rw [append_none none]
    exact ⟨log ++ ls, log_lasts grown added, .closed idle' (outbuf.trans empty)
      (spawns'.trans spawns) longer first (List.not_mem_append last quiet) taken concluded⟩
  | flushes _ _ _ _ _ _ pending _ => exact absurd empty pending
  | starts _ _ _ _ _ spawns' _ _ => omega
  | fails _ _ _ _ _ spawns' _ => omega
  | goesOn _ hp _ _ _ _ _ => exact absurd (idle.symm.trans hp) (by simp)
  | ends _ hp _ _ _ _ _ _ => exact absurd (idle.symm.trans hp) (by simp)

end Next

theorem Online.accepted (online : Online srv₀) (empty : srv₀.outbuf = [])
    (run : Run (Flows env) srv₀ ts srv) (grown : srv.log = srv₀.log ++ log) :
    accepted log ++ srv.outbuf = encodeAll (framesOf env ts) :=
  accepted_of_bytes empty grown (online.bytes run)

theorem Online.reaches (online : Online srv₀) (idle : srv₀.process = none)
    (empty : srv₀.outbuf = []) (spawned : env.uvSpawn srv₀.spawns = true)
    (run : Run (Flows env) srv₀ ts srv) (once : srv.spawns ≤ srv₀.spawns + 1) :
    Reaches srv₀ (framesOf env ts) (∃ t ∈ ts, Ended t) srv := by
  induction run with
  | nil => exact ⟨[], (List.append_nil _).symm, .waiting idle empty rfl (by simp) (by simp)⟩
  | snoc prior flows ih =>
    obtain ⟨turn, _⟩ := (online.run prior).turn flows
    obtain ⟨log, grown, phase⟩ := ih (le_trans turn.spawns_le once)
    have all : ∀ log', _ = srv₀.log ++ log' → _ = encodeAll _ :=
      fun _ => online.accepted empty (prior.snoc flows)
    rw [ended_snoc, framesOf_snoc]
    rw [framesOf_snoc] at all
    cases phase with
    | waiting idle empty spawns going last =>
      exact waiting_next turn grown spawned idle empty spawns going last
    | running busy spawns going last => exact running_next turn grown busy spawns going last all
    | ending idle pending spawns last concluded =>
      exact ending_next turn grown once idle pending spawns last concluded all
    | closed idle empty spawns split first last taken concluded =>
      exact closed_next turn grown once idle empty spawns split first last taken concluded

private theorem count_disconnect {early late : List LogEntry} (first : .disconnect ∉ early)
    (last : .disconnect ∉ late) : (early ++ .disconnect :: late).count .disconnect = 1 := by
  rw [List.count_append, List.count_cons_self, List.count_eq_zero_of_not_mem first,
    List.count_eq_zero_of_not_mem last]

private theorem split_disconnect {early late before after : List LogEntry}
    (same : early ++ .disconnect :: late = before ++ .disconnect :: after)
    (first : .disconnect ∉ early) (last : .disconnect ∉ late) : before = early := by
  rcases List.append_eq_append_iff.mp same with ⟨as, rfl, rest⟩ | ⟨bs, rfl, rest⟩
  · cases as with
    | nil => exact List.append_nil _
    | cons a as =>
      obtain ⟨_, rfl⟩ := List.cons.inj rest
      exact absurd (List.mem_append_right as List.mem_cons_self) last
  · cases bs with
    | nil => exact (List.append_nil _).symm
    | cons b bs =>
      obtain ⟨rfl, _⟩ := List.cons.inj rest
      exact absurd (List.mem_append_right before List.mem_cons_self) first

/-- On a connection that stays up, with one command that is spawned, and a channel that takes all
or nothing: what was taken and what waits are the queued messages; the connection is closed
softly once at most, when all of them, the end of the process included, were taken; and it has
been closed wherever the end was told and nothing waits. -/
theorem delivered_in_order {s : S3TPServer} {ts₀ : List (Transition S3TPServer Input)}
    (starts : start env = some s) (before : Run (Called env) s ts₀ srv₀)
    (up : srv₀.channel ≠ none) (idle : srv₀.process = none) (empty : srv₀.outbuf = [])
    (run : Run (Flows env) srv₀ ts srv) (spawned : env.uvSpawn srv₀.spawns = true)
    (once : srv.spawns ≤ srv₀.spawns + 1) :
    ∃ log, srv.log = srv₀.log ++ log ∧
      accepted log ++ srv.outbuf = encodeAll (framesOf env ts) ∧
      log.count .disconnect ≤ 1 ∧
      (∀ early late, log = early ++ .disconnect :: late →
        accepted early = encodeAll (framesOf env ts) ∧
          ∃ ms text, framesOf env ts = ms ++ [(.ENDOFFILE, text)]) ∧
      ((∃ t ∈ ts, Ended t) → srv.outbuf = [] → .disconnect ∈ log) := by
  have online : Online srv₀ := online_of_run starts before up
  obtain ⟨log, grown, phase⟩ := online.reaches idle empty spawned run once
  refine ⟨log, grown, online.accepted empty run grown, ?_⟩
  have open_ (none : .disconnect ∉ log) : log.count .disconnect ≤ 1 ∧
      ∀ early late, log = early ++ .disconnect :: late →
        accepted early = encodeAll (framesOf env ts) ∧
          ∃ ms text, framesOf env ts = ms ++ [(.ENDOFFILE, text)] := by
    rw [List.count_eq_zero_of_not_mem none]
    refine ⟨Nat.zero_le 1, ?_⟩
    rintro early late rfl
    exact absurd (List.mem_append_right early List.mem_cons_self) none
  cases phase with
  | waiting _ _ _ going none =>
    exact ⟨(open_ none).1, (open_ none).2, fun ended => absurd ended going⟩
  | running _ _ going none =>
    exact ⟨(open_ none).1, (open_ none).2, fun ended => absurd ended going⟩
  | ending _ pending _ none _ =>
    exact ⟨(open_ none).1, (open_ none).2, fun _ empty => absurd empty pending⟩
  | @closed first last _ _ _ split notFirst notLast taken concluded =>
    subst split
    refine ⟨le_of_eq (count_disconnect notFirst notLast), ?_, ?_⟩
    · intro early late same
      rw [split_disconnect same notFirst notLast]
      exact ⟨taken, concluded⟩
    · intro _ _
      exact List.mem_append_right first List.mem_cons_self

/-- A channel whose buffer is full until the process has ended. -/
def slow : Env := { Env.fine with send := fun n => if n = 0 ∨ 4 ≤ n then .accepted else .bufferFull }

private theorem slow_works (n : ℕ) : slow.send n ≠ .failed := by
  change (if n = 0 ∨ 4 ≤ n then SendResult.accepted else .bufferFull) ≠ .failed
  split
  · decide
  · decide

/-- The command says hello and ends, and only then the buffer of the channel becomes empty. -/
def lateFlush : List Input :=
  [.data (encode .NONE [108, 115, 10]), .output true [104, 105, 10], .exited 0 0, .handleClosed,
    .bufferEmpty]

theorem delivered_in_order_slow :
    ∃ ts srv log, Run (Flows slow) new.connected ts srv ∧ ts.map Transition.label = lateFlush ∧
      srv.log = new.connected.log ++ log ∧
      accepted log ++ srv.outbuf = encodeAll (framesOf slow ts) ∧
      log.count .disconnect ≤ 1 ∧
      (∀ early late, log = early ++ .disconnect :: late →
        accepted early = encodeAll (framesOf slow ts) ∧
          ∃ ms text, framesOf slow ts = ms ++ [(.ENDOFFILE, text)]) ∧
      ((∃ t ∈ ts, Ended t) → srv.outbuf = [] → .disconnect ∈ log) := by
  have starts : start slow = some new.connected := reconnect_bind rfl rfl ⟨rfl, rfl⟩
  obtain ⟨ts, srv, run, labels, once⟩ :=
    exists_run_to (flows_of_eq slow_works) new.connected lateFlush (fun srv => srv.spawns ≤ 1)
      (by decide +kernel)
  obtain ⟨log, delivered⟩ := delivered_in_order starts .nil (Option.some_ne_none _) rfl rfl run rfl
    (of_decide_eq_true once)
  exact ⟨ts, srv, log, run, labels, delivered⟩

end S3TPServer

end Horst.S3tp
