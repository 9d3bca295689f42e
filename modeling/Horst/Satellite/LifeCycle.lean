import Horst.Satellite.Scope
import Mathlib.Data.List.Perm.Basic

/-!
The life of an action: the id that `add_action` hands out, the `sh -c` process that runs
its script, and the call of `remove_action` that ends it.
-/

set_option autoImplicit false
set_option relaxedAutoImplicit false

namespace Horst

open Foundation Foundation.Nested

private theorem perm_interleave {α : Type*} (as bs cs ds : List α) :
    (as ++ bs ++ (cs ++ ds)).Perm (as ++ cs ++ (bs ++ ds)) := by
  rw [List.append_assoc, List.append_assoc]
  apply List.Perm.append_left
  rw [← List.append_assoc, ← List.append_assoc]
  exact List.Perm.append_right ds List.perm_append_comm

def Child.entry (child : Child) : ℕ × Action := (child.id, child.action)

/-- The id that `remove_action` is called with right after this entry of the chronicle. -/
def LogEntry.removed? : LogEntry → Option ℕ
  | .finished id _ => some id
  | _ => none

def Input.Ends (id : ℕ) : Input → Prop
  | .event _ => False
  | .exited child _ _ => child.id = id

namespace Satellite

/-- The ids that `remove_action` was called with, in the order of the calls. -/
def removals (sat : Satellite) : List ℕ := sat.log.filterMap LogEntry.removed?

@[simp] theorem removals_record (sat : Satellite) (entry : LogEntry) :
    (sat.record entry).removals = sat.removals ++ entry.removed?.toList := by
  cases h : entry.removed? <;> simp [removals, record, h]

@[simp] theorem removals_created (sat : Satellite) (id : ℕ) (a : Action) (spawned : Bool) :
    (sat.created id a spawned).removals = sat.removals :=
  (removals_record sat _).trans (List.append_nil _)

@[simp] theorem removals_prepared (sat : Satellite) (a : Action) :
    (sat.prepared a).removals = sat.removals :=
  (removals_record (sat.addAction a).2 _).trans (List.append_nil _)

@[simp] theorem removals_freed (sat : Satellite) (id : ℕ) (success : Bool) :
    (sat.freed id success).removals = sat.removals ++ [id] := removals_record sat _

def Fresh (sat : Satellite) : Prop := ∀ entry ∈ sat.actions, entry.1 < sat.nextId

/-- What a computation adds: the children it leaves running, the ids it removed itself
and its launches. Both kinds of ids together are those that it handed out. -/
structure Growth (sat sat' : Satellite) (children : List Child) (gone : List ℕ)
    (launched : List Launch) (count : ℕ) : Prop where
  running : sat'.running = sat.running ++ children
  removals : sat'.removals = sat.removals ++ gone
  nextId : sat'.nextId = sat.nextId + count
  ids : (children.map Child.id ++ gone).Perm (List.range' sat.nextId count)
  launches : sat'.launches = sat.launches ++ launched
  spawned : gone = [] ↔ ∀ l ∈ launched, l.spawned = true
  held : sat.Fresh → sat'.actions.Perm (sat.actions ++ children.map Child.entry)

def Grown (sat sat' : Satellite) : Prop :=
  ∃ children gone launched count, Growth sat sat' children gone launched count

variable {uvSpawn : Script → ℕ → Bool} {sat sat₁ sat₂ sat' : Satellite}

theorem Growth.none (running : sat'.running = sat.running) (removals : sat'.removals = sat.removals)
    (nextId : sat'.nextId = sat.nextId) (launches : sat'.launches = sat.launches)
    (actions : sat'.actions = sat.actions) : Growth sat sat' [] [] [] 0 where
  running := by rw [running, List.append_nil]
  removals := by rw [removals, List.append_nil]
  nextId := nextId
  ids := List.Perm.refl []
  launches := by rw [launches, List.append_nil]
  spawned := iff_of_true rfl fun _ mem => by cases mem
  held _ := by
    rw [actions, List.map_nil, List.append_nil]

private theorem Growth.id_range {cs : List Child} {gone : List ℕ} {ls : List Launch} {k id : ℕ}
    (growth : Growth sat sat' cs gone ls k) (mem : id ∈ cs.map Child.id ++ gone) :
    sat.nextId ≤ id ∧ id < sat.nextId + k :=
  List.mem_range'_1.mp (growth.ids.mem_iff.mp mem)

private theorem Growth.child_range {cs : List Child} {gone : List ℕ} {ls : List Launch} {k : ℕ}
    (growth : Growth sat sat' cs gone ls k) {child : Child} (mem : child ∈ cs) :
    sat.nextId ≤ child.id ∧ child.id < sat.nextId + k :=
  growth.id_range (List.mem_append_left gone (List.mem_map_of_mem mem))

theorem Growth.fresh {cs : List Child} {gone : List ℕ} {ls : List Launch} {k : ℕ}
    (growth : Growth sat sat' cs gone ls k) (fresh : sat.Fresh) : sat'.Fresh := by
  intro entry mem
  rw [growth.nextId]
  rcases List.mem_append.mp ((growth.held fresh).mem_iff.mp mem) with old | new
  · have below := fresh entry old
    omega
  · obtain ⟨child, mem', rfl⟩ := List.mem_map.mp new
    exact (growth.child_range mem').2

theorem Growth.trans {cs₁ cs₂ : List Child} {gone₁ gone₂ : List ℕ} {ls₁ ls₂ : List Launch}
    {k₁ k₂ : ℕ} (first : Growth sat sat₁ cs₁ gone₁ ls₁ k₁)
    (second : Growth sat₁ sat' cs₂ gone₂ ls₂ k₂) :
    Growth sat sat' (cs₁ ++ cs₂) (gone₁ ++ gone₂) (ls₁ ++ ls₂) (k₁ + k₂) where
  running := by rw [second.running, first.running, List.append_assoc]
  removals := by rw [second.removals, first.removals, List.append_assoc]
  nextId := by rw [second.nextId, first.nextId, Nat.add_assoc]
  ids := by
    have ids₂ := second.ids
    rw [first.nextId] at ids₂
    have split : List.range' sat.nextId (k₁ + k₂) =
        List.range' sat.nextId k₁ ++ List.range' (sat.nextId + k₁) k₂ := by
      rw [List.range'_append_1]
    rw [split, List.map_append]
    exact (perm_interleave _ _ _ _).trans (first.ids.append ids₂)
  launches := by rw [second.launches, first.launches, List.append_assoc]
  spawned := by
    rw [List.append_eq_nil_iff, first.spawned, second.spawned]
    constructor
    · rintro ⟨early, late⟩ l mem
      rcases List.mem_append.mp mem with mem | mem
      · exact early l mem
      · exact late l mem
    · intro all
      constructor
      · exact fun l mem => all l (List.mem_append_left ls₂ mem)
      · exact fun l mem => all l (List.mem_append_right ls₁ mem)
  held fresh := by
    have late := second.held (first.fresh fresh)
    rw [List.map_append, ← List.append_assoc]
    exact late.trans ((first.held fresh).append_right _)

private theorem fresh_prepared (fresh : sat.Fresh) (a : Action) : (sat.prepared a).Fresh := by
  intro entry mem
  change entry.1 < sat.nextId + 1
  rcases List.mem_append.mp mem with old | new
  · have below := fresh entry old
    omega
  · rw [List.mem_singleton.mp new]
    exact Nat.lt_succ_self sat.nextId

theorem Growth.started {a : Action} {cs : List Child} {gone : List ℕ} {ls : List Launch} {k : ℕ}
    (growth : Growth (sat.prepared a) sat₁ cs gone ls k) :
    Growth sat ((sat₁.created sat.nextId a true).started sat.nextId a)
      (cs ++ [⟨sat.nextId, a⟩]) gone (ls ++ [⟨a, sat₁.currentState, true⟩]) (k + 1) where
  running := by
    change sat₁.running ++ _ = _
    rw [growth.running, List.append_assoc]
    rfl
  removals := by
    change (sat₁.created sat.nextId a true).removals = _
    rw [removals_created, growth.removals, removals_prepared]
  nextId := by
    have next : sat₁.nextId = sat.nextId + 1 + k := growth.nextId
    change sat₁.nextId = _
    omega
  ids := by
    have ids : (cs.map Child.id ++ gone).Perm (List.range' (sat.nextId + 1) k) := growth.ids
    rw [List.range'_succ, List.map_append, List.append_assoc]
    exact List.perm_middle.trans (List.Perm.cons sat.nextId ids)
  launches := by
    rw [launches_started, launches_created, growth.launches, launches_prepared, List.append_assoc]
  spawned := by
    rw [growth.spawned]
    constructor
    · intro all l mem
      rcases List.mem_append.mp mem with old | new
      · exact all l old
      · rw [List.mem_singleton.mp new]
    · intro all l mem
      exact all l (List.mem_append_left _ mem)
  held fresh := by
    have held := growth.held (fresh_prepared fresh a)
    change sat₁.actions.Perm _
    have shuffle : ((sat.prepared a).actions ++ cs.map Child.entry).Perm
        (sat.actions ++ (cs ++ [(⟨sat.nextId, a⟩ : Child)]).map Child.entry) := by
      change ((sat.actions ++ [(sat.nextId, a)]) ++ cs.map Child.entry).Perm _
      rw [List.append_assoc, List.map_append]
      exact List.Perm.append_left sat.actions (List.perm_append_comm)
    exact held.trans shuffle

private theorem actions_freed {entries : List (ℕ × Action)} {a : Action} {id : ℕ} {success : Bool}
    (held : sat.actions.Perm ((id, a) :: entries)) (others : ∀ entry ∈ entries, entry.1 ≠ id) :
    (sat.freed id success).actions.Perm entries := by
  have kept : entries.filter (fun entry => entry.1 ≠ id) = entries := by
    rw [List.filter_eq_self]
    intro entry mem
    exact decide_eq_true (others entry mem)
  have filtered := held.filter fun entry => entry.1 ≠ id
  rw [List.filter_cons_of_neg (by simp), kept] at filtered
  exact filtered

private theorem Growth.failed_actions {a : Action} {cs₁ cs₂ : List Child} {gone₁ gone₂ : List ℕ}
    {ls₁ ls₂ : List Launch} {k₁ k₂ : ℕ} (first : Growth (sat.prepared a) sat₁ cs₁ gone₁ ls₁ k₁)
    (second : Growth ((sat₁.created sat.nextId a false).record (.exited sat.nextId a (-1))) sat₂
      cs₂ gone₂ ls₂ k₂) (fresh : sat.Fresh) :
    (sat₂.freed sat.nextId false).actions.Perm
      (sat.actions ++ (cs₁ ++ cs₂).map Child.entry) := by
  have fresh₁ := fresh_prepared fresh a
  have held₁ : sat₁.actions.Perm ((sat.actions ++ [(sat.nextId, a)]) ++ cs₁.map Child.entry) :=
    first.held fresh₁
  have held₂ : sat₂.actions.Perm (sat₁.actions ++ cs₂.map Child.entry) :=
    second.held (first.fresh fresh₁)
  have front : (sat.actions ++ [(sat.nextId, a)] ++ cs₁.map Child.entry ++
      cs₂.map Child.entry).Perm ((sat.nextId, a) ::
        (sat.actions ++ (cs₁ ++ cs₂).map Child.entry)) := by
    rw [List.map_append, List.append_assoc, List.append_assoc]
    exact List.perm_middle
  apply actions_freed ((held₂.trans (held₁.append_right _)).trans front)
  have next : sat₁.nextId = sat.nextId + 1 + k₁ := first.nextId
  intro entry mem
  rcases List.mem_append.mp mem with old | new
  · have below := fresh entry old
    omega
  · obtain ⟨child, mem', rfl⟩ := List.mem_map.mp new
    change child.id ≠ sat.nextId
    rcases List.mem_append.mp mem' with early | late
    · have above : sat.nextId + 1 ≤ child.id := (first.child_range early).1
      omega
    · have above : sat₁.nextId ≤ child.id := (second.child_range late).1
      omega

theorem Growth.failed {a : Action} {cs₁ cs₂ : List Child} {gone₁ gone₂ : List ℕ}
    {ls₁ ls₂ : List Launch} {k₁ k₂ : ℕ} (first : Growth (sat.prepared a) sat₁ cs₁ gone₁ ls₁ k₁)
    (second : Growth ((sat₁.created sat.nextId a false).record (.exited sat.nextId a (-1))) sat₂
      cs₂ gone₂ ls₂ k₂) :
    Growth sat (sat₂.freed sat.nextId false) (cs₁ ++ cs₂) (gone₁ ++ gone₂ ++ [sat.nextId])
      (ls₁ ++ ⟨a, sat₁.currentState, false⟩ :: ls₂) (k₁ + k₂ + 1) := by
  set left := (sat₁.created sat.nextId a false).record (.exited sat.nextId a (-1)) with hleft
  have next : sat₁.nextId = sat.nextId + 1 + k₁ := first.nextId
  have ids₁ : (cs₁.map Child.id ++ gone₁).Perm (List.range' (sat.nextId + 1) k₁) := first.ids
  have ids₂ : (cs₂.map Child.id ++ gone₂).Perm (List.range' (sat.nextId + 1 + k₁) k₂) := by
    have ids := second.ids
    rwa [show left.nextId = sat.nextId + 1 + k₁ from next] at ids
  constructor
  · change sat₂.running = _
    rw [second.running, show left.running = sat₁.running from rfl, first.running,
      List.append_assoc]
    rfl
  · have removals : left.removals = sat₁.removals := by
      rw [hleft, removals_record, removals_created]
      exact List.append_nil _
    rw [removals_freed, second.removals, removals, first.removals, removals_prepared,
      List.append_assoc, List.append_assoc, List.append_assoc]
  · change sat₂.nextId = _
    have next₂ : sat₂.nextId = sat₁.nextId + k₂ := second.nextId
    omega
  · have split : List.range' sat.nextId (k₁ + k₂ + 1) =
        sat.nextId :: (List.range' (sat.nextId + 1) k₁ ++
          List.range' (sat.nextId + 1 + k₁) k₂) := by
      rw [List.range'_succ, List.range'_append_1]
    have shuffle := perm_interleave (cs₁.map Child.id) (cs₂.map Child.id) gone₁ gone₂
    rw [split, ← List.append_assoc, List.map_append]
    exact (List.perm_append_singleton _ _).trans
      (List.Perm.cons sat.nextId (shuffle.trans (ids₁.append ids₂)))
  · have launches : left.launches = sat₁.launches ++ [⟨a, sat₁.currentState, false⟩] := by
      rw [hleft, launches_record, launches_created]
      exact List.append_nil _
    rw [launches_freed, second.launches, launches, first.launches, launches_prepared,
      List.append_assoc, List.append_assoc]
    rfl
  · constructor
    · intro none
      simp at none
    · intro all
      have failed := all ⟨a, sat₁.currentState, false⟩ (by simp)
      cases failed
  · exact first.failed_actions second

private theorem kept_grown : Kept uvSpawn Scope.whole Grown where
  refl sat := ⟨[], [], [], 0, Growth.none rfl rfl rfl rfl rfl⟩
  trans := by
    rintro _ _ _ ⟨cs₁, gone₁, ls₁, k₁, first⟩ ⟨cs₂, gone₂, ls₂, k₂, second⟩
    exact ⟨_, _, _, _, first.trans second⟩
  heard sat e _ := by
    refine ⟨[], [], [], 0, Growth.none rfl ?_ rfl ?_ rfl⟩
    · exact (removals_record sat _).trans (List.append_nil _)
    · exact launches_heard sat e
  unsafed sat := ⟨[], [], [], 0, Growth.none rfl rfl rfl rfl rfl⟩
  started sat sat₁ a _ grown _ := by
    obtain ⟨cs, gone, ls, k, growth⟩ := grown
    exact ⟨_, _, _, _, growth.started⟩
  failed sat sat₁ sat₂ a _ grown₁ _ grown₂ := by
    obtain ⟨cs₁, gone₁, ls₁, k₁, first⟩ := grown₁
    obtain ⟨cs₂, gone₂, ls₂, k₂, second⟩ := grown₂
    exact ⟨_, _, _, _, first.failed second⟩

private theorem grown_record (entry : LogEntry) (removed : entry.removed? = none)
    (launch : entry.launch? = none) : Grown sat (sat.record entry) := by
  refine ⟨[], [], [], 0, Growth.none rfl ?_ rfl ?_ rfl⟩
  · rw [removals_record, removed]
    exact List.append_nil _
  · rw [launches_record, launch]
    exact List.append_nil _

private theorem grown_event {n : ℕ} {e : Event}
    (h : sat.callback (onEvent uvSpawn n) (.event e) = some sat') : Grown sat sat' := by
  have kept : Kept uvSpawn Scope.whole Grown := kept_grown
  have woken : Grown sat (sat.record (.callback sat.currentState)) := grown_record _ rfl rfl
  exact kept.trans woken (kept.call n trivial h)

private theorem grown_exited {n : ℕ} {child : Child} {exitStatus termSignal : Int}
    (reported : termSignal ≠ SIGTERM)
    (h : sat.callback (onEvent uvSpawn n) (.exited child exitStatus termSignal) = some sat') :
    ∃ sat₁, Grown (sat.ended child) sat₁ ∧ sat' = sat₁.freed child.id (exitStatus = 0) := by
  unfold callback at h
  simp only [reported, ne_eq, not_false_eq_true, if_true] at h
  have kept : Kept uvSpawn Scope.whole Grown := kept_grown
  obtain ⟨sat₁, grown, freed⟩ := kept.exited_told n h
  refine ⟨sat₁, ?_, freed⟩
  set woken := (sat.record (.callback sat.currentState)).ended child with hwoken
  have first : Grown (sat.ended child) woken := grown_record (.callback sat.currentState) rfl rfl
  have second : Grown woken (woken.record (.exited child.id child.action exitStatus)) :=
    grown_record _ rfl rfl
  exact kept.trans first (kept.trans second grown)

private theorem callback_killed {n : ℕ} {child : Child} {exitStatus : Int}
    (h : sat.callback (onEvent uvSpawn n) (.exited child exitStatus SIGTERM) = some sat') :
    sat' = (sat.record (.callback sat.currentState)).ended child := by
  unfold callback at h
  simp only [ne_eq, not_true_eq_false, if_false] at h
  exact (Option.some.inj h).symm

/-- Between two callbacks: the map holds the actions whose script is running, and each
id handed out is that of a running script or has been removed, once. -/
structure Tidy (sat : Satellite) : Prop where
  held : sat.actions.Perm (sat.running.map Child.entry)
  once : (sat.running.map Child.id ++ sat.removals).Perm (List.range sat.nextId)

theorem Tidy.fresh (tidy : sat.Tidy) : sat.Fresh := by
  intro entry mem
  obtain ⟨child, mem', rfl⟩ := List.mem_map.mp (tidy.held.mem_iff.mp mem)
  have id : child.id ∈ sat.running.map Child.id ++ sat.removals :=
    List.mem_append_left _ (List.mem_map_of_mem mem')
  exact List.mem_range.mp (tidy.once.mem_iff.mp id)

private theorem Tidy.nodup (tidy : sat.Tidy) : (sat.running.map Child.id).Nodup := by
  have nodup : (sat.running.map Child.id ++ sat.removals).Nodup :=
    tidy.once.nodup_iff.mpr List.nodup_range
  exact (List.nodup_append.mp nodup).1

private theorem Tidy.mem_actions (tidy : sat.Tidy) {child : Child} (mem : child ∈ sat.running) :
    child.id ∈ sat.actions.map Prod.fst := by
  have entry : child.entry ∈ sat.actions := tidy.held.mem_iff.mpr (List.mem_map_of_mem mem)
  exact List.mem_map_of_mem entry

/-- A transition in which `remove_action` is called for actions in the map only, whose
`perform` has returned in an earlier callback and whose process has ended. -/
structure LifeCycle (t : Transition Satellite Input) : Prop where
  tidy : t.target.Tidy
  known : ∀ id ∈ t.target.removals.drop t.source.removals.length,
    id ∈ t.source.actions.map Prod.fst ∧ t.label.Ends id

/-- Every script could be started so far, and SIGTERM did not end the script of this callback. -/
structure Regular (t : Transition Satellite Input) : Prop where
  reported : ∀ child exitStatus termSignal, t.label = .exited child exitStatus termSignal →
    termSignal ≠ SIGTERM
  spawned : ∀ l ∈ t.target.launches, l.spawned = true

private theorem drop_removals {gone : List ℕ} (removals : sat'.removals = sat.removals ++ gone) :
    sat'.removals.drop sat.removals.length = gone := by
  rw [removals, List.drop_left]

/-- The ids of what a computation added, in a map and a chronicle that were in order. -/
theorem Growth.once {running : List Child} {removed : List ℕ} {cs : List Child} {ls : List Launch}
    {k : ℕ} (growth : Growth sat sat' cs [] ls k)
    (once : (running.map Child.id ++ removed).Perm (List.range sat.nextId)) :
    ((running ++ cs).map Child.id ++ removed).Perm (List.range sat'.nextId) := by
  have ids : (cs.map Child.id).Perm (List.range' sat.nextId k) := by
    have all := growth.ids
    rwa [List.append_nil] at all
  have split : List.range (sat.nextId + k) = List.range sat.nextId ++ List.range' sat.nextId k := by
    rw [List.range_eq_range', List.range_eq_range', ← List.range'_append_1, Nat.zero_add]
  have shuffle : ((running ++ cs).map Child.id ++ removed).Perm
      (running.map Child.id ++ removed ++ cs.map Child.id) := by
    rw [List.map_append, List.append_assoc, List.append_assoc]
    exact List.Perm.append_left _ List.perm_append_comm
  rw [growth.nextId, split]
  exact shuffle.trans (once.append ids)

private theorem tidy_event {cs : List Child} {ls : List Launch} {k : ℕ} (tidy : sat.Tidy)
    (growth : Growth sat sat' cs [] ls k) : sat'.Tidy := by
  constructor
  · have held := growth.held tidy.fresh
    rw [growth.running, List.map_append]
    exact held.trans (tidy.held.append_right _)
  · rw [growth.running, growth.removals, List.append_nil]
    exact growth.once tidy.once

private theorem tidy_exited
    {child : Child} {cs : List Child} {ls : List Launch} {k : ℕ} {success : Bool}
    (tidy : sat.Tidy) (mem : child ∈ sat.running)
    (growth : Growth (sat.ended child) sat₁ cs [] ls k) :
    (sat₁.freed child.id success).Tidy := by
  have whole : sat.running.Perm (child :: sat.running.erase child) := List.perm_cons_erase mem
  have distinct : ∀ other ∈ sat.running.erase child, other.id ≠ child.id := by
    intro other mem' same
    have nodup : ((child :: sat.running.erase child).map Child.id).Nodup :=
      (whole.map Child.id).nodup_iff.mp tidy.nodup
    rw [List.map_cons] at nodup
    apply (List.nodup_cons.mp nodup).1
    rw [← same]
    exact List.mem_map_of_mem mem'
  have running : sat₁.running = sat.running.erase child ++ cs := growth.running
  have next : (sat.ended child).nextId = sat.nextId := rfl
  have removals : sat₁.removals = sat.removals := by
    have all := growth.removals
    rwa [List.append_nil] at all
  constructor
  · have held : sat₁.actions.Perm (sat.actions ++ cs.map Child.entry) := growth.held tidy.fresh
    have front : (sat.actions ++ cs.map Child.entry).Perm
        ((child.id, child.action) :: ((sat.running.erase child).map Child.entry ++
          cs.map Child.entry)) :=
      (tidy.held.trans (whole.map Child.entry)).append_right _
    change (sat₁.freed child.id success).actions.Perm (sat₁.running.map Child.entry)
    rw [running, List.map_append]
    apply actions_freed (held.trans front)
    intro entry mem'
    rcases List.mem_append.mp mem' with old | new
    · obtain ⟨other, mem₁, rfl⟩ := List.mem_map.mp old
      exact distinct other mem₁
    · obtain ⟨other, mem₁, rfl⟩ := List.mem_map.mp new
      have above : sat.nextId ≤ other.id := (growth.child_range mem₁).1
      have below : child.id < sat.nextId :=
        tidy.fresh child.entry (tidy.held.mem_iff.mpr (List.mem_map_of_mem mem))
      change other.id ≠ child.id
      omega
  · have once : ((sat.running.erase child).map Child.id ++ (sat.removals ++ [child.id])).Perm
        (List.range (sat.ended child).nextId) := by
      have front : ((sat.running.erase child).map Child.id ++ (sat.removals ++ [child.id])).Perm
          (sat.running.map Child.id ++ sat.removals) := by
        rw [← List.append_assoc]
        exact (List.perm_append_singleton _ _).trans
          ((whole.map Child.id).symm.append_right sat.removals)
      exact front.trans tidy.once
    have all := growth.once once
    change (sat₁.running.map Child.id ++ (sat₁.freed child.id success).removals).Perm
      (List.range sat₁.nextId)
    rw [removals_freed, removals, running]
    exact all

private theorem gone_eq_nil_iff {cs : List Child} {gone : List ℕ} {ls : List Launch} {k : ℕ}
    (growth : Growth sat sat' cs gone ls k) (early : ∀ l ∈ sat.launches, l.spawned = true) :
    gone = [] ↔ ∀ l ∈ sat'.launches, l.spawned = true := by
  rw [growth.spawned, growth.launches]
  constructor
  · intro late l mem
    rcases List.mem_append.mp mem with mem | mem
    · exact early l mem
    · exact late l mem
  · intro all l mem
    exact all l (List.mem_append_right _ mem)

private theorem lifeCycle_event {n : ℕ} {e : Event} (tidy : sat.Tidy)
    (early : ∀ l ∈ sat.launches, l.spawned = true)
    (call : sat.callback (onEvent uvSpawn n) (.event e) = some sat') :
    LifeCycle ⟨sat, .event e, sat'⟩ ↔ Regular ⟨sat, .event e, sat'⟩ := by
  obtain ⟨cs, gone, ls, k, growth⟩ := grown_event call
  have none := gone_eq_nil_iff growth early
  constructor
  · intro cycle
    have nothing : gone = [] := by
      rw [List.eq_nil_iff_forall_not_mem]
      intro id mem
      have known := cycle.known id (by rw [drop_removals growth.removals]; exact mem)
      exact known.2
    refine ⟨?_, none.mp nothing⟩
    intro child exitStatus termSignal label
    cases label
  · intro regular
    obtain rfl := none.mpr regular.spawned
    refine ⟨tidy_event tidy growth, ?_⟩
    intro id mem
    rw [drop_removals growth.removals] at mem
    cases mem

private theorem not_lifeCycle_killed {n : ℕ} {child : Child} {exitStatus : Int} (tidy : sat.Tidy)
    (mem : child ∈ sat.running)
    (call : sat.callback (onEvent uvSpawn n) (.exited child exitStatus SIGTERM) = some sat') :
    ¬ LifeCycle ⟨sat, .exited child exitStatus SIGTERM, sat'⟩ := by
  rw [callback_killed call]
  intro cycle
  have held : sat.actions.Perm ((sat.running.erase child).map Child.entry) := cycle.tidy.held
  have lengths := (tidy.held.symm.trans held).length_eq
  rw [List.length_map, List.length_map, List.length_erase_of_mem mem] at lengths
  have positive := List.length_pos_of_mem mem
  omega

private theorem lifeCycle_exited
    {n : ℕ} {child : Child} {exitStatus termSignal : Int} (tidy : sat.Tidy)
    (early : ∀ l ∈ sat.launches, l.spawned = true) (mem : child ∈ sat.running)
    (reported : termSignal ≠ SIGTERM)
    (call : sat.callback (onEvent uvSpawn n) (.exited child exitStatus termSignal) = some sat') :
    LifeCycle ⟨sat, .exited child exitStatus termSignal, sat'⟩ ↔
      Regular ⟨sat, .exited child exitStatus termSignal, sat'⟩ := by
  obtain ⟨sat₁, ⟨cs, gone, ls, k, growth⟩, rfl⟩ := grown_exited reported call
  have none := gone_eq_nil_iff growth early
  have removals : (sat₁.freed child.id (exitStatus = 0)).removals =
      sat.removals ++ (gone ++ [child.id]) := by
    have all : sat₁.removals = sat.removals ++ gone := growth.removals
    rw [removals_freed, all, List.append_assoc]
  constructor
  · intro cycle
    have nothing : gone = [] := by
      rw [List.eq_nil_iff_forall_not_mem]
      intro id mem'
      have known := cycle.known id (by
        rw [drop_removals removals]
        exact List.mem_append_left _ mem')
      -- a freed id was handed out in this callback, so the map could not know it before
      obtain ⟨entry, held, rfl⟩ := List.mem_map.mp known.1
      have below := tidy.fresh entry held
      have above : sat.nextId ≤ entry.1 := (growth.id_range (List.mem_append_right _ mem')).1
      omega
    refine ⟨?_, ?_⟩
    · intro child' exitStatus' termSignal' label
      cases label
      exact reported
    · change ∀ l ∈ (sat₁.freed child.id (exitStatus = 0)).launches, l.spawned = true
      rw [launches_freed]
      exact none.mp nothing
  · intro regular
    have spawned : ∀ l ∈ sat₁.launches, l.spawned = true := by
      have all := regular.spawned
      rwa [launches_freed] at all
    obtain rfl := none.mpr spawned
    refine ⟨tidy_exited tidy mem growth, ?_⟩
    intro id mem'
    rw [drop_removals removals] at mem'
    have same : id = child.id := List.mem_singleton.mp mem'
    rw [same]
    exact ⟨tidy.mem_actions mem, rfl⟩

private theorem lifeCycle_step {input : Input} (tidy : sat.Tidy)
    (early : ∀ l ∈ sat.launches, l.spawned = true) (h : Step uvSpawn sat input sat') :
    LifeCycle ⟨sat, input, sat'⟩ ↔ Regular ⟨sat, input, sat'⟩ := by
  obtain ⟨enabled, n, call⟩ := h
  cases input with
  | event e => exact lifeCycle_event tidy early call
  | exited child exitStatus termSignal =>
    have mem : child ∈ sat.running := enabled
    by_cases killed : termSignal = SIGTERM
    · subst killed
      apply iff_of_false (not_lifeCycle_killed tidy mem call)
      intro regular
      exact regular.reported child exitStatus SIGTERM rfl rfl
    · exact lifeCycle_exited tidy early mem killed call

private theorem new_tidy
    (args : Arguments) (enforced : Bool) : (Satellite.new args enforced).Tidy :=
  ⟨List.Perm.refl [], List.Perm.refl []⟩

/-- Over a run: the map of actions and the calls of `remove_action` are in order exactly
if every script could be started and SIGTERM ended none. -/
theorem lifeCycle_iff (uvSpawn : Script → ℕ → Bool) (args : Arguments) (enforced : Bool)
    {ts : List (Transition Satellite Input)}
    (run : Run (Step uvSpawn) (Satellite.new args enforced) ts sat) :
    (∀ t ∈ ts, LifeCycle t) ↔ ∀ t ∈ ts, Regular t := by
  refine Run.forall_iff
    (I := fun sat => sat.Tidy ∧ ∀ l ∈ sat.launches, l.spawned = true) ?_ ?_ run
  · exact ⟨new_tidy args enforced, fun _ mem => by cases mem⟩
  · rintro sat input sat' ⟨tidy, early⟩ step
    have share := lifeCycle_step tidy early step
    refine ⟨share, ?_⟩
    intro regular
    exact ⟨(share.mpr regular).tidy, regular.spawned⟩

theorem lifeCycle_iff_finished :
    ∃ ts sat, Run (Step fun _ _ => true) (Satellite.new {} false) ts sat ∧
      ts.map Transition.label =
        [.event (.thmSignal .ok), .exited ⟨0, .triggerDetumbling⟩ 0 0] ∧
      ((∀ t ∈ ts, LifeCycle t) ↔ ∀ t ∈ ts, Regular t) := by
  obtain ⟨ts, sat, run, labels, _⟩ := exists_run (fun _ _ => true) 4 (Satellite.new {} false)
    [.event (.thmSignal .ok), .exited ⟨0, .triggerDetumbling⟩ 0 0] (fun _ => true)
    (by decide +kernel)
  exact ⟨ts, sat, run, labels, lifeCycle_iff _ _ _ run⟩

/-- A script killed by SIGTERM leaves its action in the map for ever. -/
theorem killed_action_stays :
    ¬ ∀ (uvSpawn : Script → ℕ → Bool) (args : Arguments) (enforced : Bool)
      (ts : List (Transition Satellite Input)) (sat : Satellite),
      Run (Step uvSpawn) (Satellite.new args enforced) ts sat → ∀ t ∈ ts, LifeCycle t := by
  intro claim
  obtain ⟨ts, sat, run, labels, test⟩ := exists_run (fun _ _ => true) 4 (Satellite.new {} false)
    [.event (.thmSignal .ok), .exited ⟨0, .triggerDetumbling⟩ 0 SIGTERM]
    (fun sat => sat.running.length != sat.actions.length) (by decide +kernel)
  have cycles := claim _ _ _ ts sat run
  cases run with
  | nil => cases labels
  | snoc prior step =>
    rename_i ts' source input
    have tidy := (cycles ⟨source, input, sat⟩ (by simp)).tidy
    have lengths := tidy.held.length_eq
    rw [List.length_map] at lengths
    rw [bne_iff_ne] at test
    exact test lengths.symm

end Satellite

end Horst
