import SessionMonitor.Failure
import SessionMonitor.Proofs.Engine.Run
import SessionMonitor.Proofs.Selection

/-!
# Marks and kill plans

A kill plan divides its sessions into those in the snapshot and those that have ended. Marks are
only put on sessions that are shown, and with pruning they stay on sessions of the snapshot.
-/

namespace SessionMonitor

/-- The sessions of a plan, whether they have ended or not. -/
def KillPlan.ids (plan : KillPlan) : List SessionId :=
  plan.live ++ plan.gone

namespace Engine

variable {ε : Type} {e : Engine}

/-! ### Plans -/

theorem planKill_eq_ok_iff {ids : List SessionId} {plan : KillPlan} :
    e.planKill ids = .ok plan ↔ plan.live = ids.filter e.snapshot.contains ∧
      plan.gone = ids.filter (fun id => !e.snapshot.contains id) ∧ plan.live ≠ [] := by
  obtain ⟨live, gone⟩ := plan
  by_cases nothing : ids = []
  · subst nothing
    simp only [planKill, List.isEmpty_nil, if_true, List.filter_nil]
    constructor
    · intro planned
      cases planned
    · rintro ⟨none, -, some⟩
      exact (some none).elim
  · simp only [planKill, List.isEmpty_iff, nothing, if_false, List.partition_eq_filter_filter]
    split
    · rename_i ended
      constructor
      · intro planned
        cases planned
      · rintro ⟨none, -, some⟩
        exact (some (none.trans ended)).elim
    · rename_i running
      constructor
      · intro planned
        cases planned
        exact ⟨rfl, rfl, running⟩
      · rintro ⟨rfl, rfl, -⟩
        rfl

theorem planKill_eq_error_iff {ids : List SessionId} {refusal : Refusal} :
    e.planKill ids = .error refusal ↔
      (ids = [] ∧ refusal = .emptySelection) ∨
        (ids ≠ [] ∧ (∀ id ∈ ids, id ∉ e.snapshot.ids) ∧ refusal = .noLiveTargets ids.length) := by
  have live : ids.filter e.snapshot.contains = [] ↔ ∀ id ∈ ids, id ∉ e.snapshot.ids := by
    simp only [List.filter_eq_nil_iff, Snapshot.contains_iff]
  by_cases nothing : ids = []
  · subst nothing
    simp [planKill, eq_comm]
  · simp only [planKill, List.isEmpty_iff, nothing, if_false, List.partition_eq_filter_filter, live]
    split
    · rename_i ended
      constructor
      · intro refused
        cases refused
        exact .inr ⟨nothing, ended, rfl⟩
      · rintro (⟨⟨⟩, -⟩ | ⟨-, -, rfl⟩)
        rfl
    · rename_i running
      constructor
      · intro refused
        cases refused
      · rintro (⟨⟨⟩, -⟩ | ⟨-, ended, -⟩)
        exact (running ended).elim

theorem planKill_perm {ids : List SessionId} {plan : KillPlan}
    (planned : e.planKill ids = .ok plan) : plan.ids.Perm ids := by
  obtain ⟨live, gone, -⟩ := planKill_eq_ok_iff.mp planned
  rw [KillPlan.ids, live, gone]
  exact List.filter_append_perm _ ids

theorem mem_live_of_planKill {ids : List SessionId} {plan : KillPlan}
    (planned : e.planKill ids = .ok plan) {id : SessionId} :
    id ∈ plan.live ↔ id ∈ ids ∧ id ∈ e.snapshot.ids := by
  rw [(planKill_eq_ok_iff.mp planned).1, List.mem_filter, Snapshot.contains_iff]

theorem mem_gone_of_planKill {ids : List SessionId} {plan : KillPlan}
    (planned : e.planKill ids = .ok plan) {id : SessionId} :
    id ∈ plan.gone ↔ id ∈ ids ∧ id ∉ e.snapshot.ids := by
  rw [(planKill_eq_ok_iff.mp planned).2.1, List.mem_filter, ← Snapshot.contains_iff]
  simp

/-! ### Marks -/

theorem mem_ids_of_visible {id : SessionId} (visible : id ∈ e.visibleIds) :
    id ∈ e.snapshot.ids := by
  obtain ⟨p, shown, rfl⟩ := List.mem_map.mp visible
  obtain ⟨position, -, found⟩ := List.mem_filterMap.mp shown
  exact Snapshot.id_mem_ids (List.mem_of_getElem? found)

theorem mem_visibleIds_of_visibleAt? {row : Nat} {p : Session} (found : e.visibleAt? row = some p) :
    p.id ∈ e.visibleIds := by
  obtain ⟨position, shown, placed⟩ := Option.bind_eq_some_iff.mp found
  exact List.mem_map_of_mem
    (List.mem_filterMap.mpr ⟨position, List.mem_of_getElem? shown, placed⟩)

/-- With pruning, only sessions of the snapshot are marked. -/
def MarksLive (e : Engine) : Prop :=
  e.options.pruneSelection = true → ∀ id ∈ e.selection.ids, id ∈ e.snapshot.ids

theorem marksLive_ofOptions (options : Options) : MarksLive (ofOptions options) := by
  intro _ id marked
  cases marked

theorem MarksLive.resolvePoll (h : MarksLive e) (ticket : Ticket) (answer : Except ε Snapshot) :
    MarksLive (e.resolvePoll ticket answer).2 := by
  cases fresh : e.scheduler.isFresh ticket with
  | false =>
    rw [resolvePoll_stale e ticket answer fresh]
    exact h
  | true =>
    rw [resolvePoll_fresh e ticket answer fresh]
    cases answer with
    | error fault => exact h
    | ok snapshot =>
      intro (pruning : e.options.pruneSelection = true) id marked
      have kept : id ∈ (e.selection.retainLive snapshot).ids := by
        simpa [applySnapshot, refreshView, withScheduler, pruning] using marked
      exact (Selection.mem_retainLive.mp kept).2

/-- A snapshot that is taken over takes the marks of the sessions that it lacks, if marks are
pruned, and tells how many. -/
theorem resolvePoll_applied (ticket : Ticket) (snapshot : Snapshot)
    (fresh : e.scheduler.isFresh ticket = true) :
    (e.resolvePoll (ε := ε) ticket (.ok snapshot)).1 =
        .applied snapshot.size (if e.options.pruneSelection then
          (e.selection.ids.filter fun id => id ∉ snapshot.ids).length else 0) ∧
      (e.resolvePoll (ε := ε) ticket (.ok snapshot)).2.snapshot = snapshot ∧
      (e.resolvePoll (ε := ε) ticket (.ok snapshot)).2.selection =
        if e.options.pruneSelection then e.selection.retainLive snapshot else e.selection := by
  rw [resolvePoll_fresh e ticket (.ok snapshot) fresh]
  refine ⟨?_, rfl, rfl⟩
  show PollOutcome.applied _ (e.selection.size - Selection.size (if e.options.pruneSelection then
    e.selection.retainLive snapshot else e.selection)) = _
  split
  · rw [e.selection.size_eq_retainLive_add snapshot, Nat.add_sub_cancel_left]
  · rw [Nat.sub_self]

theorem perform_options (e : Engine) (step : Step ε) : (e.perform step).options = e.options := by
  cases step with
  | resolvePoll ticket answer =>
    cases fresh : e.scheduler.isFresh ticket with
    | false => rw [perform, resolvePoll_stale e ticket answer fresh]; rfl
    | true => rw [perform, resolvePoll_fresh e ticket answer fresh]; cases answer <;> rfl
  | _ => rfl

theorem MarksLive.perform (h : MarksLive e) (step : Step ε)
    (visible : ∀ id, step = .toggleSelection id → id ∈ e.visibleIds) :
    MarksLive (e.perform step) := by
  cases step with
  | resumePolling | pausePolling | togglePolling | pollTick | requestRefresh => exact h
  | requestSort | setFilter | pushFilter | popFilter | clearFilter => exact h
  | resolvePoll ticket answer => exact h.resolvePoll ticket answer
  | toggleSelection id =>
    intro pruning other marked
    by_cases same : other = id
    · have shown : id ∈ e.snapshot.ids := mem_ids_of_visible (visible id rfl)
      exact same ▸ shown
    · have old : other ∈ e.selection.ids := by
        simpa [same] using Selection.mem_toggle.mp marked
      exact h pruning other old
  | selectVisible =>
    intro _ id marked
    exact mem_ids_of_visible (Selection.mem_ofList.mp marked)
  | clearSelection =>
    intro _ id marked
    cases marked
  | completeKill ids =>
    intro pruning id marked
    exact h pruning id (Selection.mem_eraseAll.mp marked).1

/-- Operations one after the other. Only sessions that are shown are marked one by one. -/
inductive Moves (e : Engine) : Engine → Prop where
  | refl : Moves e e
  | perform {middle : Engine} (moves : Moves e middle) (step : Step Failure)
      (visible : ∀ id, step = .toggleSelection id → id ∈ middle.visibleIds) :
      Moves e (middle.perform step)

namespace Moves

variable {middle finish : Engine}

theorem trans (h : Moves e middle) (next : Moves middle finish) : Moves e finish := by
  induction next with
  | refl => exact h
  | perform _ step visible ih => exact ih.perform step visible

theorem exists_run (h : Moves e finish) : ∃ steps : List (Step Failure), finish = e.run steps := by
  induction h with
  | refl => exact ⟨[], rfl⟩
  | perform _ step _ ih =>
    obtain ⟨steps, rfl⟩ := ih
    exact ⟨steps ++ [step], (run_append e steps [step]).symm⟩

theorem options (h : Moves e finish) : finish.options = e.options := by
  induction h with
  | refl => rfl
  | perform _ step _ ih => rw [perform_options, ih]

theorem marksLive (h : Moves e finish) (live : MarksLive e) : MarksLive finish := by
  induction h with
  | refl => exact live
  | perform _ step visible ih => exact ih.perform step visible

end Moves

theorem MarksLive.planKillSelected_eq (h : MarksLive e)
    (pruning : e.options.pruneSelection = true) :
    e.planKillSelected =
      if e.selection.ids = [] then .error .emptySelection else .ok ⟨e.selection.ids, []⟩ := by
  have live := h pruning
  split
  · rename_i nothing
    exact planKill_eq_error_iff.mpr (.inl ⟨nothing, rfl⟩)
  · rename_i marked
    refine planKill_eq_ok_iff.mpr ⟨?_, ?_, marked⟩
    · refine (List.filter_eq_self.mpr fun id member => ?_).symm
      exact Snapshot.contains_iff.mpr (live id member)
    · refine (List.filter_eq_nil_iff.mpr fun id member => ?_).symm
      simpa using Snapshot.contains_iff.mpr (live id member)

theorem MarksLive.gone_eq_nil (h : MarksLive e) (pruning : e.options.pruneSelection = true)
    {plan : KillPlan} (planned : e.planKillSelected = .ok plan) : plan.gone = [] := by
  rw [List.eq_nil_iff_forall_not_mem]
  intro id gone
  obtain ⟨marked, ended⟩ := (mem_gone_of_planKill planned).mp gone
  exact ended (h pruning id marked)

end Engine

end SessionMonitor
