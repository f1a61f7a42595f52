import SessionMonitor.Proofs.Engine.Run
import SessionMonitor.Proofs.Snapshot
import SessionMonitor.Proofs.View.Rows

/-!
# What the engine remembers

An engine keeps the positions of the shown sessions, the summary and the small letters of the
filter instead of working them out again. Whatever is done to it, they are what they would be if
they were worked out again.
-/

namespace SessionMonitor.Engine

variable {ε : Type} {e : Engine}

/-- What is remembered agrees with what it was worked out from. -/
structure Coherent (e : Engine) : Prop where
  visible : e.visible = View.positions e.snapshot e.filter e.sorting
  needle : e.filter.needle = Text.lowercase e.filter.query
  blocked : e.summary.blocked = e.snapshot.blocked?.map (·.id)

/-! ### Every operation keeps the engine coherent -/

theorem coherent_ofOptions (options : Options) : Coherent (ofOptions options) where
  visible := by simp [ofOptions, View.positions, View.rows, Snapshot.empty]
  needle := by
    show "" = Text.lowercase ""
    decide
  blocked := rfl

theorem Coherent.refreshView (needle : e.filter.needle = Text.lowercase e.filter.query)
    (blocked : e.summary.blocked = e.snapshot.blocked?.map (·.id)) : Coherent e.refreshView :=
  ⟨rfl, needle, blocked⟩

theorem Coherent.withScheduler (h : Coherent e) (scheduler : Scheduler) :
    Coherent (e.withScheduler scheduler) :=
  ⟨h.visible, h.needle, h.blocked⟩

theorem Coherent.withSelection (h : Coherent e) (selection : Selection) :
    Coherent { e with selection := selection } :=
  ⟨h.visible, h.needle, h.blocked⟩

theorem Coherent.setFilter (h : Coherent e) {filter : Filter}
    (needle : filter.needle = Text.lowercase filter.query) : Coherent (e.setFilter filter) :=
  Coherent.refreshView needle h.blocked

theorem Coherent.resolvePoll (h : Coherent e) (ticket : Ticket) (answer : Except ε Snapshot) :
    Coherent (e.resolvePoll ticket answer).2 := by
  cases fresh : e.scheduler.isFresh ticket with
  | false =>
    rw [resolvePoll_stale e ticket answer fresh]
    exact h.withScheduler _
  | true =>
    rw [resolvePoll_fresh e ticket answer fresh]
    cases answer with
    | ok snapshot => exact Coherent.refreshView h.needle rfl
    | error fault => exact h.withScheduler _

theorem Coherent.perform (h : Coherent e) (step : Step ε) : Coherent (e.perform step) := by
  cases step with
  | resumePolling | pausePolling | togglePolling | pollTick | requestRefresh =>
    exact h.withScheduler _
  | resolvePoll ticket answer => exact h.resolvePoll ticket answer
  | requestSort key => exact Coherent.refreshView h.needle h.blocked
  | setFilter | pushFilter | popFilter | clearFilter => exact h.setFilter rfl
  | toggleSelection | selectVisible | clearSelection => exact h.withSelection _
  | completeKill ids => exact (h.withSelection _).withScheduler _

theorem coherent_run (options : Options) (steps : List (Step ε)) :
    Coherent ((ofOptions options).run steps) :=
  run_keeps (fun _ step h => h.perform step) (coherent_ofOptions options) steps

/-! ### The shown sessions -/

theorem Coherent.visibleAt? (h : Coherent e) (k : Nat) :
    e.visibleAt? k = (View.sessions e.snapshot e.filter e.sorting)[k]? := by
  have same := congrArg (·[k]?) (View.getElem?_positions e.snapshot e.filter e.sorting)
  simp only [List.getElem?_map] at same
  unfold Engine.visibleAt?
  rw [h.visible]
  cases found : (View.positions e.snapshot e.filter e.sorting)[k]? <;>
    cases shown : (View.sessions e.snapshot e.filter e.sorting)[k]? <;> simp_all

theorem Coherent.visibleSessions (h : Coherent e) :
    e.visibleSessions = View.sessions e.snapshot e.filter e.sorting := by
  have same := congrArg (List.filterMap id) (View.getElem?_positions e.snapshot e.filter e.sorting)
  simp only [List.filterMap_map, Function.id_comp] at same
  rw [Engine.visibleSessions, h.visible, same]
  simp

theorem Coherent.visibleSize (h : Coherent e) : e.visibleSize = e.visibleSessions.length := by
  rw [h.visibleSessions, Engine.visibleSize, h.visible, View.positions, View.sessions,
    List.length_map, List.length_map]

theorem Coherent.visibleIds_nodup (h : Coherent e) : e.visibleIds.Nodup := by
  rw [Engine.visibleIds, h.visibleSessions]
  exact View.nodup_ids _ _ _

/-- The id in the summary leads back to the session that it was taken from. -/
theorem Coherent.blocked? (h : Coherent e) : e.blocked? = e.snapshot.blocked? := by
  unfold Engine.blocked?
  rw [h.blocked]
  cases found : e.snapshot.blocked? with
  | none => rfl
  | some p => exact Snapshot.get?_of_mem (List.mem_of_find?_eq_some found)

/-! ### The snapshot that is shown -/

/-- An engine shows the last of the snapshots taken over since `start`, or what `start` shows. -/
def Shows (start : Engine) (applied : List (Ticket × Snapshot)) (e : Engine) : Prop :=
  (e.snapshot, e.summary) = match applied.getLast? with
    | none => (start.snapshot, start.summary)
    | some (_, snapshot) => (snapshot, .ofSnapshot snapshot)

theorem Shows.trans {start middle finish : Engine} {first second : List (Ticket × Snapshot)}
    (h : Shows start first middle) (next : Shows middle second finish) :
    Shows start (first ++ second) finish := by
  unfold Shows at *
  rw [next, List.getLast?_append]
  cases second.getLast? with
  | none => exact h
  | some entry => rfl

theorem shows_of_no_answer (step : Step ε)
    (unanswered : ∀ ticket answer, step ≠ .resolvePoll ticket answer) :
    Shows e ((e.pollEvents step).filterMap PollEvent.applied?) (e.perform step) := by
  rw [pollEvents_of_no_answer e step unanswered, Scheduler.applied_change]
  cases step with
  | resolvePoll ticket answer => exact (unanswered ticket answer rfl).elim
  | _ => rfl

theorem shows_resolvePoll (ticket : Ticket) (answer : Except ε Snapshot) :
    Shows e ((e.pollEvents (.resolvePoll ticket answer)).filterMap PollEvent.applied?)
      (e.perform (.resolvePoll ticket answer)) := by
  rw [pollEvents_resolvePoll]
  cases fresh : e.scheduler.isFresh ticket with
  | false =>
    rw [perform, resolvePoll_stale e ticket answer fresh]
    cases answer <;> rfl
  | true =>
    rw [perform, resolvePoll_fresh e ticket answer fresh]
    cases answer <;> rfl

theorem shows_perform (e : Engine) (step : Step ε) :
    Shows e ((e.pollEvents step).filterMap PollEvent.applied?) (e.perform step) := by
  cases step with
  | resolvePoll ticket answer => exact shows_resolvePoll ticket answer
  | _ => exact shows_of_no_answer _ (by simp)

theorem shows_run (e : Engine) (steps : List (Step ε)) :
    Shows e (e.applied steps) (e.run steps) := by
  induction steps generalizing e with
  | nil => rfl
  | cons step rest ih =>
    rw [applied, pollLog, List.filterMap_append]
    exact (shows_perform e step).trans (ih (e.perform step))

/-- After any operations, everything that an engine remembers is what it would be if it were worked
out again. -/
theorem remembered_is_recomputed (options : Options) (steps : List (Step ε)) :
    let e := (ofOptions options).run steps
    e.snapshot.ids.Nodup ∧
    (∀ sessions time,
      (∃ s, Snapshot.ofSessions sessions time = .ok s) ↔ (sessions.map (·.id)).Nodup) ∧
    e.visible = View.positions e.snapshot e.filter e.sorting ∧
    e.filter.needle = Text.lowercase e.filter.query ∧
    e.visibleSessions = View.sessions e.snapshot e.filter e.sorting ∧
    e.visibleSize = e.visibleSessions.length ∧
    (∀ k, e.visibleAt? k = e.visibleSessions[k]?) ∧
    e.visibleIds.Nodup ∧
    ((e.snapshot, e.summary) = match ((ofOptions options).applied steps).getLast? with
      | none => (.empty, .initial)
      | some (_, snapshot) => (snapshot, .ofSnapshot snapshot)) ∧
    e.blocked? = e.snapshot.blocked? := by
  intro e
  have coherent : Coherent e := coherent_run options steps
  refine ⟨e.snapshot.distinct, fun _ _ => Snapshot.exists_ofSessions_iff, coherent.visible,
    coherent.needle, coherent.visibleSessions, coherent.visibleSize, ?_, coherent.visibleIds_nodup,
    shows_run _ steps, coherent.blocked?⟩
  intro k
  rw [coherent.visibleSessions]
  exact coherent.visibleAt? k

end SessionMonitor.Engine
