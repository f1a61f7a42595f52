import SessionMonitor.Proofs.Engine.Coherence
import SessionMonitor.Proofs.Polling.Tracking

/-!
# Answers that count

An answer counts if and only if it is still wanted, in whatever order answers come. So what is shown
never gives way to something older.
-/

namespace SessionMonitor.Engine

variable {ε : Type}

theorem follows_of_no_answer (e : Engine) (step : Step ε)
    (unanswered : ∀ ticket answer, step ≠ .resolvePoll ticket answer) :
    e.scheduler.Follows (e.pollEvents step) (e.perform step).scheduler := by
  rw [pollEvents_of_no_answer e step unanswered]
  cases step with
  | resolvePoll ticket answer => exact (unanswered ticket answer rfl).elim
  | resumePolling => exact e.scheduler.follows_resume
  | pausePolling => exact e.scheduler.follows_pause
  | togglePolling => exact e.scheduler.follows_toggle
  | pollTick => exact e.scheduler.follows_tick
  | requestRefresh | completeKill => exact e.scheduler.follows_outOfCycle
  | requestSort | setFilter | pushFilter | popFilter | clearFilter | toggleSelection | selectVisible
  | clearSelection => exact e.scheduler.follows_change_self

theorem follows_resolvePoll (e : Engine) (ticket : Ticket) (answer : Except ε Snapshot) :
    e.scheduler.Follows (e.pollEvents (.resolvePoll ticket answer))
      (e.perform (.resolvePoll ticket answer)).scheduler := by
  rw [pollEvents_resolvePoll, perform, resolvePoll_scheduler]
  exact .cons rfl (.nil _)

theorem follows_perform (e : Engine) (step : Step ε) :
    e.scheduler.Follows (e.pollEvents step) (e.perform step).scheduler := by
  cases step with
  | resolvePoll ticket answer => exact follows_resolvePoll e ticket answer
  | _ => exact follows_of_no_answer e _ (by simp)

theorem follows_run (e : Engine) (steps : List (Step ε)) :
    e.scheduler.Follows (e.pollLog steps) (e.run steps).scheduler := by
  induction steps generalizing e with
  | nil => exact .nil _
  | cons step rest ih => exact (follows_perform e step).append (ih _)

theorem tracks_run (options : Options) (steps : List (Step ε))
    (regular : Regular ((ofOptions options).pollLog steps)) :
    Tracks ((ofOptions options).pollLog steps) ((ofOptions options).run steps).scheduler := by
  have initial : Tracks [] (ofOptions options).scheduler := tracks_ofInterval options.pollInterval
  exact initial.follows (follows_run _ steps) regular

theorem resolvePoll_ne_stale_iff (e : Engine) (ticket : Ticket) (answer : Except ε Snapshot) :
    (e.resolvePoll ticket answer).1 ≠ .stale ↔ e.scheduler.isFresh ticket = true := by
  cases fresh : e.scheduler.isFresh ticket with
  | false => simp [resolvePoll_stale e ticket answer fresh]
  | true =>
    rw [resolvePoll_fresh e ticket answer fresh]
    cases answer <;> simp

theorem shown_counted (options : Options) (steps : List (Step ε)) {ticket : Ticket}
    {snapshot : Snapshot}
    (last : ((ofOptions options).applied steps).getLast? = some (ticket, snapshot)) :
    ((ofOptions options).run steps).snapshot = snapshot ∧
      ticket ∈ ((ofOptions options).pollLog steps).filterMap PollEvent.counted? := by
  constructor
  · have shows := shows_run (ofOptions options) steps
    unfold Shows at shows
    rw [last] at shows
    exact congrArg Prod.fst shows
  · obtain ⟨event, logged, found⟩ := List.mem_filterMap.mp (List.mem_of_getLast? last)
    cases event with
    | switched | issued => cases found
    | answered other answer counted =>
      cases answer <;> cases counted <;> cases found
      exact PollEvent.mem_counted.mpr ⟨_, logged⟩

theorem pollEvents_completeKill (e : Engine) (ids : List SessionId) :
    e.pollEvents (.completeKill ids : Step ε) = [.issued (e.completeKill ids).1] := by
  rw [pollEvents_of_no_answer e _ (by simp)]
  show e.scheduler.change e.scheduler.outOfCycle.2 (some e.scheduler.outOfCycle.1) = _
  simp only [Scheduler.change, Scheduler.outOfCycle, Scheduler.issued, if_true]
  rfl

/-- The request after a kill is given out after everything that was asked for before. -/
theorem issuedBefore_completeKill (e : Engine) (before : List (Step ε)) (ids : List SessionId)
    (after : List (Step ε)) {ticket : Ticket} (issued : .issued ticket ∈ e.pollLog before) :
    IssuedBefore (e.pollLog (before ++ .completeKill ids :: after)) ticket
      ((e.run before).completeKill ids).1 := by
  rw [pollLog_append]
  refine issuedBefore_append issued ?_
  rw [pollLog, pollEvents_completeKill]
  exact List.mem_cons_self

/-- An answer counts if and only if it is still wanted. So what is shown only gives way to what was
asked for later. -/
theorem answers_count_iff_wanted (options : Options) (steps : List (Step ε))
    (regular : Regular ((ofOptions options).pollLog steps)) :
    let e := (ofOptions options).run steps
    let log := (ofOptions options).pollLog steps
    (∀ ticket, .issued ticket ∈ log → ∀ answer : Except ε Snapshot,
      (e.resolvePoll ticket answer).1 ≠ .stale ↔ Wanted log ticket) ∧
    ((log.filterMap PollEvent.counted?).map (·.seq)).Pairwise (· < ·) ∧
    (∀ shown snapshot, ((ofOptions options).applied steps).getLast? = some (shown, snapshot) →
      e.snapshot = snapshot ∧ ∀ ticket, .issued ticket ∈ log → ∀ answer : Except ε Snapshot,
        (e.resolvePoll ticket answer).1 ≠ .stale → IssuedBefore log shown ticket) ∧
    (∀ before ids after, steps = before ++ .completeKill ids :: after →
      (((ofOptions options).run before).completeKill ids).1 ∈ log.filterMap PollEvent.counted? →
      ∀ ticket, .issued ticket ∈ (ofOptions options).pollLog before →
        ∀ answer : Except ε Snapshot, (e.resolvePoll ticket answer).1 = .stale) := by
  intro e log
  have tracks : Tracks log e.scheduler := tracks_run options steps regular
  refine ⟨?_, tracks.ascending, ?_, ?_⟩
  · intro ticket issued answer
    rw [resolvePoll_ne_stale_iff]
    exact tracks.isFresh_iff_wanted regular issued
  · intro shown snapshot last
    obtain ⟨same, counted⟩ := shown_counted options steps last
    refine ⟨same, fun ticket issued answer fresh => ?_⟩
    rw [resolvePoll_ne_stale_iff] at fresh
    exact tracks.issuedBefore_of_fresh regular counted issued fresh
  · intro before ids after split counted ticket issued answer
    have ordered :
        IssuedBefore log ticket (((ofOptions options).run before).completeKill ids).1 := by
      simp only [log, split]
      exact issuedBefore_completeKill _ before ids after issued
    rw [resolvePoll_stale e ticket answer (tracks.isFresh_of_older regular counted ordered)]

/-- Polling starts, and the request after a kill is answered before the first one. -/
def overtaken : List (Step Unit) :=
  [.resumePolling, .completeKill [⟨7⟩], .resolvePoll ⟨1, 2, .outOfCycle⟩ (.ok .empty)]

theorem pollLog_overtaken : (ofOptions {}).pollLog overtaken =
    [.switched, .issued ⟨1, 1, .resumed⟩, .issued ⟨1, 2, .outOfCycle⟩,
      .answered ⟨1, 2, .outOfCycle⟩ (some .empty) true] :=
  rfl

theorem regular_overtaken : Regular ((ofOptions {}).pollLog overtaken) := by
  rw [pollLog_overtaken]
  refine ⟨?_, by decide, by decide⟩
  intro before ticket snapshot counted after split
  simp [List.cons_eq_append_iff] at split
  obtain ⟨rfl, ⟨rfl, -, -⟩, -⟩ := split
  simp

theorem overtaken_is_stale : Regular ((ofOptions {}).pollLog overtaken) ∧
    (((ofOptions {}).run overtaken).resolvePoll ⟨1, 1, .resumed⟩
      (.ok .empty : Except Unit Snapshot)).1 = .stale := by
  obtain ⟨-, -, -, kills⟩ := answers_count_iff_wanted {} overtaken regular_overtaken
  refine ⟨regular_overtaken, kills [.resumePolling] [⟨7⟩] _ rfl ?_ _ ?_ _⟩
  · rw [pollLog_overtaken]
    exact List.mem_cons_self
  · show PollEvent.issued _ ∈ [PollEvent.switched, .issued ⟨1, 1, .resumed⟩]
    simp

end SessionMonitor.Engine
