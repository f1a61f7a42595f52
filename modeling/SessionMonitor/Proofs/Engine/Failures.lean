import SessionMonitor.Proofs.Engine.Freshness
import SessionMonitor.Proofs.Polling.Generation

/-!
# What a failure costs

A failure counts like an answer. It changes nothing that is shown, but an answer to an older request
does not count any more after it. Such an answer is all that a failure can cost: where none is lost,
nothing is different from a run in which failures are not taken note of.
-/

namespace SessionMonitor.Engine

open PollEvent (recent)

variable {ε : Type} {e d : Engine}

/-- Whether the operation takes a failure in place of an answer. -/
def Step.isFailure : Step ε → Bool
  | .resolvePoll _ (.error _) => true
  | _ => false

/-- The operations without those that take a failure. -/
def withoutFailures (steps : List (Step ε)) : List (Step ε) :=
  steps.filter fun step => !step.isFailure

theorem withoutFailures_append (first second : List (Step ε)) :
    withoutFailures (first ++ second) = withoutFailures first ++ withoutFailures second :=
  List.filter_append ..

theorem withoutFailures_of_no_answer {step : Step ε}
    (unanswered : ∀ ticket answer, step ≠ .resolvePoll ticket answer) :
    withoutFailures [step] = [step] := by
  cases step with
  | resolvePoll ticket answer => exact (unanswered ticket answer rfl).elim
  | _ => rfl

theorem applied_append (e : Engine) (first second : List (Step ε)) :
    e.applied (first ++ second) = e.applied first ++ (e.run first).applied second := by
  rw [applied, pollLog_append, List.filterMap_append]
  rfl

theorem applied_singleton (e : Engine) (step : Step ε) :
    e.applied [step] = (e.pollEvents step).filterMap PollEvent.applied? := by
  rw [applied, pollLog, pollLog, List.append_nil]

theorem applied_of_no_answer (e : Engine) (step : Step ε)
    (unanswered : ∀ ticket answer, step ≠ .resolvePoll ticket answer) : e.applied [step] = [] := by
  rw [applied_singleton, pollEvents_of_no_answer e step unanswered, Scheduler.applied_change]

theorem resolvePoll_failure (e : Engine) (ticket : Ticket) (fault : ε) :
    (e.resolvePoll ticket (.error fault)).2 = e.withScheduler (e.scheduler.accept ticket).2 := by
  cases fresh : e.scheduler.isFresh ticket with
  | false => rw [resolvePoll_stale e ticket _ fresh]
  | true => rw [resolvePoll_fresh e ticket _ fresh]

theorem applied_failure (e : Engine) (ticket : Ticket) (fault : ε) :
    e.applied [.resolvePoll ticket (.error fault)] = [] := by
  rw [applied_singleton, pollEvents_resolvePoll]
  rfl

theorem applied_answer (e : Engine) (ticket : Ticket) (snapshot : Snapshot) :
    e.applied [(.resolvePoll ticket (.ok snapshot) : Step ε)] =
      if e.scheduler.isFresh ticket = true then [(ticket, snapshot)] else [] := by
  rw [applied_singleton, pollEvents_resolvePoll]
  cases e.scheduler.isFresh ticket <;> rfl

/-! ### Two engines, one of which misses failures -/

theorem spared_of_no_answer (h : Spared e.scheduler d.scheduler) (step : Step ε)
    (unanswered : ∀ ticket answer, step ≠ .resolvePoll ticket answer) :
    d.pollEvents step = e.pollEvents step ∧
      Spared (e.perform step).scheduler (d.perform step).scheduler := by
  rw [pollEvents_of_no_answer e step unanswered, pollEvents_of_no_answer d step unanswered]
  cases step with
  | resolvePoll ticket answer => exact (unanswered ticket answer rfl).elim
  | resumePolling => exact ⟨h.change h.resume.2 h.resume.1, h.resume.2⟩
  | pausePolling => exact ⟨h.change h.pause rfl, h.pause⟩
  | togglePolling => exact ⟨h.change h.toggle.2 h.toggle.1, h.toggle.2⟩
  | pollTick => exact ⟨h.change h.tick.2 h.tick.1, h.tick.2⟩
  | requestRefresh | completeKill =>
    exact ⟨h.change h.issued (congrArg some (h.nextTicket .outOfCycle)), h.issued⟩
  | requestSort | setFilter | pushFilter | popFilter | clearFilter | toggleSelection | selectVisible
  | clearSelection => exact ⟨h.change h rfl, h⟩

/-- What the second engine has gone through in place of the first. -/
structure Lagging (e d : Engine) (steps : List (Step ε)) : Prop where
  spared : Spared (e.run steps).scheduler (d.run (withoutFailures steps)).scheduler
  issued : (d.pollLog (withoutFailures steps)).filter PollEvent.isIssue =
    (e.pollLog steps).filter PollEvent.isIssue
  applied : (e.applied steps).Sublist (d.applied (withoutFailures steps))

theorem Lagging.append {first second : List (Step ε)} (h : Lagging e d first)
    (next : Lagging (e.run first) (d.run (withoutFailures first)) second) :
    Lagging e d (first ++ second) where
  spared := by
    rw [withoutFailures_append, run_append, run_append]
    exact next.spared
  issued := by
    rw [withoutFailures_append, pollLog_append, pollLog_append, List.filter_append,
      List.filter_append, h.issued, next.issued]
  applied := by
    rw [withoutFailures_append, applied_append, applied_append]
    exact h.applied.append next.applied

theorem lagging_singleton (h : Spared e.scheduler d.scheduler) (step : Step ε) :
    Lagging e d [step] := by
  by_cases answered : ∃ ticket answer, step = .resolvePoll ticket answer
  · obtain ⟨ticket, answer, rfl⟩ := answered
    have silent (e : Engine) : (e.pollLog [.resolvePoll ticket answer]).filter PollEvent.isIssue =
        [] := by
      rw [pollLog, pollEvents_resolvePoll]
      rfl
    cases answer with
    | error fault =>
      refine ⟨?_, (silent e).symm, ?_⟩
      · show Spared (e.resolvePoll ticket (.error fault)).2.scheduler d.scheduler
        rw [resolvePoll_scheduler]
        exact h.failed ticket
      · rw [applied_failure]
        exact List.nil_sublist _
    | ok snapshot =>
      refine ⟨?_, (silent d).trans (silent e).symm, ?_⟩
      · show Spared (e.resolvePoll ticket (.ok snapshot : Except ε Snapshot)).2.scheduler
          (d.resolvePoll ticket (.ok snapshot : Except ε Snapshot)).2.scheduler
        rw [resolvePoll_scheduler, resolvePoll_scheduler]
        exact h.answered ticket
      · show (e.applied _).Sublist (d.applied [.resolvePoll ticket (.ok snapshot)])
        rw [applied_answer, applied_answer]
        by_cases fresh : e.scheduler.isFresh ticket = true
        · rw [if_pos fresh, if_pos (h.isFresh fresh)]
        · rw [if_neg fresh]
          exact List.nil_sublist _
  · have unanswered : ∀ ticket answer, step ≠ .resolvePoll ticket answer :=
      fun ticket answer same => answered ⟨ticket, answer, same⟩
    have taken := withoutFailures_of_no_answer unanswered
    obtain ⟨same, spared⟩ := spared_of_no_answer h step unanswered
    refine ⟨?_, ?_, ?_⟩
    · rw [taken]
      exact spared
    · rw [taken, pollLog, pollLog, same]
      rfl
    · rw [applied_of_no_answer e step unanswered]
      exact List.nil_sublist _

theorem lagging_run (h : Spared e.scheduler d.scheduler) (steps : List (Step ε)) :
    Lagging e d steps := by
  induction steps generalizing e d with
  | nil => exact ⟨h, rfl, List.Sublist.refl _⟩
  | cons step rest ih =>
    have first := lagging_singleton h step
    exact first.append (ih first.spared)

/-- Nothing is different in the second engine, but for what schedulers remember of failures. -/
structure Even (e d : Engine) (steps : List (Step ε)) : Prop where
  engine : d.run (withoutFailures steps) =
    (e.run steps).withScheduler (d.run (withoutFailures steps)).scheduler
  log : d.pollLog (withoutFailures steps) =
    (e.pollLog steps).filter fun event => !event.isFailure

theorem Even.append {first second : List (Step ε)} (h : Even e d first)
    (next : Even (e.run first) (d.run (withoutFailures first)) second) :
    Even e d (first ++ second) where
  engine := by
    rw [withoutFailures_append, run_append, run_append]
    exact next.engine
  log := by
    rw [withoutFailures_append, pollLog_append, pollLog_append, List.filter_append, h.log, next.log]

theorem even_of_no_answer (same : d = e.withScheduler d.scheduler)
    (h : Spared e.scheduler d.scheduler) (step : Step ε)
    (unanswered : ∀ ticket answer, step ≠ .resolvePoll ticket answer) : Even e d [step] := by
  have taken := withoutFailures_of_no_answer unanswered
  constructor
  · rw [taken, same]
    cases step with
    | resolvePoll ticket answer => exact (unanswered ticket answer rfl).elim
    | _ => rfl
  · have alike := (spared_of_no_answer h step unanswered).1
    rw [taken, pollLog, pollLog, pollLog, pollLog, List.append_nil, List.append_nil, alike,
      pollEvents_of_no_answer e step unanswered, Scheduler.filter_change]

/-- If the next answer counts in both runs or in neither, nothing is different after it. -/
theorem even_singleton (same : d = e.withScheduler d.scheduler)
    (h : Spared e.scheduler d.scheduler) (step : Step ε)
    (alike : ∀ ticket snapshot, step = .resolvePoll ticket (.ok snapshot) →
      d.scheduler.isFresh ticket = e.scheduler.isFresh ticket) : Even e d [step] := by
  by_cases answered : ∃ ticket answer, step = .resolvePoll ticket answer
  · obtain ⟨ticket, answer, rfl⟩ := answered
    cases answer with
    | error fault =>
      constructor
      · show d = (e.resolvePoll ticket (.error fault)).2.withScheduler d.scheduler
        rw [resolvePoll_failure]
        exact same
      · rw [pollLog, pollEvents_resolvePoll]
        rfl
    | ok snapshot =>
      have fresh := alike ticket snapshot rfl
      constructor
      · show (d.resolvePoll ticket (.ok snapshot : Except ε Snapshot)).2 =
          (e.resolvePoll ticket (.ok snapshot : Except ε Snapshot)).2.withScheduler
            (d.resolvePoll ticket (.ok snapshot : Except ε Snapshot)).2.scheduler
        cases counts : e.scheduler.isFresh ticket with
        | false =>
          rw [resolvePoll_stale d ticket _ (fresh.trans counts),
            resolvePoll_stale e ticket _ counts, same]
          rfl
        | true =>
          rw [resolvePoll_fresh d ticket _ (fresh.trans counts),
            resolvePoll_fresh e ticket _ counts, same]
          rfl
      · show d.pollLog [.resolvePoll ticket (.ok snapshot)] = _
        rw [pollLog, pollLog, pollLog, pollLog, pollEvents_resolvePoll, pollEvents_resolvePoll,
          fresh]
        rfl
  · exact even_of_no_answer same h step fun ticket answer same => answered ⟨ticket, answer, same⟩

/-! ### Answers that failures overtake -/

section
variable (start : Engine) (steps : List (Step ε)) (ticket : Ticket)

/-- After the operations, the ticket is of the present generation and newer than every snapshot that
has been taken over in it. -/
def Due : Prop :=
  ticket.generation = (start.run steps).scheduler.generation ∧
    ∀ shown snapshot, (shown, some snapshot) ∈ recent (start.pollLog steps) → shown.seq < ticket.seq

/-- A request that is no older than the ticket has failed in the present generation, and its failure
has counted. -/
def Overtaken : Prop :=
  ∃ failed, (failed, none) ∈ recent (start.pollLog steps) ∧ ticket.seq ≤ failed.seq

/-- No snapshot that is due has been overtaken by a failure. -/
def NothingLost : Prop :=
  ∀ before ticket snapshot after, steps = before ++ .resolvePoll ticket (.ok snapshot) :: after →
    Due start before ticket → ¬Overtaken start before ticket

end

theorem remembers_run (options : Options) (steps : List (Step ε)) :
    Remembers ((ofOptions options).pollLog steps) ((ofOptions options).run steps).scheduler :=
  (Remembers.ofInterval options.pollInterval).follows (follows_run (ofOptions options) steps)

section
variable {options : Options} {steps : List (Step ε)} {ticket : Ticket}

theorem isFresh_iff_due : ((ofOptions options).run steps).scheduler.isFresh ticket = true ↔
    Due (ofOptions options) steps ticket ∧ ¬Overtaken (ofOptions options) steps ticket := by
  rw [(remembers_run options steps).isFresh_iff]
  constructor
  · rintro ⟨current, newer⟩
    refine ⟨⟨current, fun shown snapshot member => newer _ member⟩, ?_⟩
    rintro ⟨failed, member, le⟩
    exact UInt64.not_le.mpr (newer _ member) le
  · rintro ⟨⟨current, newer⟩, first⟩
    refine ⟨current, fun ⟨other, answer⟩ member => ?_⟩
    cases answer with
    | some snapshot => exact newer other snapshot member
    | none => exact UInt64.not_le.mp fun le => first ⟨other, member, le⟩

/-- Where nothing is different yet, an answer that is due counts if there have been no failures. -/
theorem Even.isFresh_iff (even : Even (ofOptions options) (ofOptions options) steps) :
    ((ofOptions options).run (withoutFailures steps)).scheduler.isFresh ticket = true ↔
      Due (ofOptions options) steps ticket := by
  have spared := (lagging_run (Spared.refl (ofOptions options).scheduler) steps).spared
  rw [(remembers_run options (withoutFailures steps)).isFresh_iff, even.log,
    PollEvent.recent_filter, spared.generation]
  refine and_congr_right fun _ => ⟨fun newer shown snapshot member => ?_, fun newer => ?_⟩
  · exact newer _ (List.mem_filter.mpr ⟨member, rfl⟩)
  · rintro ⟨shown, answer⟩ member
    obtain ⟨counted, kept⟩ := List.mem_filter.mp member
    obtain ⟨snapshot, rfl⟩ := Option.isSome_iff_exists.mp kept
    exact newer shown snapshot counted

theorem nothingLost_concat {start : Engine} {step : Step ε} :
    NothingLost start (steps ++ [step]) ↔ NothingLost start steps ∧
      ∀ ticket snapshot, step = .resolvePoll ticket (.ok snapshot) →
        Due start steps ticket → ¬Overtaken start steps ticket := by
  constructor
  · intro kept
    refine ⟨fun before ticket snapshot after split => ?_, fun ticket snapshot same => ?_⟩
    · exact kept before ticket snapshot (after ++ [step]) (by simp [split])
    · exact kept steps ticket snapshot [] (by rw [same])
  · rintro ⟨kept, last⟩ before ticket snapshot after split
    rcases snoc_split split with ⟨rfl, same⟩ | ⟨rest, -, earlier⟩
    · exact last ticket snapshot same
    · exact kept before ticket snapshot rest earlier

/-- Where nothing is different yet, the next snapshot is taken over in both runs or neither, unless
a failure has overtaken it. -/
theorem Even.applied_iff (even : Even (ofOptions options) (ofOptions options) steps)
    (step : Step ε) :
    ((ofOptions options).run steps).applied [step] =
        ((ofOptions options).run (withoutFailures steps)).applied (withoutFailures [step]) ↔
      ∀ ticket snapshot, step = .resolvePoll ticket (.ok snapshot) →
        Due (ofOptions options) steps ticket → ¬Overtaken (ofOptions options) steps ticket := by
  by_cases answered : ∃ ticket answer, step = .resolvePoll ticket answer
  · obtain ⟨ticket, answer, rfl⟩ := answered
    cases answer with
    | error fault =>
      rw [applied_failure]
      exact ⟨nofun, fun _ => rfl⟩
    | ok snapshot =>
      have taken : withoutFailures [(.resolvePoll ticket (.ok snapshot) : Step ε)] =
          [.resolvePoll ticket (.ok snapshot)] := rfl
      rw [taken, applied_answer, applied_answer]
      constructor
      · rintro same _ _ ⟨⟩ due lost
        rw [if_neg fun fresh => (isFresh_iff_due.mp fresh).2 lost,
          if_pos (even.isFresh_iff.mpr due)] at same
        cases same
      · intro kept
        by_cases due : Due (ofOptions options) steps ticket
        · rw [if_pos (isFresh_iff_due.mpr ⟨due, kept ticket snapshot rfl due⟩),
            if_pos (even.isFresh_iff.mpr due)]
        · rw [if_neg fun fresh => due (isFresh_iff_due.mp fresh).1,
            if_neg fun fresh => due (even.isFresh_iff.mp fresh)]
  · have unanswered : ∀ ticket answer, step ≠ .resolvePoll ticket answer :=
      fun ticket answer same => answered ⟨ticket, answer, same⟩
    rw [withoutFailures_of_no_answer unanswered, applied_of_no_answer _ step unanswered,
      applied_of_no_answer _ step unanswered]
    exact ⟨fun _ ticket snapshot same => (unanswered ticket _ same).elim, fun _ => rfl⟩

theorem append_eq_append_of_sublist {α : Type} {first second more rest : List α}
    (shorter : first.Sublist second) (fewer : more.Sublist rest)
    (same : first ++ more = second ++ rest) : first = second ∧ more = rest := by
  have lengths := congrArg List.length same
  rw [List.length_append, List.length_append] at lengths
  have le := shorter.length_le
  have le' := fewer.length_le
  exact ⟨shorter.eq_of_length (by omega), fewer.eq_of_length (by omega)⟩

/-- The same is taken over with the failures as without if and only if none of them overtakes a
snapshot, and then nothing else is different either. -/
theorem same_applied_iff (options : Options) (steps : List (Step ε)) :
    ((ofOptions options).applied steps = (ofOptions options).applied (withoutFailures steps) ↔
      NothingLost (ofOptions options) steps) ∧
    (NothingLost (ofOptions options) steps →
      Even (ofOptions options) (ofOptions options) steps) := by
  induction steps using List.reverseRecOn with
  | nil =>
    refine ⟨⟨fun _ before ticket snapshot after split => ?_, fun _ => rfl⟩, fun _ => ⟨rfl, rfl⟩⟩
    simp at split
  | append_singleton steps step ih =>
    have lagging := lagging_run (Spared.refl (ofOptions options).scheduler) steps
    have last := lagging_singleton lagging.spared step
    rw [withoutFailures_append, applied_append, applied_append, nothingLost_concat]
    constructor
    · constructor
      · intro same
        -- What is lost once is never made up for, so equal lists are equal up to each step.
        obtain ⟨before, now⟩ := append_eq_append_of_sublist lagging.applied last.applied same
        have kept := ih.1.mp before
        exact ⟨kept, ((ih.2 kept).applied_iff step).mp now⟩
      · rintro ⟨kept, next⟩
        rw [ih.1.mpr kept, ((ih.2 kept).applied_iff step).mpr next]
    · rintro ⟨kept, next⟩
      have even := ih.2 kept
      refine even.append (even_singleton even.engine lagging.spared step ?_)
      intro ticket snapshot same
      rw [Bool.eq_iff_iff, even.isFresh_iff, isFresh_iff_due]
      exact ⟨fun due => ⟨due, next ticket snapshot same due⟩, And.left⟩

end

/-- Without its failures a run gives out the same tickets and takes over at least the same
snapshots. A snapshot is lost if and only if a failure has overtaken it. -/
theorem failure_costs_what_it_overtakes (options : Options) (steps : List (Step ε)) :
    let start := ofOptions options
    let spared := withoutFailures steps
    (start.pollLog spared).filter PollEvent.isIssue =
      (start.pollLog steps).filter PollEvent.isIssue ∧
    (start.applied steps).Sublist (start.applied spared) ∧
    (start.applied steps = start.applied spared ↔ NothingLost start steps) ∧
    (NothingLost start steps →
      ∃ scheduler, start.run spared = (start.run steps).withScheduler scheduler) ∧
    ∀ ticket, Due start steps ticket → ∀ snapshot,
      (((start.run steps).resolvePoll ticket (.ok snapshot : Except ε Snapshot)).1 = .stale ↔
        Overtaken start steps ticket) := by
  intro start spared
  have lagging : Lagging start start steps := lagging_run (Spared.refl _) steps
  obtain ⟨same, even⟩ := same_applied_iff options steps
  refine ⟨lagging.issued, lagging.applied, same, fun kept => ⟨_, (even kept).engine⟩, ?_⟩
  intro ticket due snapshot
  rw [← not_iff_not, ← ne_eq, resolvePoll_ne_stale_iff, isFresh_iff_due]
  exact ⟨And.right, fun first => ⟨due, first⟩⟩

/-- A second request goes out while the first one is under way, and fails. -/
def impatient : List (Step Unit) :=
  [.resumePolling, .pollTick, .resolvePoll ⟨1, 2, .scheduled⟩ (.error ())]

def seven : Snapshot := ⟨[.blank ⟨7⟩], 0, by decide⟩

/-- The answer to the first one is lost. -/
theorem slow_answer_is_lost :
    let start := ofOptions {}
    let slow : Step Unit := .resolvePoll ⟨1, 1, .resumed⟩ (.ok seven)
    Due start impatient ⟨1, 1, .resumed⟩ ∧
      ((start.run impatient).resolvePoll ⟨1, 1, .resumed⟩ (.ok seven : Except Unit Snapshot)).1 =
        .stale ∧
      start.applied (impatient ++ [slow]) ≠
        start.applied (withoutFailures (impatient ++ [slow])) := by
  intro start slow
  have counted : recent (start.pollLog impatient) = [(⟨1, 2, .scheduled⟩, none)] := rfl
  have due : Due start impatient ⟨1, 1, .resumed⟩ := by
    refine ⟨rfl, fun shown snapshot member => ?_⟩
    rw [counted] at member
    cases List.mem_singleton.mp member
  have overtaken : Overtaken start impatient ⟨1, 1, .resumed⟩ := by
    refine ⟨⟨1, 2, .scheduled⟩, ?_, by decide⟩
    rw [counted]
    exact List.mem_singleton_self _
  obtain ⟨-, -, -, -, judged⟩ := failure_costs_what_it_overtakes {} impatient
  obtain ⟨-, -, same, -⟩ := failure_costs_what_it_overtakes {} (impatient ++ [slow])
  refine ⟨due, (judged _ due seven).mpr overtaken, fun taken => ?_⟩
  exact same.mp taken impatient _ seven [] rfl due overtaken

end SessionMonitor.Engine
