import Mathlib.Data.List.Basic
import Mathlib.Data.List.Induction
import SessionMonitor.Proofs.Polling.Log

/-!
# The present generation

The answers that have counted since polling was last started or stopped. A scheduler remembers the
last of them, and that is enough to tell what counts next.
-/

namespace SessionMonitor

open PollEvent

namespace PollEvent

/-- What an event makes of the answers that have counted in the present generation. -/
def recount (counted : List (Ticket × Option Snapshot)) :
    PollEvent → List (Ticket × Option Snapshot)
  | switched => []
  | answered ticket snapshot true => counted ++ [(ticket, snapshot)]
  | _ => counted

/-- The answers that have counted since polling was last started or stopped, oldest first. -/
def recent (log : List PollEvent) : List (Ticket × Option Snapshot) :=
  log.foldl recount []

theorem recent_concat (log : List PollEvent) (event : PollEvent) :
    recent (log ++ [event]) = recount (recent log) event :=
  List.foldl_append

def isFailure : PollEvent → Bool
  | answered _ none _ => true
  | _ => false

/-- Without the failures, what is left of the answers that have counted is the snapshots. -/
theorem recent_filter (log : List PollEvent) :
    recent (log.filter fun event => !event.isFailure) =
      (recent log).filter fun counted => counted.2.isSome := by
  induction log using List.reverseRecOn with
  | nil => rfl
  | append_singleton log event ih =>
    rw [List.filter_append, recent_concat]
    cases event with
    | switched | issued => exact (recent_concat _ _).trans (by rw [ih]; rfl)
    | answered ticket snapshot counted =>
      cases snapshot with
      | none =>
        show recent (_ ++ []) = _
        rw [List.append_nil, ih]
        cases counted
        · rfl
        · rw [recount, List.filter_append]
          exact (List.append_nil _).symm
      | some snapshot =>
        refine (recent_concat _ _).trans ?_
        rw [ih]
        cases counted
        · rfl
        · rw [recount, recount, List.filter_append]
          rfl

end PollEvent

theorem Scheduler.filter_change (s finish : Scheduler) (ticket : Option Ticket) :
    (s.change finish ticket).filter (fun event => !event.isFailure) = s.change finish ticket := by
  unfold Scheduler.change
  split <;> cases ticket <;> rfl

/-! ### What a scheduler remembers -/

/-- The scheduler remembers the last answer that has counted in the present generation. -/
structure Remembers (log : List PollEvent) (s : Scheduler) : Prop where
  last : s.lastApplied = (recent log).getLast?.map (·.1.seq)
  ascending : (recent log).Pairwise fun old new => old.1.seq < new.1.seq

namespace Remembers

variable {log : List PollEvent} {s : Scheduler} {t : Ticket}

theorem ofInterval (interval : Nat) : Remembers [] (.ofInterval interval) :=
  ⟨rfl, List.Pairwise.nil⟩

theorem isFresh_iff (h : Remembers log s) : s.isFresh t = true ↔
    t.generation = s.generation ∧ ∀ counted ∈ recent log, counted.1.seq < t.seq := by
  rw [Scheduler.isFresh_iff, h.last]
  refine and_congr_right fun _ => ?_
  have ascending := h.ascending
  rcases (recent log).eq_nil_or_concat with none | ⟨older, newest, split⟩
  · simp [none]
  · rw [List.concat_eq_append] at split
    rw [split, List.pairwise_append] at ascending
    simp only [split, List.getLast?_append, List.getLast?_singleton, Option.map_some,
      Option.some_or, Option.some.injEq, forall_eq', List.forall_mem_append,
      List.forall_mem_singleton]
    constructor
    · intro newer
      refine ⟨fun old member => ?_, newer⟩
      exact UInt64.lt_trans (ascending.2.2 old member newest List.mem_cons_self) newer
    · exact And.right

theorem after (h : Remembers log s) {event : PollEvent} (allowed : s.Allows event) :
    Remembers (log ++ [event]) (s.after event) := by
  cases event with
  | switched => exact ⟨by rw [recent_concat]; rfl, by rw [recent_concat]; exact .nil⟩
  | issued ticket =>
    exact ⟨by rw [recent_concat]; exact h.last, by rw [recent_concat]; exact h.ascending⟩
  | answered ticket snapshot counted =>
    obtain rfl : counted = s.isFresh ticket := allowed
    cases fresh : s.isFresh ticket with
    | false =>
      constructor
      · rw [recent_concat, Scheduler.after, Scheduler.accept_stale fresh]
        exact h.last
      · rw [recent_concat]
        exact h.ascending
    | true =>
      have newer := (h.isFresh_iff.mp fresh).2
      constructor
      · rw [recent_concat, Scheduler.after, Scheduler.accept_fresh fresh, recount,
          List.getLast?_append]
        rfl
      · rw [recent_concat, recount, List.pairwise_append]
        exact ⟨h.ascending, List.pairwise_singleton _ _,
          fun old member new last => List.mem_singleton.mp last ▸ newer old member⟩

theorem follows (h : Remembers log s) {finish : Scheduler} {events : List PollEvent}
    (follows : s.Follows events finish) : Remembers (log ++ events) finish := by
  induction follows generalizing log with
  | nil => simpa using h
  | @cons s finish event rest allowed _ ih =>
    rw [List.append_cons]
    exact ih (h.after allowed)

end Remembers

/-! ### Schedulers that miss failures -/

/-- Two schedulers that have gone through the same, but that failures have not been told to the
second one. -/
structure Spared (s r : Scheduler) : Prop where
  running : r.running = s.running
  generation : r.generation = s.generation
  lastSeq : r.lastSeq = s.lastSeq
  behind : ∀ last, r.lastApplied = some last → ∃ later, s.lastApplied = some later ∧ last ≤ later

namespace Spared

variable {s r : Scheduler} {t : Ticket}

theorem refl (s : Scheduler) : Spared s s :=
  ⟨rfl, rfl, rfl, fun last same => ⟨last, same, UInt64.le_refl last⟩⟩

theorem nextTicket (h : Spared s r) (reason : PollReason) :
    r.nextTicket reason = s.nextTicket reason := by
  rw [Scheduler.nextTicket, h.generation, h.lastSeq]
  rfl

theorem switch (h : Spared s r) (running : Bool) :
    Spared (s.switch running) (r.switch running) where
  running := rfl
  generation := congrArg (· + 1) h.generation
  lastSeq := h.lastSeq
  behind := nofun

theorem issued (h : Spared s r) : Spared s.issued r.issued where
  running := h.running
  generation := h.generation
  lastSeq := congrArg (· + 1) h.lastSeq
  behind := h.behind

theorem change {finish finish' : Scheduler} (h : Spared s r) (next : Spared finish finish')
    {ticket ticket' : Option Ticket} (same : ticket' = ticket) :
    r.change finish' ticket' = s.change finish ticket := by
  rw [Scheduler.change, Scheduler.change, h.running, next.running, same]

theorem resume (h : Spared s r) : r.resume.1 = s.resume.1 ∧ Spared s.resume.2 r.resume.2 := by
  unfold Scheduler.resume
  rw [h.running]
  split
  · exact ⟨rfl, h⟩
  · have begun := h.switch true
    exact ⟨congrArg some (begun.nextTicket .resumed), begun.issued⟩

theorem pause (h : Spared s r) : Spared s.pause r.pause := by
  unfold Scheduler.pause
  rw [h.running]
  split
  · exact h.switch false
  · exact h

theorem toggle (h : Spared s r) : r.toggle.1 = s.toggle.1 ∧ Spared s.toggle.2 r.toggle.2 := by
  unfold Scheduler.toggle
  rw [h.running]
  split
  · exact ⟨rfl, h.pause⟩
  · exact h.resume

theorem tick (h : Spared s r) : r.tick.1 = s.tick.1 ∧ Spared s.tick.2 r.tick.2 := by
  unfold Scheduler.tick
  rw [h.running]
  split
  · exact ⟨congrArg some (h.nextTicket .scheduled), h.issued⟩
  · exact ⟨rfl, h⟩

theorem isFresh (h : Spared s r) (fresh : s.isFresh t = true) : r.isFresh t = true := by
  obtain ⟨current, newer⟩ := Scheduler.isFresh_iff.mp fresh
  refine Scheduler.isFresh_iff.mpr ⟨current.trans h.generation.symm, fun last known => ?_⟩
  obtain ⟨later, remembered, le⟩ := h.behind last known
  exact UInt64.lt_of_le_of_lt le (newer later remembered)

theorem failed (h : Spared s r) (t : Ticket) : Spared (s.accept t).2 r := by
  cases fresh : s.isFresh t with
  | false =>
    rw [Scheduler.accept_stale fresh]
    exact ⟨h.running, h.generation, h.lastSeq, h.behind⟩
  | true =>
    rw [Scheduler.accept_fresh fresh]
    refine ⟨h.running, h.generation, h.lastSeq, fun last known => ⟨t.seq, rfl, ?_⟩⟩
    obtain ⟨later, remembered, le⟩ := h.behind last known
    exact UInt64.le_of_lt
      (UInt64.lt_of_le_of_lt le ((Scheduler.isFresh_iff.mp fresh).2 later remembered))

theorem answered (h : Spared s r) (t : Ticket) : Spared (s.accept t).2 (r.accept t).2 := by
  cases fresh : s.isFresh t with
  | true =>
    rw [Scheduler.accept_fresh fresh, Scheduler.accept_fresh (h.isFresh fresh)]
    exact ⟨h.running, h.generation, h.lastSeq, fun last same => ⟨last, same, UInt64.le_refl last⟩⟩
  | false =>
    rw [Scheduler.accept_stale fresh]
    cases counts : r.isFresh t with
    | false =>
      rw [Scheduler.accept_stale counts]
      exact ⟨h.running, h.generation, h.lastSeq, h.behind⟩
    | true =>
      -- Only the second one takes the answer: the first has taken a failure that is no older.
      rw [Scheduler.accept_fresh counts]
      refine ⟨h.running, h.generation, h.lastSeq, fun last same => ?_⟩
      obtain rfl := Option.some.inj same
      have current := (Scheduler.isFresh_iff.mp counts).1.trans h.generation
      by_contra newer
      refine Bool.eq_false_iff.mp fresh (Scheduler.isFresh_iff.mpr ⟨current, fun later known => ?_⟩)
      exact UInt64.not_le.mp fun le => newer ⟨later, known, le⟩

end Spared

end SessionMonitor
