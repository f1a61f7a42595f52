import SessionMonitor.Proofs.Polling.Log

/-!
# Schedulers and their logs

A scheduler keeps three numbers of all that has been done about polling. They say enough about the
log to judge every answer.
-/

namespace SessionMonitor

open PollEvent

variable {log : List PollEvent} {s : Scheduler}

/-- Only tickets that have been given out are answered, and neither they nor the switches between
running and stopped are more than there are numbers for them. -/
structure Regular (log : List PollEvent) : Prop where
  answers : ∀ before ticket snapshot counted after,
    log = before ++ .answered ticket snapshot counted :: after → .issued ticket ∈ before
  issues : log.countP isIssue < UInt64.size
  switches : log.countP isSwitch < UInt64.size

theorem Regular.issued_of_counted (h : Regular log) {t : Ticket}
    (counted : t ∈ log.filterMap counted?) : .issued t ∈ log := by
  obtain ⟨snapshot, member⟩ := mem_counted.mp counted
  obtain ⟨before, after, rfl⟩ := List.append_of_mem member
  exact List.mem_append_left _ (h.answers before t snapshot true after rfl)

theorem Regular.of_append {first second : List PollEvent} (h : Regular (first ++ second)) :
    Regular first where
  answers := by
    intro before ticket snapshot counted after split
    exact h.answers before ticket snapshot counted (after ++ second) (by simp [split])
  issues := by
    have bound := h.issues
    rw [List.countP_append] at bound
    omega
  switches := by
    have bound := h.switches
    rw [List.countP_append] at bound
    omega

/-- What the numbers of a scheduler say about the log that has led to it. -/
structure Tracks (log : List PollEvent) (s : Scheduler) : Prop where
  generation : s.generation.toNat = log.countP isSwitch
  lastSeq : s.lastSeq.toNat = log.countP isIssue
  tickets : ∀ before ticket after, log = before ++ .issued ticket :: after →
    ticket.generation.toNat = before.countP isSwitch ∧
      ticket.seq.toNat = before.countP isIssue + 1
  applied : ∀ seq, s.lastApplied = some seq → ∃ before ticket snapshot after,
    log = before ++ .answered ticket snapshot true :: after ∧ ticket.seq = seq
  latest : ∀ before ticket snapshot after,
    log = before ++ .answered ticket snapshot true :: after → .switched ∉ after →
      ∃ seq, s.lastApplied = some seq ∧ ticket.seq ≤ seq
  ascending : ((log.filterMap counted?).map (·.seq)).Pairwise (· < ·)

theorem tracks_ofInterval (interval : Nat) : Tracks [] (.ofInterval interval) where
  generation := rfl
  lastSeq := rfl
  tickets := by simp
  applied := by simp [Scheduler.ofInterval]
  latest := by simp
  ascending := List.Pairwise.nil

/-! ### Judging answers -/

theorem Tracks.seq_lt_of_before (h : Tracks log s) {before after : List PollEvent}
    {old new : Ticket} (split : log = before ++ .issued new :: after)
    (member : .issued old ∈ before) : old.seq < new.seq := by
  obtain ⟨first, rest, rfl⟩ := List.append_of_mem member
  have seqOld := (h.tickets first old (rest ++ .issued new :: after) (by simp [split])).2
  have seqNew := (h.tickets _ new after split).2
  rw [List.countP_append, List.countP_cons] at seqNew
  rw [UInt64.lt_iff_toNat_lt]
  simp only [isIssue, if_true] at seqNew
  omega

theorem Tracks.current_iff (h : Tracks log s) {before after : List PollEvent} {t : Ticket}
    (split : log = before ++ .issued t :: after) :
    t.generation = s.generation ↔ .switched ∉ after := by
  have issued := (h.tickets before t after split).1
  have now := h.generation
  rw [split, List.countP_append, List.countP_cons] at now
  simp only [isSwitch, Bool.false_eq_true, if_false] at now
  rw [← UInt64.toNat_inj, ← countP_isSwitch_eq_zero]
  omega

/-- Whatever has counted is older than a ticket that would count now: issued before the switch, or
remembered by the scheduler. -/
theorem Tracks.seq_lt_of_fresh (h : Tracks log s) (regular : Regular log) {old new : Ticket}
    (counted : old ∈ log.filterMap counted?) (issued : .issued new ∈ log)
    (fresh : s.isFresh new = true) : old.seq < new.seq := by
  obtain ⟨current, newer⟩ := Scheduler.isFresh_iff.mp fresh
  obtain ⟨snapshot, member⟩ := mem_counted.mp counted
  obtain ⟨before, after, split⟩ := List.append_of_mem member
  obtain ⟨first, rest, issue⟩ := List.append_of_mem issued
  by_cases switched : PollEvent.switched ∈ after
  · have unswitched := (h.current_iff issue).mp current
    have oldIssued := regular.answers before old snapshot true after split
    rcases List.append_eq_append_iff.mp (split.symm.trans issue) with
      ⟨between, firstSplit, tail⟩ | ⟨between, beforeSplit, tail⟩
    · exact h.seq_lt_of_before issue (firstSplit ▸ List.mem_append_left _ oldIssued)
    · cases between with
      | nil => simp at tail
      | cons event between =>
        obtain ⟨-, rfl⟩ := List.cons.inj tail
        exact (unswitched (List.mem_append_right _ (List.mem_cons_of_mem _ switched))).elim
  · obtain ⟨seq, last, le⟩ := h.latest before old snapshot after split switched
    exact UInt64.lt_of_le_of_lt le (newer seq last)

/-- Since the ticket was given out, polling has neither been started nor stopped, and neither its
answer nor a later one has counted. -/
def Wanted (log : List PollEvent) (t : Ticket) : Prop :=
  ∃ before after, log = before ++ .issued t :: after ∧ .switched ∉ after ∧
    ∀ other snapshot, .answered other snapshot true ∈ after → other ≠ t ∧ .issued other ∉ after

theorem Tracks.isFresh_iff_wanted (h : Tracks log s) (regular : Regular log) {t : Ticket}
    (issued : .issued t ∈ log) : s.isFresh t = true ↔ Wanted log t := by
  constructor
  · intro fresh
    obtain ⟨before, after, split⟩ := List.append_of_mem issued
    have current := (Scheduler.isFresh_iff.mp fresh).1
    refine ⟨before, after, split, (h.current_iff split).mp current, ?_⟩
    intro other snapshot answered
    have older : other.seq < t.seq :=
      h.seq_lt_of_fresh regular (mem_counted.mpr ⟨snapshot, by simp [split, answered]⟩) issued fresh
    refine ⟨fun same => UInt64.lt_irrefl _ (same ▸ older), fun later => ?_⟩
    obtain ⟨between, rest, rfl⟩ := List.append_of_mem later
    have later : log = (before ++ .issued t :: between) ++ .issued other :: rest := by simp [split]
    have newer : t.seq < other.seq := h.seq_lt_of_before later (by simp)
    exact UInt64.lt_irrefl _ (UInt64.lt_trans older newer)
  · rintro ⟨before, after, split, unswitched, unanswered⟩
    refine Scheduler.isFresh_iff.mpr ⟨(h.current_iff split).mpr unswitched, ?_⟩
    intro seq last
    obtain ⟨earlier, other, snapshot, later, answer, rfl⟩ := h.applied seq last
    have otherIssued := regular.answers earlier other snapshot true later answer
    refine h.seq_lt_of_before split ?_
    rcases List.append_eq_append_iff.mp (answer.symm.trans split) with
      ⟨between, beforeSplit, -⟩ | ⟨between, earlierSplit, tail⟩
    · exact beforeSplit ▸ List.mem_append_left _ otherIssued
    · -- The answer has counted since, so its ticket can only have been issued before this one.
      cases between with
      | nil => simp at tail
      | cons event between =>
        obtain ⟨-, rfl⟩ := List.cons.inj tail
        obtain ⟨different, absent⟩ := unanswered other snapshot (by simp)
        have member : PollEvent.issued other ∈ log := by
          rw [answer]
          exact List.mem_append_left _ otherIssued
        rw [split] at member
        rcases List.mem_append.mp member with early | late
        · exact early
        · rcases List.mem_cons.mp late with same | late
          · exact (different (PollEvent.issued.inj same)).elim
          · exact (absent late).elim

def IssuedBefore (log : List PollEvent) (old new : Ticket) : Prop :=
  [.issued old, .issued new].Sublist log

theorem issuedBefore_append {first second : List PollEvent} {old new : Ticket}
    (early : .issued old ∈ first) (late : .issued new ∈ second) :
    IssuedBefore (first ++ second) old new :=
  (List.singleton_sublist.mpr early).append (List.singleton_sublist.mpr late)

theorem Tracks.issuedBefore_iff (h : Tracks log s) {old new : Ticket}
    (oldIssued : .issued old ∈ log) (newIssued : .issued new ∈ log) :
    IssuedBefore log old new ↔ old.seq < new.seq := by
  obtain ⟨before, after, split⟩ := List.append_of_mem newIssued
  constructor
  · intro ordered
    obtain ⟨first, second, whole, early, late⟩ := List.cons_sublist_iff.mp ordered
    obtain ⟨between, rest, rfl⟩ := List.append_of_mem (List.singleton_sublist.mp late)
    rw [← List.append_assoc] at whole
    exact h.seq_lt_of_before whole (List.mem_append_left _ early)
  · intro less
    rw [split] at oldIssued ⊢
    rcases List.mem_append.mp oldIssued with early | late
    · exact issuedBefore_append early List.mem_cons_self
    · rcases List.mem_cons.mp late with same | late
      · obtain rfl := PollEvent.issued.inj same
        exact (UInt64.lt_irrefl _ less).elim
      · obtain ⟨between, rest, rfl⟩ := List.append_of_mem late
        have later : log = (before ++ .issued new :: between) ++ .issued old :: rest := by
          simp [split]
        exact (UInt64.lt_irrefl _ (UInt64.lt_trans less (h.seq_lt_of_before later (by simp)))).elim

theorem Tracks.issuedBefore_of_fresh (h : Tracks log s) (regular : Regular log) {old new : Ticket}
    (counted : old ∈ log.filterMap counted?) (issued : .issued new ∈ log)
    (fresh : s.isFresh new = true) : IssuedBefore log old new :=
  (h.issuedBefore_iff (regular.issued_of_counted counted) issued).mpr
    (h.seq_lt_of_fresh regular counted issued fresh)

theorem Tracks.isFresh_of_older (h : Tracks log s) (regular : Regular log) {old new : Ticket}
    (counted : new ∈ log.filterMap counted?) (ordered : IssuedBefore log old new) :
    s.isFresh old = false := by
  have oldIssued : PollEvent.issued old ∈ log := ordered.subset List.mem_cons_self
  have less := (h.issuedBefore_iff oldIssued (regular.issued_of_counted counted)).mp ordered
  rw [Bool.eq_false_iff]
  intro fresh
  have newer := h.seq_lt_of_fresh regular counted oldIssued fresh
  exact UInt64.lt_irrefl _ (UInt64.lt_trans less newer)

/-! ### One event more -/

theorem snoc_split {α : Type} {list before after : List α} {last element : α}
    (split : list ++ [last] = before ++ element :: after) :
    (list = before ∧ last = element) ∨
      ∃ rest, after = rest ++ [last] ∧ list = before ++ element :: rest := by
  rcases after.eq_nil_or_concat with rfl | ⟨rest, final, rfl⟩
  · obtain ⟨same, tail⟩ := List.append_inj' split rfl
    exact Or.inl ⟨same, List.singleton_inj.mp tail⟩
  · have regrouped : list ++ [last] = (before ++ element :: rest) ++ [final] := by simpa using split
    obtain ⟨same, tail⟩ := List.append_inj' regrouped rfl
    obtain rfl := List.singleton_inj.mp tail
    exact Or.inr ⟨rest, List.concat_eq_append, same⟩

theorem toNat_add_one {n : UInt64} {count : Nat} (value : n.toNat = count)
    (small : count + 1 < UInt64.size) : (n + 1).toNat = count + 1 := by
  rw [UInt64.toNat_add, value, UInt64.toNat_one]
  exact Nat.mod_eq_of_lt small

theorem Tracks.tickets_snoc (h : Tracks log s) {event : PollEvent} (other : event.isIssue = false) :
    ∀ before ticket after, log ++ [event] = before ++ .issued ticket :: after →
      ticket.generation.toNat = before.countP isSwitch ∧
        ticket.seq.toNat = before.countP isIssue + 1 := by
  intro before ticket after split
  rcases snoc_split split with ⟨-, rfl⟩ | ⟨rest, -, split⟩
  · cases other
  · exact h.tickets before ticket rest split

theorem Tracks.applied_snoc (h : Tracks log s) (event : PollEvent) :
    ∀ seq, s.lastApplied = some seq → ∃ before ticket snapshot after,
      log ++ [event] = before ++ .answered ticket snapshot true :: after ∧ ticket.seq = seq := by
  intro seq last
  obtain ⟨before, ticket, snapshot, after, rfl, same⟩ := h.applied seq last
  exact ⟨before, ticket, snapshot, after ++ [event], by simp, same⟩

theorem Tracks.latest_snoc (h : Tracks log s) {event : PollEvent} (other : event.counted? = none) :
    ∀ before ticket snapshot after,
      log ++ [event] = before ++ .answered ticket snapshot true :: after → .switched ∉ after →
        ∃ seq, s.lastApplied = some seq ∧ ticket.seq ≤ seq := by
  intro before ticket snapshot after split unswitched
  rcases snoc_split split with ⟨-, rfl⟩ | ⟨rest, rfl, earlier⟩
  · cases other
  · exact h.latest before ticket snapshot rest earlier
      fun member => unswitched (List.mem_append_left _ member)

theorem Tracks.ascending_snoc (h : Tracks log s) {event : PollEvent}
    (other : event.counted? = none) :
    (((log ++ [event]).filterMap counted?).map (·.seq)).Pairwise (· < ·) := by
  rw [List.filterMap_append, List.filterMap_cons_none other, List.filterMap_nil, List.append_nil]
  exact h.ascending

theorem Tracks.switched (h : Tracks log s) (regular : Regular (log ++ [.switched])) :
    Tracks (log ++ [.switched]) (s.after .switched) := by
  have small := regular.switches
  rw [List.countP_append] at small
  refine ⟨?_, ?_, h.tickets_snoc rfl, ?_, ?_, h.ascending_snoc rfl⟩
  · rw [List.countP_append]
    exact toNat_add_one h.generation small
  · rw [List.countP_append]
    exact h.lastSeq
  · intro seq last
    cases last
  · intro before ticket snapshot after split unswitched
    rcases snoc_split split with ⟨-, other⟩ | ⟨rest, rfl, -⟩
    · cases other
    · exact (unswitched (by simp)).elim

theorem Tracks.issued (h : Tracks log s) {ticket : Ticket}
    (allowed : s.Allows (.issued ticket)) (regular : Regular (log ++ [.issued ticket])) :
    Tracks (log ++ [.issued ticket]) (s.after (.issued ticket)) := by
  have small := regular.issues
  rw [List.countP_append] at small
  have next : (s.lastSeq + 1).toNat = log.countP isIssue + 1 := toNat_add_one h.lastSeq small
  refine ⟨?_, ?_, ?_, h.applied_snoc _, h.latest_snoc rfl, h.ascending_snoc rfl⟩
  · rw [List.countP_append]
    exact h.generation
  · rw [List.countP_append]
    exact next
  · intro before other after split
    rcases snoc_split split with ⟨rfl, same⟩ | ⟨rest, -, split⟩
    · obtain rfl := PollEvent.issued.inj same
      obtain ⟨reason, rfl⟩ := allowed
      exact ⟨h.generation, next⟩
    · exact h.tickets before other rest split

theorem Tracks.stale (h : Tracks log s) {ticket : Ticket} {snapshot : Option Snapshot}
    (stale : s.isFresh ticket = false) :
    Tracks (log ++ [.answered ticket snapshot false])
      (s.after (.answered ticket snapshot false)) := by
  rw [Scheduler.after, Scheduler.accept_stale stale]
  refine ⟨?_, ?_, h.tickets_snoc rfl, h.applied_snoc _, h.latest_snoc rfl, h.ascending_snoc rfl⟩
  · rw [List.countP_append]
    exact h.generation
  · rw [List.countP_append]
    exact h.lastSeq

theorem Tracks.counted (h : Tracks log s) {ticket : Ticket} {snapshot : Option Snapshot}
    (fresh : s.isFresh ticket = true)
    (regular : Regular (log ++ [.answered ticket snapshot true])) :
    Tracks (log ++ [.answered ticket snapshot true])
      (s.after (.answered ticket snapshot true)) := by
  have issued := regular.answers log ticket snapshot true [] rfl
  have older : ∀ other ∈ log.filterMap counted?, other.seq < ticket.seq := fun other counted =>
    h.seq_lt_of_fresh regular.of_append counted issued fresh
  rw [Scheduler.after, Scheduler.accept_fresh fresh]
  refine ⟨?_, ?_, h.tickets_snoc rfl, ?_, ?_, ?_⟩
  · rw [List.countP_append]
    exact h.generation
  · rw [List.countP_append]
    exact h.lastSeq
  · intro seq last
    exact ⟨log, ticket, snapshot, [], rfl, Option.some.inj last⟩
  · intro before other shown after split _
    refine ⟨ticket.seq, rfl, ?_⟩
    rcases snoc_split split with ⟨-, same⟩ | ⟨rest, -, split⟩
    · obtain ⟨rfl, -, -⟩ := PollEvent.answered.inj same
      exact UInt64.le_refl _
    · exact UInt64.le_of_lt (older other (mem_counted.mpr ⟨shown, by simp [split]⟩))
  · rw [List.filterMap_append, List.map_append, List.pairwise_append]
    refine ⟨h.ascending, List.pairwise_singleton _ _, ?_⟩
    intro seq member last same
    obtain ⟨other, counted, rfl⟩ := List.mem_map.mp member
    obtain rfl := List.mem_singleton.mp same
    exact older other counted

theorem Tracks.after (h : Tracks log s) {event : PollEvent} (allowed : s.Allows event)
    (regular : Regular (log ++ [event])) : Tracks (log ++ [event]) (s.after event) := by
  cases event with
  | switched => exact h.switched regular
  | issued ticket => exact h.issued allowed regular
  | answered ticket snapshot counted =>
    obtain rfl : counted = s.isFresh ticket := allowed
    cases fresh : s.isFresh ticket with
    | false => exact h.stale fresh
    | true => exact h.counted fresh (fresh ▸ regular)

theorem Tracks.follows (h : Tracks log s) {finish : Scheduler} {events : List PollEvent}
    (follows : s.Follows events finish) (regular : Regular (log ++ events)) :
    Tracks (log ++ events) finish := by
  induction follows generalizing log with
  | nil => simpa using h
  | @cons s finish event rest allowed _ ih =>
    have split : log ++ event :: rest = (log ++ [event]) ++ rest := by simp
    rw [split] at regular ⊢
    exact ih (h.after allowed regular.of_append) regular

end SessionMonitor
