import Mathlib.Data.List.Induction
import Mathlib.Data.List.Nodup
import SessionMonitor.Snapshot

/-!
# Looking up sessions

The ids of a snapshot are distinct, so an id names at most one session.
-/

namespace SessionMonitor.Snapshot

variable {s : Snapshot} {p : Session} {id : SessionId}

theorem contains_iff : s.contains id = true ↔ id ∈ s.ids := by
  simp [contains, get?, ids]

theorem get?_of_mem (member : p ∈ s.sessions) : s.get? p.id = some p := by
  obtain ⟨found, same⟩ := Option.isSome_iff_exists.mp
    (contains_iff.mpr (List.mem_map_of_mem member) : (s.get? p.id).isSome = true)
  have present := List.mem_of_find?_eq_some same
  have matched : found.id = p.id := by simpa using List.find?_some same
  rw [same, List.inj_on_of_nodup_map s.distinct present member matched]

theorem id_mem_ids (member : p ∈ s.sessions) : p.id ∈ s.ids :=
  List.mem_map_of_mem member

theorem firstRepeated?_eq_none {seen ids : List SessionId} (nodup : ids.Nodup)
    (apart : ∀ id ∈ ids, id ∉ seen) : firstRepeated? seen ids = none := by
  induction ids generalizing seen with
  | nil => rfl
  | cons id rest ih =>
    obtain ⟨fresh, tail⟩ := List.nodup_cons.mp nodup
    rw [firstRepeated?, if_neg (apart id List.mem_cons_self)]
    refine ih tail fun other member old => ?_
    rcases List.mem_cons.mp old with rfl | old
    · exact fresh member
    · exact apart other (List.mem_cons_of_mem _ member) old

theorem ofSessions_of_nodup {sessions : List Session} (nodup : (sessions.map (·.id)).Nodup)
    (capturedAt : Timestamp) :
    ofSessions sessions capturedAt = .ok ⟨sessions, capturedAt, nodup⟩ := by
  unfold ofSessions
  split
  · rename_i id repeated
    rw [firstRepeated?_eq_none nodup (by simp)] at repeated
    cases repeated
  · rfl

theorem sessions_of_ofSessions {sessions : List Session} {capturedAt : Timestamp}
    (made : ofSessions sessions capturedAt = .ok s) : s.sessions = sessions := by
  unfold ofSessions at made
  split at made
  · cases made
  · cases made
    rfl

theorem exists_ofSessions_iff {sessions : List Session} {capturedAt : Timestamp} :
    (∃ s, ofSessions sessions capturedAt = .ok s) ↔ (sessions.map (·.id)).Nodup := by
  constructor
  · rintro ⟨s, made⟩
    rw [← sessions_of_ofSessions made]
    exact s.distinct
  · intro nodup
    exact ⟨_, ofSessions_of_nodup nodup capturedAt⟩

def FirstRepeated (ids : List SessionId) (id : SessionId) : Prop :=
  ∃ before after, ids = before ++ id :: after ∧ before.Nodup ∧ id ∈ before

theorem firstRepeated?_of_seen {seen ids : List SessionId} (before after : List SessionId)
    (split : ids = before ++ id :: after) (nodup : before.Nodup)
    (apart : ∀ other ∈ before, other ∉ seen) (old : id ∈ seen ∨ id ∈ before) :
    firstRepeated? seen ids = some id := by
  induction before generalizing seen ids with
  | nil =>
    rw [split, List.nil_append, firstRepeated?, if_pos (by simpa using old)]
  | cons first rest ih =>
    obtain ⟨fresh, tail⟩ := List.nodup_cons.mp nodup
    rw [split, List.cons_append, firstRepeated?, if_neg (apart first List.mem_cons_self)]
    refine ih rfl tail (fun other member => ?_) ?_
    · rw [List.mem_cons, not_or]
      refine ⟨?_, apart other (List.mem_cons_of_mem _ member)⟩
      rintro rfl
      exact fresh member
    · simpa [or_assoc, or_comm, or_left_comm] using old

theorem exists_firstRepeated {ids : List SessionId} (repeated : ¬ids.Nodup) :
    ∃ id, FirstRepeated ids id := by
  induction ids using List.reverseRecOn with
  | nil => exact (repeated List.nodup_nil).elim
  | append_singleton ids last ih =>
    by_cases nodup : ids.Nodup
    · refine ⟨last, ids, [], rfl, nodup, ?_⟩
      by_contra fresh
      exact repeated (List.nodup_append.mpr ⟨nodup, by simp, by grind⟩)
    · obtain ⟨id, before, after, rfl, distinct, old⟩ := ih nodup
      exact ⟨id, before, after ++ [last], by simp, distinct, old⟩

theorem ofSessions_eq_error_iff {sessions : List Session} {capturedAt : Timestamp}
    {fault : SnapshotFault} :
    ofSessions sessions capturedAt = .error fault ↔
      ∃ id, fault = .duplicateId id ∧ FirstRepeated (sessions.map (·.id)) id := by
  have refused {id : SessionId} (first : FirstRepeated (sessions.map (·.id)) id) :
      ofSessions sessions capturedAt = .error (.duplicateId id) := by
    obtain ⟨before, after, split, nodup, old⟩ := first
    have found : firstRepeated? [] (sessions.map (·.id)) = some id :=
      firstRepeated?_of_seen before after split nodup (by simp) (.inr old)
    unfold ofSessions
    split
    · rename_i other other_first
      rw [found] at other_first
      cases other_first
      rfl
    · rename_i none
      rw [found] at none
      cases none
  constructor
  · intro failed
    have repeated : ¬(sessions.map (·.id)).Nodup := by
      intro nodup
      rw [ofSessions_of_nodup nodup] at failed
      cases failed
    obtain ⟨id, first⟩ := exists_firstRepeated repeated
    rw [refused first] at failed
    cases failed
    exact ⟨id, rfl, first⟩
  · rintro ⟨id, rfl, first⟩
    exact refused first

end SessionMonitor.Snapshot
