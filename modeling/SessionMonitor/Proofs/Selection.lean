import SessionMonitor.Proofs.Snapshot
import SessionMonitor.Selection

/-!
# Marked sessions

What each change of a selection does to its members.
-/

namespace SessionMonitor.Selection

variable {s : Selection} {id x : SessionId} {ids : List SessionId}

theorem nodup (s : Selection) : s.ids.Nodup := by
  refine s.ascending.imp fun {a b} less => ?_
  rintro rfl
  exact UInt64.lt_irrefl a.value less

theorem mem_erase : x ∈ (s.erase id).ids ↔ x ∈ s.ids ∧ x ≠ id := by
  simp [erase, filter]

theorem mem_insert : x ∈ (s.insert id).ids ↔ x = id ∨ x ∈ s.ids :=
  mem_insertId

theorem mem_toggle : x ∈ (s.toggle id).ids ↔ if x = id then id ∉ s.ids else x ∈ s.ids := by
  by_cases marked : id ∈ s.ids
  · rw [toggle, if_pos (by simpa [contains] using marked), mem_erase]
    by_cases same : x = id <;> simp [same, marked]
  · rw [toggle, if_neg (by simpa [contains] using marked), mem_insert]
    by_cases same : x = id <;> simp [same, marked]

theorem ids_eraseAll (s : Selection) (ids : List SessionId) :
    (s.eraseAll ids).ids = s.ids.filter fun x => x ∉ ids := by
  induction ids generalizing s with
  | nil => simp [eraseAll]
  | cons id rest ih =>
    show ((s.erase id).eraseAll rest).ids = _
    rw [ih, erase, filter, List.filter_filter]
    refine List.filter_congr fun x _ => ?_
    simp [not_or, Bool.and_comm]

theorem mem_eraseAll : x ∈ (s.eraseAll ids).ids ↔ x ∈ s.ids ∧ x ∉ ids := by
  rw [ids_eraseAll, List.mem_filter, decide_eq_true_iff]

theorem mem_ofList : x ∈ (ofList ids).ids ↔ x ∈ ids := by
  have inserted (s : Selection) : x ∈ (ids.foldl insert s).ids ↔ x ∈ s.ids ∨ x ∈ ids := by
    induction ids generalizing s with
    | nil => simp
    | cons id rest ih =>
      rw [List.foldl_cons, ih, mem_insert, List.mem_cons, or_assoc, or_left_comm]
  simpa [ofList, empty] using inserted empty

theorem mem_retainLive {snapshot : Snapshot} :
    x ∈ (s.retainLive snapshot).ids ↔ x ∈ s.ids ∧ x ∈ snapshot.ids := by
  rw [← Snapshot.contains_iff]
  exact List.mem_filter

theorem ids_retainLive (s : Selection) (snapshot : Snapshot) :
    (s.retainLive snapshot).ids = s.ids.filter fun id => id ∈ snapshot.ids := by
  refine List.filter_congr fun id _ => ?_
  rw [Bool.eq_iff_iff, decide_eq_true_iff, Snapshot.contains_iff]

theorem size_eq_retainLive_add (s : Selection) (snapshot : Snapshot) :
    s.size = (s.retainLive snapshot).size +
      (s.ids.filter fun id => id ∉ snapshot.ids).length := by
  rw [size, size, ids_retainLive]
  simp only [decide_not]
  exact List.length_eq_length_filter_add _

end SessionMonitor.Selection
