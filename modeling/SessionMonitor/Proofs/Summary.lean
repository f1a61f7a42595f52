import Mathlib.Algebra.BigOperators.Group.List.Lemmas
import Mathlib.Data.List.Induction
import SessionMonitor.Summary

/-!
# Groups

The groups of a snapshot are found in one pass, in which a map leads from each key to its entry.
They are what counting gives: every key once, where it first occurs, with the number of its
sessions.
-/

namespace SessionMonitor.Groups

variable {keys : List String} {key : String}

/-! ### Keys without repetition -/

theorem eraseDups_concat (keys : List String) (key : String) :
    (keys ++ [key]).eraseDups =
      if key ∈ keys then keys.eraseDups else keys.eraseDups ++ [key] := by
  rw [List.eraseDups_append, List.removeAll]
  split <;> rename_i old <;> simp [old, List.eraseDups_cons]

theorem pairwise_eraseDups (keys : List String) :
    keys.eraseDups.Pairwise fun first second => keys.idxOf first < keys.idxOf second := by
  induction keys using List.reverseRecOn with
  | nil => exact .nil
  | append_singleton earlier last ih =>
    have kept : earlier.eraseDups.Pairwise fun first second =>
        (earlier ++ [last]).idxOf first < (earlier ++ [last]).idxOf second := by
      refine ih.imp_of_mem fun {first second} one two less => ?_
      rwa [List.idxOf_append_of_mem (List.mem_eraseDups.mp one),
        List.idxOf_append_of_mem (List.mem_eraseDups.mp two)]
    rw [eraseDups_concat]
    split
    · exact kept
    · rename_i fresh
      refine List.pairwise_append.mpr ⟨kept, List.pairwise_singleton _ _, ?_⟩
      intro first one second two
      obtain rfl := List.mem_singleton.mp two
      have old := List.mem_eraseDups.mp one
      rw [List.idxOf_append_of_mem old, List.idxOf_append_of_notMem fresh]
      exact Nat.lt_add_right _ (List.idxOf_lt_length_of_mem old)

theorem nodup_eraseDups (keys : List String) : keys.eraseDups.Nodup :=
  (pairwise_eraseDups keys).imp fun less same => absurd (same ▸ less) (Nat.lt_irrefl _)

theorem getElem?_concat_eq_some_iff {place : Nat} {last : String} :
    (keys ++ [last])[place]? = some key ↔
      keys[place]? = some key ∨ place = keys.length ∧ last = key := by
  rw [List.getElem?_append]
  split
  · rename_i inside
    simp [Nat.ne_of_lt inside]
  · rename_i outside
    rw [List.getElem?_eq_none (Nat.le_of_not_lt outside), List.getElem?_singleton]
    split
    · have here : place = keys.length := by omega
      simp [here]
    · have elsewhere : place ≠ keys.length := by omega
      simp [elsewhere]

/-! ### What a tally holds -/

/-- What keys amount to: each of them once, where it first occurs, with its number as far as it can
be counted. -/
def counted (keys : List String) : List (String × Nat) :=
  keys.eraseDups.map fun key => (key, min (keys.count key) limit)

theorem counted_concat_fresh (fresh : key ∉ keys) :
    counted (keys ++ [key]) = counted keys ++ [(key, 1)] := by
  unfold counted
  rw [eraseDups_concat, if_neg fresh, List.map_append]
  congr 1
  · refine List.map_congr_left fun other member => ?_
    have different : key ≠ other := by
      rintro rfl
      exact fresh (List.mem_eraseDups.mp member)
    simp [List.count_append, different]
  · simp [List.count_append, List.count_eq_zero_of_not_mem fresh, limit]

theorem counted_concat_old {place : Nat} (found : keys.eraseDups[place]? = some key) :
    counted (keys ++ [key]) =
      (counted keys).modify place fun entry => (entry.1, min (entry.2 + 1) limit) := by
  have old : key ∈ keys := List.mem_eraseDups.mp (List.mem_of_getElem? found)
  unfold counted
  rw [eraseDups_concat, if_pos old]
  refine List.ext_getElem? fun i => ?_
  rw [List.getElem?_modify, List.getElem?_map, List.getElem?_map]
  by_cases here : place = i
  · subst here
    rw [found]
    simp only [Option.map_some, List.count_append, List.count_singleton_self, ↓reduceIte,
      Option.map_eq_map, Option.some.injEq, Prod.mk.injEq, true_and]
    omega
  · cases elsewhere : keys.eraseDups[i]? with
    | none => rfl
    | some other =>
      have different : key ≠ other := by
        rintro rfl
        have inside := (List.getElem?_eq_some_iff.mp found).1
        have same : keys.eraseDups[place]? = keys.eraseDups[i]? := found.trans elsewhere.symm
        exact here ((List.getElem?_inj inside (nodup_eraseDups keys)).mp same)
      simp [List.count_append, here, different]

namespace Tally

variable {t : Tally}

/-- A tally holds what the keys so far amount to, and its map leads to the entries. -/
structure Holds (t : Tally) (keys : List String) : Prop where
  entries : t.entries.toList = counted keys
  places : ∀ (key : String) (place : Nat),
    t.places[key]? = some place ↔ keys.eraseDups[place]? = some key

theorem holds_empty : Tally.empty.Holds [] :=
  ⟨rfl, by simp [Tally.empty]⟩

theorem Holds.place_eq_none_iff (holds : t.Holds keys) : t.places[key]? = none ↔ key ∉ keys := by
  rw [← List.mem_eraseDups, List.mem_iff_getElem?, not_exists]
  simp only [← holds.places, Option.eq_none_iff_forall_ne_some, ne_eq]

theorem Holds.size (holds : t.Holds keys) : t.entries.size = keys.eraseDups.length := by
  rw [← Array.length_toList, holds.entries, counted, List.length_map]

theorem Holds.add (holds : t.Holds keys) (key : String) : (t.add key).Holds (keys ++ [key]) := by
  unfold Tally.add
  split
  · rename_i place known
    have found := (holds.places key place).mp known
    have old : key ∈ keys := List.mem_eraseDups.mp (List.mem_of_getElem? found)
    refine ⟨?_, fun other spot => ?_⟩
    · rw [Array.toList_modify, holds.entries, counted_concat_old found]
    · rw [eraseDups_concat, if_pos old]
      exact holds.places other spot
  · rename_i unknown
    have fresh := holds.place_eq_none_iff.mp unknown
    refine ⟨?_, fun other spot => ?_⟩
    · rw [Array.toList_push, holds.entries, counted_concat_fresh fresh]
    · rw [eraseDups_concat, if_neg fresh, Std.HashMap.getElem?_insert, holds.size,
        getElem?_concat_eq_some_iff, ← holds.places]
      by_cases same : key = other
      · subst same
        simp [unknown, eq_comm]
      · simp [same]

theorem holds_foldl (sessions : List Session) (key : Session → String) (holds : t.Holds keys) :
    (sessions.foldl (fun tally p => tally.add (key p)) t).Holds (keys ++ sessions.map key) := by
  induction sessions generalizing t keys with
  | nil => simpa
  | cons first rest ih =>
    rw [List.map_cons, List.append_cons]
    exact ih (holds.add (key first))

end Tally

/-! ### The groups of a snapshot -/

variable {s : Snapshot} {key : Session → String}

theorem entries_ofSnapshot (s : Snapshot) (key : Session → String) :
    (ofSnapshot s key).entries = counted (s.sessions.map key) := by
  have holds := Tally.holds_foldl s.sessions key Tally.holds_empty
  exact holds.entries

theorem keys_counted (keys : List String) : (counted keys).map (·.1) = keys.eraseDups := by
  rw [counted, List.map_map]
  exact List.map_id _

theorem counted_of_few {keys : List String} (few : keys.length < UInt64.size) :
    counted keys = keys.eraseDups.map fun key => (key, keys.count key) := by
  refine List.map_congr_left fun key _ => ?_
  have bound : keys.count key ≤ keys.length := List.count_le_length
  rw [Nat.min_eq_left (by unfold limit; omega)]

/-- Every key is counted under one entry, so that the counts come to the number of all keys. -/
theorem total_counts (keys : List String) :
    total ⟨keys.eraseDups.map fun key => (key, keys.count key)⟩ = keys.length := by
  have same : keys.eraseDups.Perm keys.dedup :=
    (List.perm_ext_iff_of_nodup (nodup_eraseDups keys) keys.nodup_dedup).mpr fun key => by
      rw [List.mem_eraseDups, List.mem_dedup]
  calc total ⟨keys.eraseDups.map fun key => (key, keys.count key)⟩
      = (keys.eraseDups.map keys.count).sum := by
        rw [total, List.sum, List.foldr_map, List.foldr_map]
    _ = (keys.dedup.map keys.count).sum := (same.map _).sum_eq
    _ = keys.length := List.sum_map_count_dedup_eq_length keys

theorem mem_counted_iff {keys : List String} {k : String} {n : Nat}
    (few : keys.length < UInt64.size) : (k, n) ∈ counted keys ↔ n = keys.count k ∧ 0 < n := by
  rw [counted_of_few few, List.mem_map]
  constructor
  · rintro ⟨other, member, same⟩
    obtain ⟨rfl, rfl⟩ := Prod.mk.inj same
    exact ⟨rfl, List.count_pos_iff.mpr (List.mem_eraseDups.mp member)⟩
  · rintro ⟨rfl, positive⟩
    exact ⟨k, List.mem_eraseDups.mpr (List.count_pos_iff.mp positive), rfl⟩

theorem lookup_counted {keys : List String} (few : keys.length < UInt64.size) (k : String) :
    (counted keys).lookup k = if 0 < keys.count k then some (keys.count k) else none := by
  rw [counted_of_few few]
  split
  · rename_i positive
    exact List.lookup_graph _ (List.mem_eraseDups.mpr (List.count_pos_iff.mp positive))
  · rename_i absent
    rw [List.lookup_eq_none_iff]
    intro entry member
    obtain ⟨other, occurs, rfl⟩ := List.mem_map.mp member
    rw [bne_iff_ne]
    rintro rfl
    exact absent (List.count_pos_iff.mpr (List.mem_eraseDups.mp occurs))

/-- The groups of a snapshot are its sessions counted by their keys. A snapshot with more sessions
than can be counted does not fit into a memory. -/
theorem groups_are_counts (s : Snapshot) (key : Session → String) (fits : s.size < UInt64.size) :
    ((ofSnapshot s key).entries.map (·.1)).Nodup ∧
    ((ofSnapshot s key).entries.map (·.1)).Pairwise (fun k l =>
      s.sessions.findIdx (key · = k) < s.sessions.findIdx (key · = l)) ∧
    (∀ k n, (k, n) ∈ (ofSnapshot s key).entries ↔ n = s.sessions.countP (key · = k) ∧ 0 < n) ∧
    (ofSnapshot s key).total = s.size ∧
    ∀ k, (ofSnapshot s key).get? k =
      if 0 < s.sessions.countP (key · = k) then some (s.sessions.countP (key · = k)) else none := by
  have few : (s.sessions.map key).length < UInt64.size := by rwa [List.length_map]
  have number : ∀ k, (s.sessions.map key).count k = s.sessions.countP (key · = k) := by
    intro k
    rw [List.count_eq_countP, List.countP_map]
    rfl
  have first : ∀ k, (s.sessions.map key).idxOf k = s.sessions.findIdx (key · = k) := by
    intro k
    rw [List.idxOf, List.findIdx_map]
    rfl
  have keys : (ofSnapshot s key).entries.map (·.1) = (s.sessions.map key).eraseDups := by
    rw [entries_ofSnapshot, keys_counted]
  refine ⟨?_, ?_, fun k n => ?_, ?_, fun k => ?_⟩
  · rw [keys]
    exact nodup_eraseDups _
  · simp only [keys, ← first]
    exact pairwise_eraseDups _
  · rw [entries_ofSnapshot, mem_counted_iff few, number]
  · have entries := (entries_ofSnapshot s key).trans (counted_of_few few)
    calc (ofSnapshot s key).total
        = total ⟨(ofSnapshot s key).entries⟩ := rfl
      _ = (s.sessions.map key).length := by rw [entries, total_counts]
      _ = s.size := List.length_map key
  · rw [get?, entries_ofSnapshot, lookup_counted few, number]

def mixed : Snapshot where
  sessions := [
    { Session.blank ⟨3⟩ with user := "ann" }, Session.blank ⟨1⟩,
    { Session.blank ⟨7⟩ with user := "bob" }, { Session.blank ⟨2⟩ with user := "ann" }]
  capturedAt := 0
  distinct := by decide

theorem mixed_is_counted :
    mixed.size < UInt64.size ∧ ("ann", 2) ∈ (ofSnapshot mixed (·.user)).entries ∧
      (ofSnapshot mixed (·.user)).total = 4 ∧ (ofSnapshot mixed (·.user)).get? "" = some 1 ∧
      (ofSnapshot mixed (·.user)).get? "eve" = none := by
  have fits : mixed.size < UInt64.size := by decide
  obtain ⟨-, -, entry, total, found⟩ := groups_are_counts mixed (·.user) fits
  refine ⟨fits, (entry "ann" 2).mpr (by decide), total, ?_, ?_⟩
  · rw [found ""]
    decide
  · rw [found "eve"]
    decide

end SessionMonitor.Groups
