import SessionMonitor.Snapshot

/-!
# Selections

The sessions that the operator has marked, as a set of ids in ascending order.
-/

namespace SessionMonitor

namespace SessionId

theorem lt_trans {a b c : SessionId} (hab : a < b) (hbc : b < c) : a < c :=
  UInt64.lt_trans hab hbc

theorem lt_of_not_lt_of_ne {a b : SessionId} (h : ¬a < b) (ne : a ≠ b) : b < a := by
  have le : b.value ≤ a.value := UInt64.not_lt.1 h
  exact UInt64.lt_of_le_of_ne le fun same => ne (by cases a; cases b; simp_all)

end SessionId

structure Selection where
  ids : List SessionId
  ascending : ids.Pairwise (· < ·)

namespace Selection

/-- Puts an id at its place in ascending ids, once. -/
def insertId (id : SessionId) : List SessionId → List SessionId
  | [] => [id]
  | other :: rest =>
    if id < other then id :: other :: rest
    else if id = other then other :: rest
    else other :: insertId id rest

theorem mem_insertId {id x : SessionId} {ids : List SessionId} :
    x ∈ insertId id ids ↔ x = id ∨ x ∈ ids := by
  induction ids with
  | nil => simp [insertId]
  | cons other rest ih =>
    unfold insertId
    split
    · simp
    · split
      · rename_i same
        subst same
        simp
      · simp only [List.mem_cons, ih]
        exact or_left_comm

theorem ascending_insertId {id : SessionId} {ids : List SessionId}
    (h : ids.Pairwise (· < ·)) : (insertId id ids).Pairwise (· < ·) := by
  induction ids with
  | nil => simp [insertId]
  | cons other rest ih =>
    obtain ⟨above, tail⟩ := List.pairwise_cons.1 h
    unfold insertId
    split
    · rename_i less
      refine List.pairwise_cons.2 ⟨fun x member => ?_, h⟩
      rcases List.mem_cons.1 member with rfl | member
      · exact less
      · exact SessionId.lt_trans less (above x member)
    · split
      · exact h
      · rename_i notLess different
        refine List.pairwise_cons.2 ⟨fun x member => ?_, ih tail⟩
        rcases mem_insertId.1 member with rfl | member
        · exact SessionId.lt_of_not_lt_of_ne notLess different
        · exact above x member

def empty : Selection := ⟨[], List.Pairwise.nil⟩

def size (s : Selection) : Nat :=
  s.ids.length

def contains (s : Selection) (id : SessionId) : Bool :=
  s.ids.contains id

def insert (s : Selection) (id : SessionId) : Selection :=
  ⟨insertId id s.ids, ascending_insertId s.ascending⟩

def filter (s : Selection) (p : SessionId → Bool) : Selection :=
  ⟨s.ids.filter p, s.ascending.filter p⟩

def erase (s : Selection) (id : SessionId) : Selection :=
  s.filter (· ≠ id)

def toggle (s : Selection) (id : SessionId) : Selection :=
  if s.contains id then s.erase id else s.insert id

def ofList (ids : List SessionId) : Selection :=
  ids.foldl insert empty

def eraseAll (s : Selection) (ids : List SessionId) : Selection :=
  ids.foldl erase s

def retainLive (s : Selection) (snapshot : Snapshot) : Selection :=
  s.filter snapshot.contains

/-- Whether all of the given ids, and at least one, are marked. -/
def covers (s : Selection) (ids : List SessionId) : Bool :=
  !ids.isEmpty && ids.all s.contains

end Selection

end SessionMonitor
