import SessionMonitor.Refusal

/-!
# Snapshots

The sessions of the server at one moment. No two of them have the same id.
-/

namespace SessionMonitor

/-- Points in time, in milliseconds since the beginning of 1970. -/
abbrev Timestamp := Int

/-- The sessions at one moment, in the order in which the server lists them. -/
structure Snapshot where
  sessions : List Session
  capturedAt : Timestamp
  distinct : (sessions.map (·.id)).Nodup

namespace Snapshot

/-- The first id of `ids` that occurs in `seen` or before it in `ids`. -/
def firstRepeated? (seen : List SessionId) : List SessionId → Option SessionId
  | [] => none
  | id :: rest => if id ∈ seen then some id else firstRepeated? (id :: seen) rest

theorem nodup_of_firstRepeated? {seen ids : List SessionId}
    (h : firstRepeated? seen ids = none) : ids.Nodup ∧ ∀ id ∈ ids, id ∉ seen := by
  induction ids generalizing seen with
  | nil => simp
  | cons id rest ih =>
    unfold firstRepeated? at h
    split at h
    · cases h
    · rename_i fresh
      obtain ⟨nodup, apart⟩ := ih h
      refine ⟨List.nodup_cons.2 ⟨fun member => apart id member List.mem_cons_self, nodup⟩, ?_⟩
      intro other member
      rcases List.mem_cons.1 member with rfl | member
      · exact fresh
      · exact fun old => apart other member (List.mem_cons_of_mem _ old)

/-- The snapshot of `sessions`; the first id that repeats an earlier one spoils it. -/
def ofSessions (sessions : List Session) (capturedAt : Timestamp) :
    Except SnapshotFault Snapshot :=
  match h : firstRepeated? [] (sessions.map (·.id)) with
  | some id => .error (.duplicateId id)
  | none => .ok ⟨sessions, capturedAt, (nodup_of_firstRepeated? h).1⟩

def empty : Snapshot := ⟨[], 0, List.nodup_nil⟩

def size (s : Snapshot) : Nat :=
  s.sessions.length

def ids (s : Snapshot) : List SessionId :=
  s.sessions.map (·.id)

def get? (s : Snapshot) (id : SessionId) : Option Session :=
  s.sessions.find? (·.id = id)

def contains (s : Snapshot) (id : SessionId) : Bool :=
  (s.get? id).isSome

end Snapshot

end SessionMonitor
