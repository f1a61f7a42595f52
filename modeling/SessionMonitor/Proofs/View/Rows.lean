import SessionMonitor.View

/-!
# Rows of views

The rows of a view are the passing rows of its snapshot in another order: a position leads back to
the session of its row, and no session is shown twice.
-/

namespace SessionMonitor.View

variable {s : Snapshot} {f : Filter} {sorting : Sorting}

theorem rows_perm (s : Snapshot) (f : Filter) (sorting : Sorting) :
    (rows s f sorting).Perm (s.sessions.zipIdx.filter fun row => f.passes row.1) :=
  List.mergeSort_perm _ _

theorem getElem?_of_mem_rows {row : Session × Nat} (shown : row ∈ rows s f sorting) :
    s.sessions[row.2]? = some row.1 := by
  have listed := (List.mem_filter.mp ((rows_perm s f sorting).mem_iff.mp shown)).1
  exact List.mem_zipIdx_iff_getElem?.mp listed

theorem getElem?_positions (s : Snapshot) (f : Filter) (sorting : Sorting) :
    (positions s f sorting).map (fun position => s.sessions[position]?) =
      (sessions s f sorting).map some := by
  simp only [positions, sessions, List.map_map]
  exact List.map_congr_left fun row shown => getElem?_of_mem_rows shown

theorem nodup_ids (s : Snapshot) (f : Filter) (sorting : Sorting) :
    ((sessions s f sorting).map (·.id)).Nodup := by
  have perm := ((rows_perm s f sorting).map (·.1)).map (·.id)
  have kept :
      ((s.sessions.zipIdx.filter fun row => f.passes row.1).map (·.1)).Sublist s.sessions := by
    simpa using (List.filter_sublist (l := s.sessions.zipIdx)).map (·.1)
  exact perm.nodup_iff.mpr (s.distinct.sublist (kept.map _))

end SessionMonitor.View
