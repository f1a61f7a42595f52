import Mathlib.Data.String.Basic
import SessionMonitor.Json.Value

/-!
# Fields in order

An object keeps its fields by increasing key. Fields with different keys are kept as they are,
whatever the order in which they come.
-/

namespace SessionMonitor.Json.Fields

variable {fields written : Fields} {key : String} {value : Json}

/-- The keys increase. -/
def Ascending (fields : Fields) : Prop :=
  fields.Pairwise (·.1 < ·.1)

theorem mem_insert {field : String × Json} (mem : field ∈ insert key value fields) :
    field = (key, value) ∨ field ∈ fields := by
  induction fields with
  | nil => simpa [insert] using mem
  | cons first rest ih =>
    unfold insert at mem
    split at mem
    · simpa using mem
    · split at mem
      · rcases List.mem_cons.mp mem with same | later
        · exact .inl same
        · exact .inr (List.mem_cons_of_mem _ later)
      · rcases List.mem_cons.mp mem with rfl | later
        · exact .inr List.mem_cons_self
        · exact (ih later).imp_right (List.mem_cons_of_mem _)

theorem Ascending.insert (ascending : Ascending fields) (key : String) (value : Json) :
    Ascending (insert key value fields) := by
  induction fields with
  | nil => exact List.pairwise_singleton _ _
  | cons first rest ih =>
    obtain ⟨above, ascending⟩ := List.pairwise_cons.mp ascending
    unfold Fields.insert
    split
    · rename_i less
      refine List.pairwise_cons.mpr ⟨?_, List.pairwise_cons.mpr ⟨above, ascending⟩⟩
      intro field mem
      rcases List.mem_cons.mp mem with rfl | later
      · exact less
      · exact less.trans (above field later)
    · rename_i notLess
      split
      · rename_i same
        subst same
        exact List.pairwise_cons.mpr ⟨above, ascending⟩
      · rename_i different
        refine List.pairwise_cons.mpr ⟨fun field mem => ?_, ih ascending⟩
        rcases mem_insert mem with rfl | later
        · exact lt_of_le_of_ne (not_lt.mp notLess) (Ne.symm different)
        · exact above field later

theorem ascending_ofList (written : List (String × Json)) : Ascending (ofList written) :=
  List.foldlRecOn written _ .nil fun _ ascending field _ => ascending.insert field.1 field.2

theorem forall_mem_ofList {p : String × Json → Prop} (each : ∀ field ∈ written, p field) :
    ∀ field ∈ ofList written, p field := by
  refine List.foldlRecOn (motive := fun done => ∀ field ∈ done, p field) written _ (by nofun) ?_
  intro done kept given mem field found
  rcases mem_insert found with rfl | before
  · exact each given mem
  · exact kept field before

theorem insert_perm (fresh : key ∉ fields.map Prod.fst) :
    (insert key value fields).Perm ((key, value) :: fields) := by
  induction fields with
  | nil => exact .refl _
  | cons first rest ih =>
    rw [List.map_cons, List.mem_cons, not_or] at fresh
    obtain ⟨different, fresh⟩ := fresh
    unfold insert
    rw [if_neg different]
    split
    · exact .refl _
    · exact ((ih fresh).cons first).trans (.swap _ _ _)

theorem foldl_insert_perm (done : Fields) (distinct : ((done ++ written).map Prod.fst).Nodup) :
    (written.foldl (fun done field => insert field.1 field.2 done) done).Perm
      (done ++ written) := by
  induction written generalizing done with
  | nil => simp
  | cons field rest ih =>
    have fresh : field.1 ∉ done.map Prod.fst := by
      rw [List.map_append, List.nodup_append] at distinct
      exact fun mem => distinct.2.2 _ mem _ List.mem_cons_self rfl
    have moved : (insert field.1 field.2 done ++ rest).Perm (done ++ field :: rest) :=
      ((insert_perm fresh).append_right rest).trans List.perm_middle.symm
    exact (ih _ ((moved.map Prod.fst).nodup_iff.mpr distinct)).trans moved

theorem ofList_perm (distinct : (written.map Prod.fst).Nodup) : (ofList written).Perm written :=
  foldl_insert_perm [] distinct

theorem Ascending.distinct (ascending : Ascending fields) : (fields.map Prod.fst).Nodup :=
  List.pairwise_map.mpr (ascending.imp ne_of_lt)

theorem Ascending.eq_of_perm (first : Ascending fields) (second : Ascending written)
    (same : fields.Perm written) : fields = written :=
  same.eq_of_pairwise (fun _ _ _ _ less more => absurd (less.trans more) (lt_irrefl _))
    first second

theorem Ascending.ofList_of_perm (ascending : Ascending fields) (same : written.Perm fields) :
    ofList written = fields := by
  have distinct := (same.map Prod.fst).nodup_iff.mpr ascending.distinct
  exact (ascending_ofList written).eq_of_perm ascending ((ofList_perm distinct).trans same)

end SessionMonitor.Json.Fields
