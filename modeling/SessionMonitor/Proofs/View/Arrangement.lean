import Mathlib.Data.List.Nodup
import Mathlib.Data.List.Pairwise
import SessionMonitor.Proofs.Snapshot
import SessionMonitor.Proofs.View.Rows
import SessionMonitor.Proofs.View.Sorting

/-!
# The arrangement of views

A snapshot, a filter and a sorting leave one way to arrange the sessions: those that pass, each
once, in order, and those that compare equal as in the snapshot. A view is that arrangement.
-/

namespace SessionMonitor.View

variable {s : Snapshot} {f : Filter} {sorting : Sorting}

/-- Positions of the sessions that pass, each once, in order, equal ones as in the snapshot. -/
structure Arranged (s : Snapshot) (f : Filter) (sorting : Sorting) (shown : List Nat) : Prop where
  nodup : shown.Nodup
  mem_iff : ∀ k, k ∈ shown ↔ ∃ p, s.sessions[k]? = some p ∧ f.passes p = true
  ordered : shown.Pairwise fun i j => ∀ p q,
    s.sessions[i]? = some p → s.sessions[j]? = some q →
      sorting.order p q ≠ .gt ∧ (sorting.order p q = .eq → i < j)

/-! ### One arrangement at most -/

theorem Arranged.unique {first second : List Nat} (h : Arranged s f sorting first)
    (other : Arranged s f sorting second) : first = second := by
  have perm : first.Perm second := by
    rw [List.perm_ext_iff_of_nodup h.nodup other.nodup]
    intro k
    rw [h.mem_iff, other.mem_iff]
  refine List.Perm.eq_of_pairwise ?_ h.ordered other.ordered perm
  intro i j left right below above
  obtain ⟨p, foundP, -⟩ := (h.mem_iff i).mp left
  obtain ⟨q, foundQ, -⟩ := (other.mem_iff j).mp right
  obtain ⟨belowQ, tieP⟩ := below p q foundP foundQ
  obtain ⟨belowP, tieQ⟩ := above q p foundQ foundP
  have smaller := tieP (sorting.order_eq_of_allows belowQ belowP)
  have greater := tieQ (sorting.order_eq_of_allows belowP belowQ)
  omega

/-! ### Views are arrangements -/

theorem mem_positions {k : Nat} :
    k ∈ positions s f sorting ↔ ∃ p, s.sessions[k]? = some p ∧ f.passes p = true := by
  have shown (p : Session) : (p, k) ∈ rows s f sorting ↔
      s.sessions[k]? = some p ∧ f.passes p = true := by
    rw [(rows_perm s f sorting).mem_iff, List.mem_filter, List.mem_zipIdx_iff_getElem?]
  constructor
  · intro listed
    obtain ⟨⟨p, _⟩, row, rfl⟩ := List.mem_map.mp listed
    exact ⟨p, (shown p).mp row⟩
  · rintro ⟨p, found⟩
    exact List.mem_map.mpr ⟨(p, k), (shown p).mpr found, rfl⟩

theorem ascending_passing (s : Snapshot) (f : Filter) :
    (s.sessions.zipIdx.filter fun row => f.passes row.1).Pairwise fun a b => a.2 < b.2 := by
  have listed : s.sessions.zipIdx.Pairwise fun a b => a.2 < b.2 := by
    rw [← List.pairwise_map (f := Prod.snd) (R := (· < ·)), List.zipIdx_map_snd]
    exact List.pairwise_lt_range'
  exact listed.filter _

theorem nodup_positions (s : Snapshot) (f : Filter) (sorting : Sorting) :
    (positions s f sorting).Nodup := by
  rw [positions, ((rows_perm s f sorting).map Prod.snd).nodup_iff, List.Nodup, List.pairwise_map]
  exact (ascending_passing s f).imp fun less => Nat.ne_of_lt less

theorem pairwise_rows (s : Snapshot) (f : Filter) (sorting : Sorting) :
    (rows s f sorting).Pairwise fun a b => sorting.order a.1 b.1 ≠ .gt := by
  have allowed : (rows s f sorting).Pairwise fun a b => sorting.allows a.1 b.1 = true := by
    unfold rows
    apply List.pairwise_mergeSort
    · exact fun _ _ _ => sorting.allows_trans
    · exact fun a b => sorting.allows_total a.1 b.1
  exact allowed.imp sorting.allows_iff.mp

/-- Whether the session of a row compares equal to `p`. -/
def ties (sorting : Sorting) (p : Session) (row : Session × Nat) : Bool :=
  sorting.order row.1 p == .eq

/-- The rows that compare equal to a session stand as in the snapshot. -/
theorem filter_ties_rows (s : Snapshot) (f : Filter) (sorting : Sorting) (p : Session) :
    (rows s f sorting).filter (ties sorting p) =
      (s.sessions.zipIdx.filter fun row => f.passes row.1).filter (ties sorting p) := by
  let passing := s.sessions.zipIdx.filter fun row => f.passes row.1
  have tied : (passing.filter (ties sorting p)).Pairwise
      fun a b => sorting.allows a.1 b.1 = true := by
    refine List.pairwise_of_forall_mem_list fun a memA b memB => ?_
    have tieA : sorting.order a.1 p = .eq := by simpa [ties] using (List.mem_filter.mp memA).2
    have tieB : sorting.order b.1 p = .eq := by simpa [ties] using (List.mem_filter.mp memB).2
    rw [Sorting.allows_iff, Std.TransCmp.congr_left tieA, Std.OrientedCmp.eq_comm.mp tieB]
    decide
  have kept : (passing.filter (ties sorting p)).Sublist (rows s f sorting) := by
    unfold rows
    apply List.sublist_mergeSort
    · exact fun _ _ _ => sorting.allows_trans
    · exact fun a b => sorting.allows_total a.1 b.1
    · exact tied
    · exact List.filter_sublist
  have inside : (passing.filter (ties sorting p)).Sublist
      ((rows s f sorting).filter (ties sorting p)) := by
    simpa using kept.filter (ties sorting p)
  exact (inside.eq_of_length ((rows_perm s f sorting).filter _).length_eq.symm).symm

theorem arranged_positions (s : Snapshot) (f : Filter) (sorting : Sorting) :
    Arranged s f sorting (positions s f sorting) where
  nodup := nodup_positions s f sorting
  mem_iff _ := mem_positions
  ordered := by
    rw [positions, List.pairwise_map, List.pairwise_iff_forall_sublist]
    intro a b before p q foundP foundQ
    have rowA : a ∈ rows s f sorting := before.subset (by simp)
    have rowB : b ∈ rows s f sorting := before.subset (by simp)
    obtain rfl : p = a.1 := Option.some.inj (foundP.symm.trans (getElem?_of_mem_rows rowA))
    obtain rfl : q = b.1 := Option.some.inj (foundQ.symm.trans (getElem?_of_mem_rows rowB))
    refine ⟨List.pairwise_iff_forall_sublist.mp (pairwise_rows s f sorting) before, fun tie => ?_⟩
    have group : [a, b].Sublist ((rows s f sorting).filter (ties sorting b.1)) := by
      have both : [a, b].filter (ties sorting b.1) = [a, b] := by
        have self : sorting.order b.1 b.1 = .eq := Std.ReflCmp.compare_self
        simp [ties, tie, self]
      exact both ▸ before.filter (ties sorting b.1)
    rw [filter_ties_rows] at group
    exact List.pairwise_iff_forall_sublist.mp ((ascending_passing s f).filter _) group

theorem positions_eq_of_arranged {shown : List Nat} (h : Arranged s f sorting shown) :
    positions s f sorting = shown :=
  (arranged_positions s f sorting).unique h

/-! ### The sessions of a view -/

theorem sessions_perm (s : Snapshot) (f : Filter) (sorting : Sorting) :
    (sessions s f sorting).Perm (s.sessions.filter f.passes) := by
  have parts : (s.sessions.zipIdx.filter fun row => f.passes row.1).map Prod.fst =
      s.sessions.filter f.passes := by
    rw [← Function.comp_def f.passes, ← List.filter_map, List.zipIdx_map_fst]
  exact parts ▸ (rows_perm s f sorting).map Prod.fst

theorem pairwise_sessions (s : Snapshot) (f : Filter) (sorting : Sorting) :
    (sessions s f sorting).Pairwise fun p q => sorting.order p q ≠ .gt :=
  List.pairwise_map.mpr (pairwise_rows s f sorting)

theorem sessions_eq_of_positions {shown : List Nat} (h : positions s f sorting = shown) :
    (sessions s f sorting).map some = shown.map (s.sessions[·]?) := by
  rw [← h, getElem?_positions]

theorem sessions_eq_self (passing : ∀ p ∈ s.sessions, f.passes p = true)
    (ordered : s.sessions.Pairwise fun p q => sorting.order p q ≠ .gt) :
    sessions s f sorting = s.sessions := by
  have arranged : Arranged s f sorting (List.range s.sessions.length) := by
    refine ⟨List.nodup_range, fun k => ?_, ?_⟩
    · rw [List.mem_range]
      constructor
      · intro inside
        exact ⟨s.sessions[k], List.getElem?_eq_getElem inside,
          passing _ (List.getElem_mem inside)⟩
      · rintro ⟨p, found, -⟩
        exact (List.getElem?_eq_some_iff.mp found).1
    · refine List.pairwise_lt_range.imp fun {i j} less p q foundP foundQ => ⟨?_, fun _ => less⟩
      obtain ⟨insideP, rfl⟩ := List.getElem?_eq_some_iff.mp foundP
      obtain ⟨insideQ, rfl⟩ := List.getElem?_eq_some_iff.mp foundQ
      exact List.pairwise_iff_getElem.mp ordered i j insideP insideQ less
  have shown := sessions_eq_of_positions (positions_eq_of_arranged arranged)
  refine List.map_injective_iff.mpr (fun _ _ => Option.some.inj) (shown.trans ?_)
  refine List.ext_getElem? fun k => ?_
  by_cases inside : k < s.sessions.length
  · simp [inside]
  · simp [inside]

theorem sessions_id_eq_of_perm {other : Snapshot} (key : sorting.key = .id)
    (perm : other.sessions.Perm s.sessions) :
    sessions other f sorting = sessions s f sorting := by
  have shown : (sessions other f sorting).Perm (sessions s f sorting) :=
    (sessions_perm other f sorting).trans
      ((perm.filter f.passes).trans (sessions_perm s f sorting).symm)
  refine List.Perm.eq_of_pairwise ?_ (pairwise_sessions other f sorting)
    (pairwise_sessions s f sorting) shown
  intro p q left right below above
  have memberP : p ∈ s.sessions :=
    (List.mem_filter.mp ((sessions_perm s f sorting).mem_iff.mp (shown.mem_iff.mp left))).1
  have memberQ : q ∈ s.sessions :=
    (List.mem_filter.mp ((sessions_perm s f sorting).mem_iff.mp right)).1
  have tie := sorting.order_eq_of_allows below above
  have same : p.id = q.id := (sorting.order_id_eq_iff key).mp tie
  exact List.inj_on_of_nodup_map s.distinct memberP memberQ same

/-! ### Both directions -/

def Apart (s : Snapshot) (sorting : Sorting) (i j : Nat) : Prop :=
  ∀ p q, s.sessions[i]? = some p → s.sessions[j]? = some q → sorting.order p q ≠ .eq

instance : Std.Symm (Apart s sorting) where
  symm _ _ apart p q foundP foundQ tie :=
    apart q p foundQ foundP (Std.OrientedCmp.eq_comm.mp tie)

theorem positions_flipped_iff :
    positions s f { sorting with direction := sorting.direction.flipped } =
        (positions s f sorting).reverse ↔
      ∀ i ∈ positions s f sorting, ∀ j ∈ positions s f sorting, i ≠ j → Apart s sorting i j := by
  have here := arranged_positions s f sorting
  constructor
  · intro reversed
    have there := arranged_positions s f { sorting with direction := sorting.direction.flipped }
    rw [reversed] at there
    -- Two equal rows would have to stand as in the snapshot in the list and in its reverse.
    have apart : (positions s f sorting).Pairwise (Apart s sorting) := by
      refine (here.ordered.and (List.pairwise_reverse.mp there.ordered)).imp ?_
      rintro i j ⟨forth, back⟩ p q foundP foundQ tie
      have before := (forth p q foundP foundQ).2 tie
      have after := (back q p foundQ foundP).2 ((sorting.order_flipped q p).trans tie)
      omega
    exact fun i memI j memJ different => apart.forall memI memJ different
  · intro apart
    refine positions_eq_of_arranged ⟨List.nodup_reverse.mpr here.nodup, fun k => ?_, ?_⟩
    · rw [List.mem_reverse, here.mem_iff]
    · rw [List.pairwise_reverse]
      refine ((List.Pairwise.and_mem.mp here.ordered).and here.nodup).imp ?_
      rintro i j ⟨⟨memI, memJ, forth⟩, different⟩ p q foundP foundQ
      rw [sorting.order_flipped]
      exact ⟨(forth q p foundQ foundP).1,
        fun tie => (apart i memI j memJ different q p foundQ foundP tie).elim⟩

/-! ### The whole view -/

/-- A view is the only arrangement of a snapshot. The other direction is its reverse only where no
two sessions compare equal. -/
theorem view_is_the_arrangement (s : Snapshot) (f : Filter) (sorting : Sorting) :
    (∀ shown, shown = positions s f sorting ↔ Arranged s f sorting shown) ∧
    (sessions s f sorting).map some = (positions s f sorting).map (s.sessions[·]?) ∧
    (∀ time, ∃ again, Snapshot.ofSessions (sessions s f sorting) time = .ok again ∧
      sessions again f sorting = sessions s f sorting) ∧
    (positions s f { sorting with direction := sorting.direction.flipped } =
        (positions s f sorting).reverse ↔
      ∀ i ∈ positions s f sorting, ∀ j ∈ positions s f sorting, i ≠ j → Apart s sorting i j) ∧
    (sorting.key = .id → ∀ other : Snapshot, other.sessions.Perm s.sessions →
      sessions other f sorting = sessions s f sorting) := by
  refine ⟨fun shown => ⟨?_, fun arranged => ?_⟩, ?_, fun time => ?_, positions_flipped_iff, ?_⟩
  · rintro rfl
    exact arranged_positions s f sorting
  · exact (positions_eq_of_arranged arranged).symm
  · exact (getElem?_positions s f sorting).symm
  · refine ⟨_, Snapshot.ofSessions_of_nodup (nodup_ids s f sorting) time, ?_⟩
    refine sessions_eq_self (fun p shown => ?_) (pairwise_sessions s f sorting)
    exact (List.mem_filter.mp ((sessions_perm s f sorting).mem_iff.mp shown)).2
  · exact fun key other perm => sessions_id_eq_of_perm key perm

def ofUser (id : UInt64) (user : String) : Session :=
  { Session.blank ⟨id⟩ with user := user }

/-- Two sessions of one user, but for the case of a letter, around a session of another. -/
def crowd : Snapshot :=
  ⟨[ofUser 3 "root", ofUser 1 "app", ofUser 2 "ROOT"], 0, by decide⟩

def turned : Snapshot :=
  ⟨crowd.sessions.reverse, 0, by decide⟩

theorem crowd_is_arranged :
    Arranged crowd .all ⟨.user, .asc⟩ [1, 0, 2] ∧ Arranged crowd .all ⟨.user, .desc⟩ [0, 2, 1] ∧
      positions crowd .all ⟨.user, .desc⟩ ≠ (positions crowd .all ⟨.user, .asc⟩).reverse ∧
      sessions turned .all ⟨.id, .desc⟩ = sessions crowd .all ⟨.id, .desc⟩ := by
  have users : SortKey.user.order (ofUser 3 "root") (ofUser 1 "app") = .gt ∧
      SortKey.user.order (ofUser 3 "root") (ofUser 2 "ROOT") = .eq ∧
      SortKey.user.order (ofUser 1 "app") (ofUser 2 "ROOT") = .lt := by decide +kernel
  have ascending : positions crowd .all ⟨.user, .asc⟩ = [1, 0, 2] := by
    simp [positions, rows, crowd, Filter.passes, Filter.all, List.mergeSort,
      Sorting.allows, Sorting.order, users]
  have descending : positions crowd .all ⟨.user, .desc⟩ = [0, 2, 1] := by
    simp [positions, rows, crowd, Filter.passes, Filter.all, List.mergeSort,
      Sorting.allows, Sorting.order, users]
  obtain ⟨upwards, -, -, reversed, -⟩ := view_is_the_arrangement crowd .all ⟨.user, .asc⟩
  obtain ⟨downwards, -⟩ := view_is_the_arrangement crowd .all ⟨.user, .desc⟩
  obtain ⟨-, -, -, -, byId⟩ := view_is_the_arrangement crowd .all ⟨.id, .desc⟩
  refine ⟨(upwards _).mp ascending.symm, (downwards _).mp descending.symm, fun same => ?_,
    byId rfl turned (List.reverse_perm _)⟩
  have apart := reversed.mp same 0 (by simp [ascending]) 2 (by simp [ascending]) (by decide)
  exact apart _ _ rfl rfl users.2.1

end SessionMonitor.View
