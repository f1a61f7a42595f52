import Mathlib.Data.List.Induction
import SessionMonitor.Proofs.Engine.Run

/-!
# The load over time

A history is the end of a log from which nothing is ever dropped. In the log the time of a sample is
that of the latest snapshot so far, however the clock has jumped and whatever the history has
dropped since.
-/

namespace SessionMonitor

/-- The sample of a snapshot after earlier ones. Its time is the latest of all of them. -/
def Sample.after (earlier : List Snapshot) (s : Snapshot) : Sample where
  time := (earlier.map (·.capturedAt)).foldl max s.capturedAt
  cpu := (s.sessions.map (·.cpu)).foldl (· + ·) 0.0
  memory := (s.sessions.map (·.memory)).foldl (· + ·) 0.0

namespace History

theorem max_foldl_max (times : List Timestamp) (first last : Timestamp) :
    max (times.foldl max first) last = max first (times.foldl max last) :=
  calc
    max (times.foldl max first) last = max last (times.foldl max first) := Int.max_comm _ _
    _ = times.foldl max (max last first) := List.foldl_assoc.symm
    _ = times.foldl max (max first last) := by rw [Int.max_comm]
    _ = max first (times.foldl max last) := List.foldl_assoc

theorem after_eq (earlier : List Snapshot) (s : Snapshot) :
    Sample.after earlier s = { Sample.ofSnapshot s with
      time := (earlier.map (·.capturedAt)).foldl max s.capturedAt } := by
  simp [Sample.after, Sample.ofSnapshot, List.foldl_map]

/-- The time of the last sample stands for those of all the snapshots before. -/
theorem after_concat (earlier : List Snapshot) (last s : Snapshot) :
    Sample.after (earlier ++ [last]) s = { Sample.ofSnapshot s with
      time := max s.capturedAt (Sample.after earlier last).time } := by
  rw [after_eq, List.map_append, List.foldl_append]
  exact congrArg (fun time => { Sample.ofSnapshot s with time := time }) (max_foldl_max _ _ _)

/-! ### The log -/

/-- The samples of snapshots, none of them dropped. -/
def log (snapshots : List Snapshot) : List Sample :=
  snapshots.mapIdx fun k s => .after (snapshots.take k) s

theorem getElem?_log (snapshots : List Snapshot) (k : Nat) :
    (log snapshots)[k]? = snapshots[k]?.map (.after (snapshots.take k)) :=
  List.getElem?_mapIdx

theorem length_log (snapshots : List Snapshot) : (log snapshots).length = snapshots.length :=
  List.length_mapIdx

theorem log_concat (snapshots : List Snapshot) (s : Snapshot) :
    log (snapshots ++ [s]) = log snapshots ++ [.after snapshots s] := by
  refine List.ext_getElem? fun k => ?_
  rw [getElem?_log]
  by_cases old : k < snapshots.length
  · rw [List.getElem?_append_left old, List.take_append_of_le_length (Nat.le_of_lt old),
      List.getElem?_append_left (by rwa [length_log]), getElem?_log]
  · rw [List.getElem?_append_right (by omega),
      List.getElem?_append_right (by rw [length_log]; omega), length_log]
    cases place : k - snapshots.length with
    | zero =>
      obtain rfl : k = snapshots.length := by omega
      rw [List.take_left]
      rfl
    | succ => rfl

theorem le_after {snapshots : List Snapshot} {sample : Sample} (logged : sample ∈ log snapshots)
    (s : Snapshot) : sample.time ≤ (Sample.after snapshots s).time := by
  induction snapshots using List.reverseRecOn generalizing s with
  | nil => cases logged
  | append_singleton earlier last ih =>
    rw [after_concat]
    rw [log_concat] at logged
    rcases List.mem_append.mp logged with old | new
    · exact Int.le_trans (ih old last) (Int.le_max_right _ _)
    · rw [List.mem_singleton.mp new]
      exact Int.le_max_right _ _

theorem ascending_log (snapshots : List Snapshot) :
    ((log snapshots).map (·.time)).Pairwise (· ≤ ·) := by
  induction snapshots using List.reverseRecOn with
  | nil => exact .nil
  | append_singleton earlier last ih =>
    rw [log_concat, List.map_append, List.pairwise_append]
    refine ⟨ih, List.pairwise_singleton _ _, ?_⟩
    rintro _ old _ new
    obtain ⟨sample, logged, rfl⟩ := List.mem_map.mp old
    rw [List.mem_singleton.mp new]
    exact le_after logged last

/-! ### The history is the end of the log -/

theorem record_samples (h : History) (s : Snapshot) :
    (h.record s).samples =
      h.samples.drop (if h.capacity ≤ h.samples.length then 1 else 0) ++ [h.sampleOf s] := by
  unfold record
  split <;> rfl

theorem samples_record_ne_nil (h : History) (s : Snapshot) : (h.record s).samples ≠ [] := by
  rw [record_samples]
  exact List.append_ne_nil_of_right_ne_nil _ (List.cons_ne_nil _ _)

def ofSnapshots (capacity : Nat) (snapshots : List Snapshot) : History :=
  snapshots.foldl record (ofCapacity capacity)

theorem ofSnapshots_concat (capacity : Nat) (snapshots : List Snapshot) (s : Snapshot) :
    ofSnapshots capacity (snapshots ++ [s]) = (ofSnapshots capacity snapshots).record s :=
  List.foldl_append

theorem capacity_ofSnapshots (capacity : Nat) (snapshots : List Snapshot) :
    (ofSnapshots capacity snapshots).capacity = max capacity 1 := by
  induction snapshots using List.reverseRecOn with
  | nil => rfl
  | append_singleton earlier last ih =>
    rw [ofSnapshots_concat]
    exact ih

theorem sampleOf_eq_after {h : History} {snapshots : List Snapshot} (s : Snapshot)
    (latest : h.latest? = (log snapshots).getLast?) : h.sampleOf s = .after snapshots s := by
  unfold sampleOf
  rw [latest]
  rcases snapshots.eq_nil_or_concat with rfl | ⟨earlier, last, rfl⟩
  · exact (after_eq [] s).symm
  · rw [List.concat_eq_append, log_concat, List.getLast?_concat, after_concat]
    rfl

theorem getLast?_drop_log (snapshots : List Snapshot) {size : Nat} (some : 0 < size) :
    ((log snapshots).drop (snapshots.length - size)).getLast? = (log snapshots).getLast? := by
  rw [List.getLast?_drop, length_log]
  split
  · rename_i dropped
    obtain rfl : snapshots = [] := List.length_eq_zero_iff.mp (by omega)
    rfl
  · rfl

theorem samples_ofSnapshots (capacity : Nat) (snapshots : List Snapshot) :
    (ofSnapshots capacity snapshots).samples =
      (log snapshots).drop (snapshots.length - max capacity 1) := by
  induction snapshots using List.reverseRecOn with
  | nil => exact List.drop_nil.symm
  | append_singleton earlier last ih =>
    have latest : (ofSnapshots capacity earlier).latest? = (log earlier).getLast? := by
      rw [latest?, ih]
      exact getLast?_drop_log earlier (by omega)
    rw [ofSnapshots_concat, record_samples, sampleOf_eq_after last latest, capacity_ofSnapshots,
      log_concat, ih, List.drop_drop, List.length_drop, length_log, List.length_append,
      List.length_singleton, List.drop_append_of_le_length (by rw [length_log]; omega)]
    congr 2
    split <;> omega

theorem ascending_ofSnapshots (capacity : Nat) (snapshots : List Snapshot) :
    ((ofSnapshots capacity snapshots).samples.map (·.time)).Pairwise (· ≤ ·) := by
  rw [samples_ofSnapshots, List.map_drop]
  exact (ascending_log snapshots).sublist (List.drop_sublist _ _)

end History

namespace Engine

variable {ε : Type}

theorem history_perform (e : Engine) (step : Step ε) :
    (e.perform step).history =
      (((e.pollEvents step).filterMap PollEvent.applied?).map (·.2)).foldl
        History.record e.history := by
  cases step with
  | resolvePoll ticket answer =>
    rw [pollEvents_resolvePoll, perform]
    cases fresh : e.scheduler.isFresh ticket with
    | false =>
      rw [resolvePoll_stale e ticket answer fresh]
      cases answer <;> rfl
    | true =>
      rw [resolvePoll_fresh e ticket answer fresh]
      cases answer <;> rfl
  | _ =>
    rw [pollEvents_of_no_answer e _ (by simp), Scheduler.applied_change]
    rfl

theorem history_run (e : Engine) (steps : List (Step ε)) :
    (e.run steps).history = ((e.applied steps).map (·.2)).foldl History.record e.history := by
  induction steps generalizing e with
  | nil => rfl
  | cons step rest ih =>
    rw [applied, pollLog, List.filterMap_append, List.map_append, List.foldl_append,
      ← history_perform]
    exact ih (e.perform step)

end Engine

namespace History

variable {ε : Type}

/-- A history is the end of the log of all snapshots, as long as it has room for and in order of
time. -/
theorem kept_is_the_end_of_the_log (capacity : Nat) (snapshots : List Snapshot)
    (options : Engine.Options) (steps : List (Engine.Step ε)) :
    let h := ofSnapshots capacity snapshots
    let size := max capacity 1
    let first := snapshots.length - size
    (∀ k : Nat, (log snapshots)[k]? = snapshots[k]?.map (Sample.after (snapshots.take k))) ∧
    h.samples = (log snapshots).drop first ∧
    h.samples.length = min snapshots.length size ∧
    (h.samples.map (·.time)).Pairwise (· ≤ ·) ∧
    h.latest? = (log snapshots).getLast? ∧
    h.oldest? = (log snapshots)[first]? ∧
    h.cpuSeries = ((log snapshots).drop first).map (·.cpu) ∧
    h.memorySeries = ((log snapshots).drop first).map (·.memory) ∧
    ((Engine.ofOptions options).run steps).history =
      ofSnapshots options.historyCapacity
        (((Engine.ofOptions options).applied steps).map (·.2)) := by
  intro h size first
  have samples : h.samples = (log snapshots).drop first := samples_ofSnapshots capacity snapshots
  have room : 0 < size := by omega
  refine ⟨getElem?_log snapshots, samples, ?_, ascending_ofSnapshots capacity snapshots, ?_, ?_,
    ?_, ?_, Engine.history_run _ steps⟩
  · rw [samples, List.length_drop, length_log]
    omega
  · rw [latest?, samples]
    exact getLast?_drop_log snapshots room
  · rw [oldest?, samples, List.head?_drop]
  · rw [cpuSeries, samples]
  · rw [memorySeries, samples]

/-- The clock has been put back before the second snapshot; the first one has been dropped, and its
time is still the latest. -/
example : (ofSnapshots 2 [⟨[], 7, by simp⟩, ⟨[], 3, by simp⟩, ⟨[], 5, by simp⟩]).samples.map
    (·.time) = [7, 7] := by
  decide

end History

end SessionMonitor
