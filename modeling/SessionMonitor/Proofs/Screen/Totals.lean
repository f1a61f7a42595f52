import SessionMonitor.Screen.Dashboard
import SessionMonitor.Proofs.Decimal.Sums
import SessionMonitor.Proofs.Engine.Coherence
import SessionMonitor.Proofs.History

/-!
# Totals on the dashboard

The loads of a snapshot are added up twice, for the card of totals and for the trends. Both sums are
the same double, and so the same text, if and only if some load is not the negative zero.
-/

namespace SessionMonitor

variable {ε : Type} {options : Engine.Options} {steps : List (Engine.Step ε)} {ticket : Ticket}
  {s : Snapshot}

/-! ### The last snapshot -/

theorem Sample.cpu_ofSnapshot (s : Snapshot) :
    (Sample.ofSnapshot s).cpu = (s.sessions.map (·.cpu)).foldl (· + ·) 0.0 :=
  List.foldl_map.symm

theorem Sample.memory_ofSnapshot (s : Snapshot) :
    (Sample.ofSnapshot s).memory = (s.sessions.map (·.memory)).foldl (· + ·) 0.0 :=
  List.foldl_map.symm

/-- A history may move the time of a sample, but not its loads. -/
theorem History.latest?_record (h : History) (s : Snapshot) : ∃ sample,
    (h.record s).latest? = some sample ∧ sample.cpu = (Sample.ofSnapshot s).cpu ∧
      sample.memory = (Sample.ofSnapshot s).memory := by
  refine ⟨h.sampleOf s, ?_, ?_⟩
  · rw [latest?, record_samples, List.getLast?_concat]
  · unfold sampleOf
    dsimp only
    split <;> exact ⟨rfl, rfl⟩

namespace Engine

theorem summary_run (last : ((ofOptions options).applied steps).getLast? = some (ticket, s)) :
    ((ofOptions options).run steps).summary = .ofSnapshot s := by
  have shown := shows_run (ofOptions options) steps
  rw [Shows, last] at shown
  exact (Prod.mk.inj shown).2

theorem latest?_run (last : ((ofOptions options).applied steps).getLast? = some (ticket, s)) :
    ∃ sample, ((ofOptions options).run steps).history.latest? = some sample ∧
      sample.cpu = (Sample.ofSnapshot s).cpu ∧ sample.memory = (Sample.ofSnapshot s).memory := by
  obtain ⟨earlier, all⟩ := List.getLast?_eq_some_iff.mp last
  rw [history_run, all, List.map_append, List.foldl_append]
  exact History.latest?_record _ s

end Engine

namespace Screen.Dashboard

def ending? (line : Line) : Option String :=
  line.getLast?.map (·.text)

theorem ending?_totalLines (summary : Summary) :
    (totalLines summary).map ending? = [none, some (Decimal.onePlace summary.totalCpu),
      some (Decimal.onePlace summary.totalMemory)] :=
  rfl

theorem ending?_trendLines {history : History} {sample : Sample}
    (latest : history.latest? = some sample) (room : Nat) :
    (trendLines history room).map ending? = [some (" " ++ Decimal.onePlace sample.cpu),
      some (" " ++ Decimal.onePlace sample.memory)] := by
  have cpu : history.cpuSeries.getLast? = some sample.cpu := by
    rw [History.cpuSeries, List.getLast?_map, ← History.latest?, latest]
    rfl
  have memory : history.memorySeries.getLast? = some sample.memory := by
    rw [History.memorySeries, List.getLast?_map, ← History.latest?, latest]
    rfl
  rw [trendLines, trendLine, trendLine, cpu, memory]
  rfl

/-- The totals of the summary are those of the last sample to the bit, and are told in the same
texts, if and only if some load is not the negative zero. -/
theorem totals_are_told_alike_iff
    (last : ((Engine.ofOptions options).applied steps).getLast? = some (ticket, s)) (room : Nat) :
    let e := (Engine.ofOptions options).run steps
    ∃ sample cpu memory latestCpu latestMemory,
      e.history.latest? = some sample ∧
      (totalLines e.summary).map ending? = [none, some cpu, some memory] ∧
      (trendLines e.history room).map ending? =
        [some (" " ++ latestCpu), some (" " ++ latestMemory)] ∧
      (e.summary.totalCpu = sample.cpu ↔ ∃ p ∈ s.sessions, p.cpu ≠ -0.0) ∧
      (cpu = latestCpu ↔ ∃ p ∈ s.sessions, p.cpu ≠ -0.0) ∧
      (e.summary.totalMemory = sample.memory ↔ ∃ p ∈ s.sessions, p.memory ≠ -0.0) ∧
      (memory = latestMemory ↔ ∃ p ∈ s.sessions, p.memory ≠ -0.0) := by
  intro e
  obtain ⟨sample, latest, cpu, memory⟩ := Engine.latest?_run last
  have summary : e.summary = .ofSnapshot s := Engine.summary_run last
  have load (f : Session → Float) :
      (∃ x ∈ s.sessions.map f, x ≠ -0.0) ↔ ∃ p ∈ s.sessions, f p ≠ -0.0 := by
    simp
  refine ⟨sample, _, _, _, _, latest, ending?_totalLines _, ending?_trendLines latest room, ?_⟩
  rw [summary, cpu, memory, Sample.cpu_ofSnapshot, Sample.memory_ofSnapshot, ← load, ← load]
  exact ⟨Decimal.sum_eq_foldl_add_iff, Decimal.onePlace_sum_eq_iff, Decimal.sum_eq_foldl_add_iff,
    Decimal.onePlace_sum_eq_iff⟩

/-- A server without sessions. -/
theorem nothing_is_told_in_two_ways :
    let e := Engine.ofOptions {}
    let steps : List (Engine.Step Unit) :=
      [.requestRefresh, .resolvePoll e.requestRefresh.1 (.ok .empty)]
    (e.applied steps).getLast? = some (e.requestRefresh.1, .empty) ∧
      (∃ sample, (e.run steps).history.latest? = some sample ∧
        (e.run steps).summary.totalCpu ≠ sample.cpu) ∧
      (totalLines (e.run steps).summary).map ending? = [none, some "-0.0", some "-0.0"] ∧
      (trendLines (e.run steps).history 60).map ending? = [some " 0.0", some " 0.0"] := by
  intro e steps
  have last : (e.applied steps).getLast? = some (e.requestRefresh.1, .empty) := rfl
  obtain ⟨sample, _, _, _, _, latest, -, -, same, -⟩ := totals_are_told_alike_iff last 60
  refine ⟨last, ⟨sample, latest, fun equal => ?_⟩, by decide +kernel, by decide +kernel⟩
  obtain ⟨_, none, -⟩ := same.mp equal
  cases none

end Screen.Dashboard

end SessionMonitor
