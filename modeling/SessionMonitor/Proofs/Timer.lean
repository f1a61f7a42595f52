import SessionMonitor.Timer

/-!
# The schedule of the poll timer

A timer that is woken on time ticks at whole numbers of periods after each start that finds it
stopped, up to the next stop, and at no other time.
-/

namespace SessionMonitor.Timer

inductive Command where
  | start
  | stop
deriving DecidableEq, Repr

def obey (t : Timer) (now : Nat) : Command → Timer
  | .start => t.start now
  | .stop => t.stop

/-- The runs of a timer from `now` to `finish`, with its commands and its ticks. It may wake at any
time, and does so at the latest when a tick is due. -/
inductive Runs (finish : Nat) : Nat → Timer → List (Nat × Command) → List Nat → Prop where
  | ends {now : Nat} {t : Timer} (later : now ≤ finish) (punctual : ∀ due ∈ t.due, finish ≤ due) :
    Runs finish now t [] []
  | told {now time : Nat} {t : Timer} {command : Command} {commands : List (Nat × Command)}
    {ticks : List Nat} (later : now ≤ time) (punctual : ∀ due ∈ t.due, time ≤ due)
    (rest : Runs finish time (t.obey time command) commands ticks) :
    Runs finish now t ((time, command) :: commands) ticks
  | woken {now time : Nat} {t : Timer} {commands : List (Nat × Command)} {ticks : List Nat}
    (later : now ≤ time) (punctual : ∀ due ∈ t.due, time ≤ due)
    (rest : Runs finish time (t.wake time).2 commands ticks) :
    Runs finish now t commands (if (t.wake time).1 then time :: ticks else ticks)

/-! ### The schedule -/

/-- Whether a timer is started after some commands. The last one decides, and `before` if there is
none. -/
def startedAfter (before : Bool) (commands : List (Nat × Command)) : Bool :=
  commands.foldl (fun _ command => command.2 = .start) before

/-- A start at the time `s` that finds the timer stopped, with the commands after it. -/
def StartsAt (before : Bool) (commands : List (Nat × Command)) (s : Nat)
    (after : List (Nat × Command)) : Prop :=
  ∃ earlier, commands = earlier ++ (s, .start) :: after ∧ startedAfter before earlier = false

def stop? (commands : List (Nat × Command)) : Option Nat :=
  (commands.find? (·.2 = .stop)).map (·.1)

variable {finish now time u s : Nat} {t : Timer} {command : Command} {before : Bool}
  {commands after : List (Nat × Command)} {ticks : List Nat}

theorem not_startsAt_nil : ¬StartsAt before [] s after := by
  rintro ⟨earlier, same, -⟩
  simp at same

theorem startsAt_cons_iff : StartsAt before ((time, command) :: commands) s after ↔
    (before = false ∧ command = .start ∧ s = time ∧ after = commands) ∨
      StartsAt (command = .start) commands s after := by
  constructor
  · rintro ⟨earlier, same, stopped⟩
    cases earlier with
    | nil =>
      obtain ⟨⟨rfl, rfl⟩, rfl⟩ : (time = s ∧ command = .start) ∧ commands = after := by
        simpa using same
      exact .inl ⟨stopped, rfl, rfl, rfl⟩
    | cons first earlier =>
      obtain ⟨rfl, rfl⟩ := List.cons.inj same
      exact .inr ⟨earlier, rfl, stopped⟩
  · rintro (⟨rfl, rfl, rfl, rfl⟩ | ⟨earlier, rfl, stopped⟩)
    · exact ⟨[], rfl, rfl⟩
    · exact ⟨(time, command) :: earlier, rfl, stopped⟩

theorem StartsAt.cons (starts : StartsAt (command = .start) commands s after) :
    StartsAt before ((time, command) :: commands) s after :=
  startsAt_cons_iff.mpr (.inr starts)

theorem StartsAt.mem (starts : StartsAt before commands s after) : (s, .start) ∈ commands := by
  obtain ⟨earlier, rfl, -⟩ := starts
  simp

@[simp] theorem stop?_start : stop? ((time, .start) :: commands) = stop? commands := rfl

@[simp] theorem stop?_stop : stop? ((time, .stop) :: commands) = some time := rfl

theorem mem_of_stop? (found : stop? commands = some time) : (time, .stop) ∈ commands := by
  obtain ⟨⟨first, command⟩, first_stop, rfl⟩ := Option.map_eq_some_iff.mp found
  obtain rfl : command = .stop := by simpa using List.find?_some first_stop
  exact List.mem_of_find?_eq_some first_stop

/-! ### Runs -/

/-- A timer that is woken in time ticks if and only if a tick is due at that very time. -/
theorem wake_punctual {due : Nat} (running : t.due = some due) (punctual : time ≤ due) :
    t.wake time =
      if time = due then (true, { t with due := some (due + t.period) }) else (false, t) := by
  rw [wake, running]
  dsimp only
  rcases Nat.lt_or_eq_of_le punctual with early | rfl
  · rw [if_pos early, if_neg (Nat.ne_of_lt early)]
  · rw [if_neg (Nat.lt_irrefl time), if_neg (by omega), if_pos rfl]

/-- Induction on a run, by what a step comes to. -/
@[elab_as_elim]
theorem Runs.by_steps
    {motive : (now : Nat) → (t : Timer) → (commands : List (Nat × Command)) →
      (ticks : List Nat) → Runs finish now t commands ticks → Prop}
    (ends : ∀ {now t} {run}, now ≤ finish → (∀ due ∈ t.due, finish ≤ due) → motive now t [] [] run)
    (started : ∀ {now time t commands ticks} {run rest}, now ≤ time → t.due = none →
      motive time { t with due := some (time + t.period) } commands ticks rest →
      motive now t ((time, .start) :: commands) ticks run)
    (unmoved : ∀ {now time t commands ticks} {run rest}, now ≤ time → t.due.isSome = true →
      motive time t commands ticks rest → motive now t ((time, .start) :: commands) ticks run)
    (stopped : ∀ {now time t commands ticks} {run rest}, now ≤ time → (∀ due ∈ t.due, time ≤ due) →
      motive time { t with due := none } commands ticks rest →
      motive now t ((time, .stop) :: commands) ticks run)
    (slept : ∀ {now time t commands ticks} {run rest}, now ≤ time →
      motive time t commands ticks rest → motive now t commands ticks run)
    (ticked : ∀ {now time t commands ticks} {run rest}, now ≤ time → t.due = some time →
      motive time { t with due := some (time + t.period) } commands ticks rest →
      motive now t commands (time :: ticks) run)
    (run : Runs finish now t commands ticks) : motive now t commands ticks run := by
  induction run with
  | ends later punctual => exact ends later punctual
  | @told now time t command commands ticks later punctual rest ih =>
    have run := Runs.told later punctual rest
    cases command with
    | stop => exact stopped later punctual ih
    | start =>
      cases running : t.due with
      | none =>
        simp only [obey, start, running] at rest ih
        exact started later running ih
      | some due =>
        simp only [obey, start, running] at rest ih
        exact unmoved later (by rw [running]; rfl) ih
  | @woken now time t commands ticks later punctual rest ih =>
    have run := Runs.woken later punctual rest
    cases running : t.due with
    | none =>
      simp only [wake, running] at rest ih run ⊢
      exact slept later ih
    | some due =>
      have woken := wake_punctual running (punctual due running)
      split at woken
      · rename_i here
        subst here
        simp only [woken] at rest ih run ⊢
        exact ticked later running ih
      · simp only [woken] at rest ih run ⊢
        exact slept later ih

theorem Runs.later (run : Runs finish now t commands ticks) :
    now ≤ finish ∧ ∀ command ∈ commands, now ≤ command.1 := by
  induction run using Runs.by_steps with
  | ends later => exact ⟨later, nofun⟩
  | started later _ ih | unmoved later _ ih | stopped later _ ih =>
    refine ⟨Nat.le_trans later ih.1, List.forall_mem_cons.mpr ⟨later, fun command member => ?_⟩⟩
    exact Nat.le_trans later (ih.2 command member)
  | slept later ih | ticked later _ ih =>
    exact ⟨Nat.le_trans later ih.1, fun command member => Nat.le_trans later (ih.2 command member)⟩

/-! ### Ticks -/

/-- The times `u` whole periods after the next tick that is due, or after a start that finds the
timer stopped, with the next stop from then on. -/
def OnSchedule (t : Timer) (commands : List (Nat × Command)) (u : Nat) (stop : Option Nat) : Prop :=
  (∃ due ∈ t.due, ∃ k, u = due + k * t.period ∧ stop = stop? commands) ∨
    ∃ s after k, StartsAt t.due.isSome commands s after ∧ 1 ≤ k ∧ u = s + k * t.period ∧
      stop = stop? after

variable {stop : Option Nat}

theorem exists_periods_iff {p : Prop} {first period : Nat} :
    (∃ k, 1 ≤ k ∧ u = first + k * period ∧ p) ↔ ∃ k, u = first + period + k * period ∧ p := by
  constructor
  · rintro ⟨k, one, rfl, also⟩
    obtain ⟨k, rfl⟩ := Nat.exists_eq_add_of_le' one
    exact ⟨k, by rw [Nat.succ_mul]; omega, also⟩
  · rintro ⟨k, rfl, also⟩
    exact ⟨k + 1, Nat.le_add_left 1 k, by rw [Nat.succ_mul]; omega, also⟩

/-- A start that finds the timer stopped makes the first tick due after a period. -/
theorem onSchedule_started (stopped : t.due = none) :
    OnSchedule t ((time, .start) :: commands) u stop ↔
      OnSchedule { t with due := some (time + t.period) } commands u stop := by
  have first : (∃ s after k, (s = time ∧ after = commands) ∧ 1 ≤ k ∧ u = s + k * t.period ∧
      stop = stop? after) ↔ ∃ k, u = time + t.period + k * t.period ∧ stop = stop? commands := by
    rw [← exists_periods_iff]
    constructor
    · rintro ⟨_, _, k, ⟨rfl, rfl⟩, same⟩
      exact ⟨k, same⟩
    · rintro ⟨k, same⟩
      exact ⟨time, commands, k, ⟨rfl, rfl⟩, same⟩
  unfold OnSchedule
  simp only [stopped, startsAt_cons_iff, Option.isSome_none, Option.isSome_some, true_and,
    decide_true, or_and_right, exists_or, first]
  simp

theorem onSchedule_unmoved (running : t.due.isSome = true) :
    OnSchedule t ((time, .start) :: commands) u stop ↔ OnSchedule t commands u stop := by
  simp [OnSchedule, startsAt_cons_iff, running]

theorem onSchedule_stopped :
    OnSchedule t ((time, .stop) :: commands) u stop ↔
      (∃ due ∈ t.due, ∃ k, u = due + k * t.period ∧ stop = some time) ∨
        OnSchedule { t with due := none } commands u stop := by
  simp [OnSchedule, startsAt_cons_iff]

theorem onSchedule_ticked (due : t.due = some time) :
    OnSchedule t commands u stop ↔ u = time ∧ stop = stop? commands ∨
      OnSchedule { t with due := some (time + t.period) } commands u stop := by
  have first : (∃ k, u = time + k * t.period ∧ stop = stop? commands) ↔
      u = time ∧ stop = stop? commands ∨
        ∃ k, u = time + t.period + k * t.period ∧ stop = stop? commands := by
    rw [← exists_periods_iff]
    constructor
    · rintro ⟨_ | k, same, stops⟩
      · exact .inl ⟨by simpa using same, stops⟩
      · exact .inr ⟨k + 1, Nat.le_add_left 1 k, same, stops⟩
    · rintro (⟨rfl, stops⟩ | ⟨k, -, same, stops⟩)
      · exact ⟨0, by simp, stops⟩
      · exact ⟨k, same, stops⟩
  unfold OnSchedule
  simp only [due, Option.mem_some_iff, exists_eq_left', first, or_assoc, Option.isSome_some]

theorem le_of_mem_stop? (run : Runs finish now t commands ticks) :
    ∀ stop ∈ stop? commands, now ≤ stop :=
  fun _ found => run.later.2 _ (mem_of_stop? found)

theorem Runs.of_mem (run : Runs finish now t commands ticks) (ticked : u ∈ ticks) :
    u ≤ finish ∧ ∃ stop, OnSchedule t commands u stop ∧ ∀ time ∈ stop, u ≤ time := by
  induction run using Runs.by_steps with
  | ends => cases ticked
  | started _ stopped ih =>
    obtain ⟨bound, stop, scheduled, early⟩ := ih ticked
    exact ⟨bound, stop, (onSchedule_started stopped).mpr scheduled, early⟩
  | unmoved _ running ih =>
    obtain ⟨bound, stop, scheduled, early⟩ := ih ticked
    exact ⟨bound, stop, (onSchedule_unmoved running).mpr scheduled, early⟩
  | stopped _ _ ih =>
    obtain ⟨bound, stop, scheduled, early⟩ := ih ticked
    exact ⟨bound, stop, onSchedule_stopped.mpr (.inr scheduled), early⟩
  | slept _ ih => exact ih ticked
  | @ticked _ time _ commands _ run rest later due ih =>
    rcases List.mem_cons.mp ticked with rfl | ticked
    · exact ⟨rest.later.1, _, (onSchedule_ticked due).mpr (.inl ⟨rfl, rfl⟩), le_of_mem_stop? rest⟩
    · obtain ⟨bound, stop, scheduled, early⟩ := ih ticked
      exact ⟨bound, stop, (onSchedule_ticked due).mpr (.inr scheduled), early⟩

theorem Runs.mem (run : Runs finish now t commands ticks) (scheduled : OnSchedule t commands u stop)
    (inTime : u < finish) (early : ∀ time ∈ stop, u < time) : u ∈ ticks := by
  induction run using Runs.by_steps with
  | ends _ punctual =>
    rcases scheduled with ⟨due, next, k, rfl, -⟩ | ⟨s, after, k, starts, -⟩
    · have := punctual due next
      omega
    · exact absurd starts not_startsAt_nil
  | started _ stopped ih => exact ih ((onSchedule_started stopped).mp scheduled)
  | unmoved _ running ih => exact ih ((onSchedule_unmoved running).mp scheduled)
  | stopped _ punctual ih =>
    rcases onSchedule_stopped.mp scheduled with ⟨due, next, k, rfl, rfl⟩ | scheduled
    · have := punctual due next
      have := early _ rfl
      omega
    · exact ih scheduled
  | slept _ ih => exact ih scheduled
  | ticked _ due ih =>
    rcases (onSchedule_ticked due).mp scheduled with ⟨rfl, -⟩ | scheduled
    · exact List.mem_cons_self
    · exact List.mem_cons_of_mem _ (ih scheduled)

theorem OnSchedule.lt (scheduled : OnSchedule t commands u stop) (positive : 0 < t.period)
    (next : ∀ due ∈ t.due, now < due) (later : ∀ command ∈ commands, now ≤ command.1) :
    now < u := by
  rcases scheduled with ⟨due, found, k, rfl, -⟩ | ⟨s, after, k, starts, one, rfl, -⟩
  · exact Nat.lt_add_right _ (next due found)
  · have begun := later _ starts.mem
    have passed : 0 < k * t.period := Nat.mul_pos one positive
    dsimp only at begun
    omega

theorem Runs.ascending (run : Runs finish now t commands ticks) (positive : 0 < t.period) :
    ticks.Pairwise (· < ·) := by
  induction run using Runs.by_steps with
  | ends => exact .nil
  | started _ _ ih | unmoved _ _ ih | stopped _ _ ih | slept _ ih => exact ih positive
  | @ticked _ time _ _ _ _ rest _ _ ih =>
    refine List.pairwise_cons.mpr ⟨fun u ticked => ?_, ih positive⟩
    obtain ⟨-, stop, scheduled, -⟩ := rest.of_mem ticked
    refine scheduled.lt positive ?_ rest.later.2
    rintro due ⟨⟩
    exact Nat.lt_add_of_pos_right positive

/-! ### Whatever the commands, there is a run -/

theorem Runs.tick {due : Nat} (running : t.due = some due) (later : now ≤ due)
    (rest : Runs finish due { t with due := some (due + t.period) } commands ticks) :
    Runs finish now t commands (due :: ticks) := by
  have woken := wake_punctual running (Nat.le_refl due)
  rw [if_pos rfl] at woken
  have run : Runs finish now t commands
      (if (t.wake due).1 then due :: ticks else ticks) := by
    refine .woken later ?_ ?_
    · rw [running]
      rintro _ ⟨⟩
      exact Nat.le_refl due
    · rwa [woken]
  rwa [woken] at run

/-- A timer whose task wakes whenever a tick is due can be brought to any later time. -/
theorem exists_caught_up (positive : 0 < t.period) (later : now ≤ time)
    (next : ∀ due ∈ t.due, now ≤ due) :
    ∃ moment reached, moment ≤ time ∧ reached.period = t.period ∧
      (∀ due ∈ reached.due, time ≤ due) ∧
      ∀ commands ticks, Runs finish moment reached commands ticks →
        ∃ ticks, Runs finish now t commands ticks := by
  cases running : t.due with
  | none => exact ⟨now, t, later, rfl, by simp [running], fun _ ticks run => ⟨ticks, run⟩⟩
  | some due =>
    -- Each tick brings the next due time, and so the end, nearer.
    induction missing : time - due using Nat.strongRecOn generalizing now t due with
    | ind missing ih =>
      by_cases enough : time ≤ due
      · refine ⟨now, t, later, rfl, ?_, fun _ ticks run => ⟨ticks, run⟩⟩
        rw [running]
        rintro _ ⟨⟩
        exact enough
      · have soon := next due running
        obtain ⟨moment, reached, before, same, ready, run⟩ :=
          ih (time - (due + t.period)) (by omega) (t := { t with due := some (due + t.period) })
            positive (Nat.le_of_not_le enough)
            (by rintro _ ⟨⟩; exact Nat.le_add_right _ _) (due + t.period) rfl rfl
        refine ⟨moment, reached, before, same, ready, fun commands ticks rest => ?_⟩
        obtain ⟨ticks, rest⟩ := run commands ticks rest
        exact ⟨due :: ticks, .tick running soon rest⟩

theorem obey_kept (command : Command) (punctual : ∀ due ∈ t.due, time ≤ due) :
    (t.obey time command).period = t.period ∧ ∀ due ∈ (t.obey time command).due, time ≤ due := by
  cases command with
  | stop => exact ⟨rfl, nofun⟩
  | start =>
    cases running : t.due with
    | none => simp [obey, start, running]
    | some due => simpa [obey, start, running] using punctual due running

theorem exists_run (positive : 0 < t.period) (next : ∀ due ∈ t.due, now ≤ due)
    (ordered : commands.Pairwise (·.1 ≤ ·.1)) (later : ∀ command ∈ commands, now ≤ command.1)
    (inTime : ∀ command ∈ commands, command.1 ≤ finish) (start : now ≤ finish) :
    ∃ ticks, Runs finish now t commands ticks := by
  induction commands generalizing now t with
  | nil =>
    obtain ⟨moment, reached, before, -, ready, run⟩ := exists_caught_up positive start next
    exact run _ _ (.ends before ready)
  | cons first rest ih =>
    obtain ⟨time, command⟩ := first
    obtain ⟨above, ordered⟩ := List.pairwise_cons.mp ordered
    obtain ⟨first, later⟩ := List.forall_mem_cons.mp later
    obtain ⟨bound, inTime⟩ := List.forall_mem_cons.mp inTime
    obtain ⟨moment, reached, before, same, ready, run⟩ := exists_caught_up positive first next
    obtain ⟨period, due⟩ := obey_kept command ready
    obtain ⟨ticks, rest⟩ := ih (by rwa [period, same]) due ordered above inTime bound
    exact run _ _ (.told before ready rest)

/-- A timer ticks at whole periods after each start that finds it stopped, up to the next stop, and
at no other time. -/
theorem ticks_follow_the_starts {period : Nat} (positive : 0 < period)
    (commands : List (Nat × Command)) (finish : Nat) :
    (commands.Pairwise (·.1 ≤ ·.1) → (∀ command ∈ commands, command.1 ≤ finish) →
      ∃ ticks, Runs finish 0 (ofPeriod period) commands ticks) ∧
    ∀ ticks, Runs finish 0 (ofPeriod period) commands ticks →
      ticks.Pairwise (· < ·) ∧
      (∀ u ∈ ticks, u ≤ finish ∧ ∃ s after k, StartsAt false commands s after ∧ 1 ≤ k ∧
        u = s + k * period ∧ ∀ stop ∈ stop? after, u ≤ stop) ∧
      ∀ s after k, StartsAt false commands s after → 1 ≤ k → s + k * period < finish →
        (∀ stop ∈ stop? after, s + k * period < stop) → s + k * period ∈ ticks := by
  refine ⟨fun ordered inTime => ?_,
    fun ticks run => ⟨run.ascending positive, fun u ticked => ?_, ?_⟩⟩
  · exact exists_run positive nofun ordered (fun _ _ => Nat.zero_le _) inTime (Nat.zero_le _)
  · obtain ⟨bound, stop, ⟨due, ⟨⟩, -⟩ | ⟨s, after, k, starts, one, same, rfl⟩, early⟩ :=
      run.of_mem ticked
    exact ⟨bound, s, after, k, starts, one, same, early⟩
  · intro s after k starts one inTime early
    exact run.mem (.inr ⟨s, after, k, starts, one, rfl, rfl⟩) inTime early

/-- A second start moves nothing, and a start after a stop begins a full period. -/
theorem restarted_ticks :
    0 < 5 ∧ ∃ ticks, Runs 20 0 (ofPeriod 5)
      [(2, .start), (4, .start), (13, .stop), (14, .start)] ticks ∧
      7 ∈ ticks ∧ 12 ∈ ticks ∧ 19 ∈ ticks ∧ 9 ∉ ticks ∧ 17 ∉ ticks := by
  have positive : 0 < 5 := by decide
  obtain ⟨progress, schedule⟩ := ticks_follow_the_starts positive
    [(2, .start), (4, .start), (13, .stop), (14, .start)] 20
  obtain ⟨ticks, run⟩ := progress (by decide) (by decide)
  obtain ⟨-, only, each⟩ := schedule ticks run
  have first : StartsAt false [(2, .start), (4, .start), (13, .stop), (14, .start)] 2
      [(4, .start), (13, .stop), (14, .start)] := ⟨[], rfl, rfl⟩
  have second : StartsAt false [(2, .start), (4, .start), (13, .stop), (14, .start)] 14 [] :=
    ⟨[(2, .start), (4, .start), (13, .stop)], rfl, rfl⟩
  have starts : ∀ {s after}, StartsAt false [(2, .start), (4, .start), (13, .stop), (14, .start)]
      s after → s = 2 ∧ stop? after = some 13 ∨ s = 14 := by
    intro s after starts
    simp only [startsAt_cons_iff, not_startsAt_nil] at starts
    rcases starts with ⟨-, -, rfl, rfl⟩ | ⟨⟨⟩, -⟩ | ⟨-, ⟨⟩, -⟩ | ⟨-, -, rfl, -⟩ | starts
    · exact .inl ⟨rfl, rfl⟩
    · exact .inr rfl
    · exact starts.elim
  refine ⟨positive, ticks, run, each 2 _ 1 first ?_ ?_ ?_, each 2 _ 2 first ?_ ?_ ?_,
    each 14 _ 1 second ?_ ?_ ?_, fun ticked => ?_, fun ticked => ?_⟩
  any_goals decide
  · obtain ⟨-, s, after, k, begun, one, same, early⟩ := only 9 ticked
    rcases starts begun with ⟨rfl, -⟩ | rfl <;> omega
  · obtain ⟨-, s, after, k, begun, one, same, early⟩ := only 17 ticked
    rcases starts begun with ⟨rfl, stopped⟩ | rfl
    · have := early 13 stopped
      omega
    · omega

end SessionMonitor.Timer
