import Mathlib.Logic.Relation
import SessionMonitor.Monitor
import SessionMonitor.Proofs.Settings.BaseUrl

/-!
# Settings on a machine

The numbers in the settings are held against zero only, but the clock and the memory of a machine
have an end. What has to stay within them is the room for the samples of the history, once, and the
time of the first tick, whenever the timer is started.
-/

namespace SessionMonitor

/-! ### What a run does with the timer -/

namespace Timer

theorem period_wake (t : Timer) (now : Nat) : (t.wake now).2.period = t.period := by
  unfold wake
  split
  · rfl
  · split <;> rfl

theorem wake_of_stopped {t : Timer} (stopped : t.due = none) (now : Nat) :
    t.wake now = (false, t) := by
  rw [wake, stopped]

end Timer

namespace Monitor

variable {r r' r'' : Monitor}

/-- From `r` to `r'` no time passes, and if the timer has been started, it was at that time. -/
structure Obeys (r r' : Monitor) : Prop where
  clock : r'.clock = r.clock
  period : r'.timer.period = r.timer.period
  due : ∀ due ∈ r'.timer.due, due ∈ r.timer.due ∨ due = r.clock + r.timer.period

theorem Obeys.of_eq (clock : r'.clock = r.clock) (timer : r'.timer = r.timer) : Obeys r r' :=
  ⟨clock, by rw [timer], fun due next => .inl (timer ▸ next)⟩

theorem Obeys.trans (first : Obeys r r') (second : Obeys r' r'') : Obeys r r'' := by
  refine ⟨second.clock.trans first.clock, second.period.trans first.period, fun due next => ?_⟩
  rcases second.due due next with old | started
  · exact first.due due old
  · exact .inr (by rw [started, first.clock, first.period])

theorem obeys_apply (r : Monitor) (effect : Effect) : Obeys r (r.apply effect) := by
  unfold apply
  split
  · exact .of_eq rfl rfl
  · cases effect with
    | send | cancelDetail => exact .of_eq rfl rfl
    | stopTimer => exact ⟨rfl, rfl, nofun⟩
    | startTimer =>
      cases next : r.timer.due with
      | some due => exact .of_eq rfl (by simp only [Timer.start, next])
      | none =>
        simp only [Timer.start, next]
        exact ⟨rfl, rfl, fun due started => .inr (Option.some.inj started).symm⟩

theorem obeys_foldl (effects : List Effect) (r : Monitor) : Obeys r (effects.foldl apply r) := by
  induction effects generalizing r with
  | nil => exact .of_eq rfl rfl
  | cons effect rest ih => exact (r.obeys_apply effect).trans (ih _)

theorem obeys_continueWith (r : Monitor) (step : Controller × List Effect) :
    Obeys r (r.continueWith step) :=
  have decided : Obeys r { r with controller := step.1 } := .of_eq rfl rfl
  decided.trans (obeys_foldl step.2 _)

theorem obeys_deliver (r : Monitor) (now : Timestamp) (event : Event) :
    Obeys r (r.deliver now event) :=
  (r.obeys_continueWith _).trans (.of_eq rfl rfl)

theorem obeys_arrive (r : Monitor) (now : Timestamp) (event : Event) :
    Obeys r (r.arrive now event) :=
  (r.obeys_deliver now event).trans (.of_eq rfl rfl)

/-- What can happen to a monitor that has been started. -/
inductive Step (r : Monitor) : Monitor → Prop where
  | deliver (now : Timestamp) (event : Event) : Step r (r.deliver now event)
  | advance (now : Timestamp) (milliseconds : Nat) : Step r (r.advance now milliseconds)
  | respond (now : Timestamp) (number : Nat) (outcome : Except Failure (List UInt8))
    (capturedAt : Timestamp) : Step r (r.respond now number outcome capturedAt).2
  | shutdown : Step r r.shutdown

/-- Time passes and the timer may look at the clock. Then the controller is at work. -/
theorem Step.exists_before (step : Step r r') :
    ∃ before, (before.timer = r.timer ∨ before.timer = (r.timer.wake before.clock).2) ∧
      Obeys before r' := by
  cases step with
  | deliver now event => exact ⟨r, .inl rfl, r.obeys_deliver now event⟩
  | shutdown => exact ⟨r, .inl rfl, rfl, rfl, nofun⟩
  | advance now milliseconds =>
    let clock := r.clock + milliseconds
    let woken : Monitor := { r with clock := clock, timer := (r.timer.wake clock).2 }
    refine ⟨woken, .inr rfl, ?_⟩
    change Obeys woken (if (r.timer.wake clock).1 then woken.arrive now .pollTick else woken)
    split
    · exact woken.obeys_arrive now .pollTick
    · exact .of_eq rfl rfl
  | respond now number outcome capturedAt =>
    unfold Monitor.respond
    split
    · rename_i request _
      let asked : Monitor := { r with calls := r.calls.set number ⟨request, false⟩ }
      exact ⟨asked, .inl rfl, asked.obeys_arrive now _⟩
    · exact ⟨r, .inl rfl, .of_eq rfl rfl⟩

theorem Step.period (step : Step r r') : r'.timer.period = r.timer.period := by
  obtain ⟨before, same | woken, obeys⟩ := step.exists_before
  · rw [obeys.period, same]
  · rw [obeys.period, woken, Timer.period_wake]

theorem Step.due (step : Step r r') (stopped : r.timer.due = none) :
    ∀ due ∈ r'.timer.due, due = r'.clock + r'.timer.period := by
  intro due next
  obtain ⟨before, timer, obeys⟩ := step.exists_before
  have same : before.timer = r.timer := by
    rcases timer with same | woken
    · exact same
    · rw [woken, Timer.wake_of_stopped stopped]
  rcases obeys.due due next with old | started
  · rw [same, stopped] at old
    cases old
  · rw [started, obeys.clock, obeys.period]

theorem period_of_steps (steps : Relation.ReflTransGen Step r r') :
    r'.timer.period = r.timer.period := by
  induction steps with
  | refl => rfl
  | tail _ step ih => exact step.period.trans ih

theorem timer_start (options : Engine.Options) (paused : Bool) :
    ((ofOptions options).start paused).timer =
      ⟨options.pollInterval, if paused then none else some options.pollInterval⟩ := by
  cases paused with
  | true => rfl
  | false =>
    change Timer.mk options.pollInterval (some (0 + options.pollInterval)) = _
    rw [Nat.zero_add]
    rfl

theorem history_start (options : Engine.Options) (paused : Bool) :
    ((ofOptions options).start paused).controller.console.engine.history =
      .ofCapacity options.historyCapacity := by
  cases paused <;> rfl

end Monitor

/-! ### Machines -/

/-- A machine whose words have 64 bits, one of them for the sign. -/
structure Machine where
  /-- What the clock of the machine shows when the monitor starts, in milliseconds. -/
  startedAt : Nat
  /-- The bytes that a sample takes. -/
  sampleSize : Nat
  sampleSize_gt : 1 < sampleSize

namespace Machine

/-- A machine that has just been switched on, with a time and two doubles in a sample. -/
def booted : Machine where
  startedAt := 0
  sampleSize := 32
  sampleSize_gt := by decide

def largest : Nat := Nat.pow 2 63 - 1

/-- A time since the start, in milliseconds, is one that the clock can show: its seconds are a
word. -/
def Shows (m : Machine) (time : Nat) : Prop :=
  (m.startedAt + time) / 1000 ≤ largest

def Holds (m : Machine) (h : History) : Prop :=
  h.capacity * m.sampleSize ≤ largest

/-- The machine can do what a monitor asks for. -/
structure Carries (m : Machine) (r : Monitor) : Prop where
  period : 0 < r.timer.period
  due : ∀ due ∈ r.timer.due, m.Shows due
  history : m.Holds r.controller.console.engine.history

theorem shows_seconds_iff (m : Machine) (seconds time : Nat) :
    m.Shows (time + 1000 * seconds) ↔ (m.startedAt + time) / 1000 + seconds ≤ largest := by
  rw [Shows, ← Nat.add_assoc, Nat.add_mul_div_left _ _ (by decide)]

end Machine

namespace Settings

variable {s : Settings}

theorem positive_of_accepted (accepted : s.fault? = none) :
    0 < s.pollInterval.toNat ∧ 0 < s.historyCapacity.toNat := by
  obtain ⟨interval, capacity, -⟩ := fault?_eq_none_iff.mp accepted
  exact ⟨UInt64.lt_iff_toNat_lt.mp (UInt64.pos_iff_ne_zero.mpr interval),
    UInt64.lt_iff_toNat_lt.mp (UInt64.pos_iff_ne_zero.mpr capacity)⟩

theorem holds_start_iff (accepted : s.fault? = none) (m : Machine) (paused : Bool) :
    m.Holds ((Monitor.ofOptions s.engineOptions).start paused).controller.console.engine.history ↔
      s.historyCapacity.toNat * m.sampleSize ≤ Machine.largest := by
  rw [Monitor.history_start]
  change max s.historyCapacity.toNat 1 * m.sampleSize ≤ Machine.largest ↔ _
  rw [Nat.max_eq_left (positive_of_accepted accepted).2]

theorem shows_start_iff (s : Settings) (m : Machine) (paused : Bool) :
    (∀ due ∈ ((Monitor.ofOptions s.engineOptions).start paused).timer.due, m.Shows due) ↔
      (paused = false → m.startedAt / 1000 + s.pollInterval.toNat ≤ Machine.largest) := by
  rw [Monitor.timer_start]
  cases paused with
  | true => exact ⟨nofun, nofun⟩
  | false =>
    have first : m.Shows (1000 * s.pollInterval.toNat) ↔ _ :=
      Nat.zero_add (1000 * s.pollInterval.toNat) ▸ m.shows_seconds_iff s.pollInterval.toNat 0
    exact ⟨fun shown _ => first.mp (shown _ rfl),
      fun early due next => Option.some.inj next ▸ first.mpr (early rfl)⟩

/-- A machine can start with accepted settings if and only if its memory has room for the history
and its clock shows the first tick. -/
theorem accepted_settings_fit_iff (accepted : s.fault? = none) (m : Machine) (paused : Bool) :
    let launched := (Monitor.ofOptions s.engineOptions).start paused
    (m.Carries launched ↔ s.historyCapacity.toNat * m.sampleSize ≤ Machine.largest ∧
      (paused = false → m.startedAt / 1000 + s.pollInterval.toNat ≤ Machine.largest)) ∧
    ∀ r r', Relation.ReflTransGen Monitor.Step launched r → Monitor.Step r r' →
      0 < r'.timer.period ∧ (r.timer.due = none → ∀ due ∈ r'.timer.due,
        (m.Shows due ↔
          (m.startedAt + r'.clock) / 1000 + s.pollInterval.toNat ≤ Machine.largest)) := by
  intro launched
  have period : launched.timer.period = 1000 * s.pollInterval.toNat :=
    congrArg Timer.period (Monitor.timer_start s.engineOptions paused)
  have positive : 0 < 1000 * s.pollInterval.toNat :=
    Nat.mul_pos (by decide) (positive_of_accepted accepted).1
  refine ⟨?_, fun r r' steps step => ?_⟩
  · rw [← holds_start_iff accepted m paused, ← shows_start_iff s m paused]
    exact ⟨fun carries => ⟨carries.history, carries.due⟩,
      fun ⟨history, due⟩ => ⟨period ▸ positive, due, history⟩⟩
  · have same : r'.timer.period = 1000 * s.pollInterval.toNat :=
      (step.period.trans (Monitor.period_of_steps steps)).trans period
    refine ⟨same ▸ positive, fun stopped due next => ?_⟩
    rw [step.due stopped due next, same]
    exact m.shows_seconds_iff _ _

/-- The largest numbers that the command line and a document take are too large for any machine, and
what is set by default fits. -/
theorem largest_numbers_do_not_fit :
    let slow : Settings := { pollInterval := 18446744073709551615 }
    let long : Settings := { historyCapacity := 9223372036854775807 }
    ({} : Settings).replaced { pollInterval := some 18446744073709551615 } = .ok slow ∧
    ofText "history_capacity = 9223372036854775807" = .ok long ∧
    (∀ m : Machine, ¬m.Carries ((Monitor.ofOptions slow.engineOptions).start false) ∧
      ¬m.Carries ((Monitor.ofOptions long.engineOptions).start true)) ∧
    Machine.booted.Carries ((Monitor.ofOptions ({} : Settings).engineOptions).start false) := by
  intro slow long
  have default : ({} : Settings).fault? = none := by decide +kernel
  refine ⟨by decide +kernel, by decide +kernel, fun m => ⟨fun carries => ?_, fun carries => ?_⟩,
    (accepted_settings_fit_iff default .booted false).1.mpr ⟨by decide, fun _ => by decide⟩⟩
  · have accepted : slow.fault? = none := by decide +kernel
    have time : m.startedAt / 1000 + 18446744073709551615 ≤ 9223372036854775807 :=
      ((accepted_settings_fit_iff accepted m false).1.mp carries).2 rfl
    omega
  · have accepted : long.fault? = none := by decide +kernel
    have room : 9223372036854775807 * m.sampleSize ≤ 9223372036854775807 :=
      ((accepted_settings_fit_iff accepted m true).1.mp carries).1
    have size := m.sampleSize_gt
    omega

end Settings

end SessionMonitor
