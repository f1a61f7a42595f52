import SessionMonitor.Monitor
import SessionMonitor.Proofs.Backend.Client
import SessionMonitor.Proofs.Controller.Run

/-!
# Kills

A kill is sent only when a key says yes to the question that another key has opened, and only for
marked sessions that the console still sees.
-/

namespace SessionMonitor.Controller

open Console (Steady Settled)

variable {c : Controller} {asked plan : KillPlan}

/-! ### The question -/

theorem advance_of_running (event : Timestamp × Event)
    (running : (c.advance event).console.quitting = false) :
    c.console.quitting = false ∧ c.advance event = (c.handle event.1 event.2).1 := by
  unfold advance at running ⊢
  split
  · rename_i quitting
    rw [if_pos quitting, quitting] at running
    cases running
  · rename_i alive
    exact ⟨by simpa using alive, rfl⟩

/-- After an event the question stands if a key has opened it, or if it stood before and no key has
come. -/
theorem confirm_of_advance (settled : Settled c.console) (time : Timestamp) (event : Event)
    (running : (c.advance (time, event)).console.quitting = false)
    (mode : (c.advance (time, event)).console.mode = .confirm asked) :
    (∃ key, event = .key key ∧ key.code = .char 'x' ∧ c.console.mode = .normal ∧
      c.console.engine.planKillSelected = .ok asked) ∨
    ((∀ key, event ≠ .key key) ∧ c.console.quitting = false ∧ c.console.mode = .confirm asked) := by
  obtain ⟨alive, advanced⟩ := advance_of_running (time, event) running
  by_cases pressed : ∃ key, event = .key key
  · obtain ⟨key, rfl⟩ := pressed
    rw [advanced] at running mode
    obtain ⟨step, turn, performed⟩ := c.turn_handle time key
    obtain ⟨code, normal, planned⟩ := turn.of_confirm settled
      (performed.quitting.symm.trans running) (performed.mode.symm.trans mode)
    exact .inl ⟨key, rfl, code, normal, planned⟩
  · have other : ∀ key, event ≠ .key key := not_exists.mp pressed
    have steady : Steady c.console (c.advance (time, event)).console := c.steady_advance other
    exact .inr ⟨other, alive, steady.mode.symm.trans mode⟩

/-- The question about a plan, opened by a key to which no other has come since. -/
structure Asked (start : Controller) (before : List (Timestamp × Event)) (time : Timestamp)
    (opening : Key) (between : List (Timestamp × Event)) (asked : KillPlan) : Prop where
  code : opening.code = .char 'x'
  normal : (start.run before).console.mode = .normal
  planned : (start.run before).console.engine.planKillSelected = .ok asked
  opened : (start.run (before ++ [(time, .key opening)])).console.mode = .confirm asked
  noKey : NoKey between

section
variable {options : Engine.Options} {start : Controller} (initial : Initial options start)
include initial

theorem Initial.asked_of_confirm (events : List (Timestamp × Event))
    (running : (start.run events).console.quitting = false)
    (mode : (start.run events).console.mode = .confirm asked) :
    ∃ before time opening between, events = before ++ (time, .key opening) :: between ∧
      Asked start before time opening between asked := by
  induction events using List.reverseRecOn with
  | nil => cases initial.steady.mode.symm.trans mode
  | append_singleton events last ih =>
    obtain ⟨time, event⟩ := last
    have opened := mode
    rw [run_append] at running mode
    rcases confirm_of_advance (initial.settled_run events) time event running mode with
      ⟨opening, rfl, code, normal, planned⟩ | ⟨other, alive, earlier⟩
    · exact ⟨events, time, opening, [], rfl, code, normal, planned, opened, by simp [NoKey]⟩
    · obtain ⟨before, asking, opening, between, rfl, question⟩ := ih alive earlier
      refine ⟨before, asking, opening, between ++ [(time, event)], by simp,
        { question with noKey := ?_ }⟩
      exact List.forall_mem_append.mpr ⟨question.noKey, by simpa using other⟩

end

/-! ### What is sent -/

theorem effects_of_press {key : Key} (now : Timestamp)
    (kill : (c.console.press key).1 = .kill plan) :
    (c.handle now (.key key)).2 = [.send (.kill plan)] := by
  unfold handle
  dsimp only
  rw [kill]
  rfl

theorem kill_of_handle {now : Timestamp} {event : Event}
    (sent : .send (.kill plan) ∈ (c.handle now event).2) :
    ∃ key asked, event = .key key ∧ (key.code = .char 'y' ∨ key.code = .char 'Y') ∧
      c.console.mode = .confirm asked ∧ c.console.engine.planKill asked.ids = .ok plan ∧
      (c.handle now event).2 = [.send (.kill plan)] := by
  cases event with
  | key key =>
    have turn := Console.turn_press c.console key
    by_cases kill : ∃ other, (c.console.press key).1 = .kill other
    · obtain ⟨other, kill⟩ := kill
      have effects := effects_of_press now kill
      rw [effects] at sent
      cases List.mem_singleton.mp sent
      obtain ⟨asked, mode, code, planned⟩ := turn.of_kill kill
      exact ⟨key, asked, rfl, code, mode, planned, effects⟩
    · have calm := calm_perform (c.withConsole (c.console.press key).2)
        (fun other same => kill ⟨other, same⟩)
      exact (calm.effects plan sent).elim
  | _ => exact ((c.calm_handle now (by simp)).effects plan sent).elim

def questioned : List (Timestamp × Event) :=
  [(0, .pollCompleted ⟨1, 1, .resumed⟩ (.ok ⟨[.blank ⟨1⟩], 0, by decide⟩)),
    (1, .key { code := .char ' ' }), (2, .key { code := .char 'x' }), (3, .pollTick)]

section
variable {options : Engine.Options} {start : Controller} (initial : Initial options start)
  {before : List (Timestamp × Event)}
include initial

theorem Initial.planned_of_opened {time : Timestamp} {opening : Key}
    (running : (start.run (before ++ [(time, .key opening)])).console.quitting = false)
    (opened : (start.run (before ++ [(time, .key opening)])).console.mode = .confirm asked) :
    (start.run before).console.engine.planKillSelected = .ok asked := by
  rw [run_append] at running opened
  rcases confirm_of_advance (initial.settled_run before) time (.key opening) running opened with
    ⟨_, -, -, -, planned⟩ | ⟨other, -, -⟩
  · exact planned
  · exact (other opening rfl).elim

theorem Initial.gone_eq_nil (pruning : options.pruneSelection = true)
    (planned : (start.run before).console.engine.planKillSelected = .ok asked) :
    asked.gone = [] := by
  have moves := initial.moves_run before
  have live := moves.marksLive (Engine.marksLive_ofOptions options)
  exact live.gone_eq_nil (moves.options ▸ pruning) planned

end

/-- Answering yes plans again for all sessions of the question. Those that it announces as ended are
sent if they have come back, and then only. -/
theorem answer_keeps_word_iff {options : Engine.Options} {start : Controller}
    (initial : Initial options start) (before : List (Timestamp × Event)) (time : Timestamp)
    (opening : Key) (between : List (Timestamp × Event)) (now : Timestamp) (key : Key)
    (opened : (start.run (before ++ [(time, .key opening)])).console.mode = .confirm asked)
    (noKey : NoKey between)
    (running :
      (start.run (before ++ (time, .key opening) :: between)).console.quitting = false)
    (sent : .send (.kill plan) ∈
      ((start.run (before ++ (time, .key opening) :: between)).handle now (.key key)).2) :
    let e := (start.run (before ++ (time, .key opening) :: between)).console.engine
    (∀ id, id ∈ plan.live ↔ (id ∈ asked.live ∨ id ∈ asked.gone) ∧ id ∈ e.snapshot.ids) ∧
    ((∀ id ∈ plan.live, id ∈ asked.live) ↔ ∀ id ∈ asked.gone, id ∉ e.snapshot.ids) ∧
    (options.pruneSelection = true → asked.gone = [] ∧ ∀ id ∈ plan.live, id ∈ asked.live) := by
  intro e
  have split : start.run (before ++ (time, .key opening) :: between) =
      (start.run (before ++ [(time, .key opening)])).run between := by
    rw [← run_append, List.append_assoc, List.singleton_append]
  have kept := steady_run (start.run (before ++ [(time, .key opening)])) noKey
  rw [← split] at kept
  obtain ⟨_, other, -, -, mode, planned, -⟩ := kill_of_handle sent
  obtain rfl := Mode.confirm.inj ((kept.mode.trans opened).symm.trans mode)
  have first := initial.planned_of_opened (kept.quitting.symm.trans running) opened
  have live : ∀ id, id ∈ plan.live ↔ (id ∈ asked.live ∨ id ∈ asked.gone) ∧ id ∈ e.snapshot.ids := by
    intro id
    rw [Engine.mem_live_of_planKill planned, KillPlan.ids, List.mem_append]
  have apart : ∀ id ∈ asked.gone, id ∉ asked.live := fun id gone live =>
    ((Engine.mem_gone_of_planKill first).mp gone).2 ((Engine.mem_live_of_planKill first).mp live).2
  refine ⟨live, ⟨?_, ?_⟩, ?_⟩
  · intro honest id gone back
    exact apart id gone (honest id ((live id).mpr ⟨.inr gone, back⟩))
  · intro ended id sent
    obtain ⟨announced | announced, present⟩ := (live id).mp sent
    · exact announced
    · exact (ended id announced present).elim
  · intro pruning
    have none := initial.gone_eq_nil pruning first
    refine ⟨none, fun id sent => ?_⟩
    simpa [none] using ((live id).mp sent).1

/-- Without pruning: two sessions are marked, of which the second one has ended. -/
def marked : List (Timestamp × Event) :=
  [(0, .pollCompleted ⟨1, 1, .resumed⟩ (.ok ⟨[.blank ⟨1⟩], 0, by decide⟩)),
    (1, .key { code := .char ' ' }), (2, .pollTick),
    (3, .pollCompleted ⟨1, 2, .scheduled⟩ (.ok ⟨[.blank ⟨2⟩], 3, by decide⟩)),
    (4, .key { code := .char ' ' }), (5, .pollTick),
    (6, .pollCompleted ⟨1, 3, .scheduled⟩ (.ok ⟨[.blank ⟨1⟩], 6, by decide⟩))]

def returned : List (Timestamp × Event) :=
  [(8, .pollTick),
    (9, .pollCompleted ⟨1, 4, .scheduled⟩ (.ok ⟨[.blank ⟨1⟩, .blank ⟨2⟩], 9, by decide⟩))]

theorem returned_is_sent :
    let start := ((ofOptions { pruneSelection := false }).start false).1
    let x : Timestamp × Event := (7, .key { code := .char 'x' })
    (start.run (marked ++ [x])).console.mode = .confirm ⟨[⟨1⟩], [⟨2⟩]⟩ ∧
      ((start.run (marked ++ x :: returned)).handle 10 (.key { code := .char 'y' })).2 =
        [.send (.kill ⟨[⟨1⟩, ⟨2⟩], []⟩)] ∧
      ¬∀ id ∈ [(⟨1⟩ : SessionId), ⟨2⟩], id ∈ [(⟨1⟩ : SessionId)] := by
  intro start x
  have opened : (start.run (marked ++ [x])).console.mode = .confirm ⟨[⟨1⟩], [⟨2⟩]⟩ := by
    decide +kernel
  have sent : ((start.run (marked ++ x :: returned)).handle 10 (.key { code := .char 'y' })).2 =
      [.send (.kill ⟨[⟨1⟩, ⟨2⟩], []⟩)] := by
    decide +kernel
  obtain ⟨-, honest, -⟩ := answer_keeps_word_iff (.started false) marked 7 _ returned 10
    { code := .char 'y' } opened (by simp [NoKey, returned]) (by decide +kernel)
    (sent ▸ List.mem_singleton_self _)
  refine ⟨opened, sent, fun all => ?_⟩
  exact honest.mp all ⟨2⟩ (by simp) (by decide +kernel)

end SessionMonitor.Controller
