import SessionMonitor.Proofs.Console.Notices
import SessionMonitor.Proofs.Controller.Cursor

/-!
# Marks in every state

With pruning, marks are on sessions of the snapshot at any time. So the question whether to kill is
about all marked sessions, and that none of them is left can only come out when it is answered.
-/

namespace SessionMonitor

namespace Console

open Engine (MarksLive)

variable {c : Console}

/-- With pruning, the question is about all marked sessions, and none of them has ended. -/
theorem beginKill_eq (live : MarksLive c.engine)
    (pruning : c.engine.options.pruneSelection = true) :
    c.beginKill = if c.engine.selection.ids = [] then
        c.notifyError Refusal.emptySelection.message
      else { c with mode := .confirm ⟨c.engine.selection.ids, []⟩ } := by
  rw [beginKill, live.planKillSelected_eq pruning]
  by_cases nothing : c.engine.selection.ids = []
  · rw [if_pos nothing, if_pos nothing]
  · rw [if_neg nothing, if_neg nothing]

theorem press_beginKill {key : Key} (closed : c.detail = none) (normal : c.mode = .normal)
    (page : c.page ≠ .executor) (code : key.code = .char 'x') :
    c.press key = (.none, c.beginKill) := by
  have means : ListCommand.ofKey key = .beginKill := by rw [ListCommand.ofKey, code]; rfl
  rw [press_eq_obey, command_list closed normal page key (by simp [code]) (by simp [code]), means]
  rfl

theorem Word.of_noLiveTargets {key : Key} {notice : Option Notice} {requested : Nat}
    (word : Word c key notice) (live : MarksLive c.engine)
    (pruning : c.engine.options.pruneSelection = true) (new : notice ≠ c.notice)
    (said : notice = some ⟨.error, (Refusal.noLiveTargets requested).message⟩) :
    Command.isYes key = true ∧ ∃ asked, c.mode = .confirm asked ∧
      c.engine.planKill asked.ids = .error (.noLiveTargets asked.ids.length) := by
  cases word with
  | kept => exact (new rfl).elim
  | told words => cases said
  | @refused refusal planned =>
    have message : refusal.message = (Refusal.noLiveTargets requested).message :=
      congrArg Notice.words (Option.some.inj said)
    rw [live.planKillSelected_eq pruning] at planned
    split at planned
    · cases planned
      exact (Refusal.message_noLiveTargets_ne requested message.symm).elim
    · cases planned
  | @withdrawn asked refusal mode yes planned =>
    have message : refusal.message = (Refusal.noLiveTargets requested).message :=
      congrArg Notice.words (Option.some.inj said)
    refine ⟨yes, asked, mode, ?_⟩
    rcases Engine.planKill_eq_error_iff.mp planned with ⟨-, rfl⟩ | ⟨-, -, rfl⟩
    · exact (Refusal.message_noLiveTargets_ne requested message.symm).elim
    · exact planned

end Console

namespace Controller

open Console (Word)
open Engine (MarksLive Moves)

variable {c : Controller} {options : Engine.Options}

/-! ### States -/

theorem Reached.moves (reached : Reached options c) :
    Moves (.ofOptions options) c.console.engine := by
  induction reached with
  | initial initial => exact initial.steady.engine
  | pressed _ key ih => exact ih.trans (Console.turn_press _ key).engine
  | handled _ now event ih => exact ih.trans (moves_handle _ now event)

theorem Reached.marksLive (reached : Reached options c) : MarksLive c.console.engine :=
  reached.moves.marksLive (Engine.marksLive_ofOptions options)

theorem Reached.options_eq (reached : Reached options c) : c.console.engine.options = options :=
  reached.moves.options

theorem notice_perform (c : Controller) (action : Action) :
    (c.perform action).1.console.notice = c.console.notice ∨
      ∃ words, (c.perform action).1.console.notice = some ⟨.info, words⟩ := by
  cases action with
  | togglePolling =>
    simp only [perform]
    split
    · exact .inr ⟨_, rfl⟩
    · exact .inr ⟨_, rfl⟩
  | loadDatabases => exact .inr ⟨_, rfl⟩
  | _ => exact .inl rfl

theorem word_handle (c : Controller) (now : Timestamp) (key : Key) :
    Word c.console key (c.handle now (.key key)).1.console.notice := by
  have pressed := c.console.word_press key
  have performed := (c.withConsole (c.console.press key).2).notice_perform (c.console.press key).1
  show Word c.console key
    ((c.withConsole (c.console.press key).2).perform (c.console.press key).1).1.console.notice
  rcases performed with kept | ⟨words, told⟩
  · rw [kept]
    exact pressed
  · rw [told]
    exact .told words

end Controller

end SessionMonitor
