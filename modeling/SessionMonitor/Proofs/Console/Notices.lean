import SessionMonitor.Proofs.Console.Edits
import SessionMonitor.Proofs.Console.Modes

/-!
# What keys say

The notices that a key can leave. Only two keys can leave a refusal: the one that opens the question
whether to kill, and the one that says yes to it.
-/

namespace SessionMonitor

theorem Refusal.message_noLiveTargets_ne (requested : Nat) :
    (noLiveTargets requested).message ≠ emptySelection.message := by
  show "None of the " ++ toString requested ++ " selected process(es) are still running" ≠
    "No processes selected"
  intro same
  have letters := congrArg String.toList same
  rw [String.toList_append, String.toList_append, List.append_assoc] at letters
  -- The texts differ in their third letter.
  have first := congrArg (List.take 3) letters
  rw [List.take_append_of_le_length (by decide)] at first
  exact absurd first (by decide)

theorem Command.isYes_of_answer {popup : Bool} {mode : Mode} {page : Page} {key : Key} {yes : Bool}
    (means : ofKey popup mode page key = answer yes) : isYes key = yes := by
  unfold ofKey at means
  split at means
  · cases means
  · split at means
    · cases means
    · split at means
      · exact Command.answer.inj means
      · cases means
      · split at means
        · cases means
        · split at means <;> cases means

namespace Console

variable {c : Console}

/-- The notice after a key. -/
inductive Word (c : Console) (key : Key) : Option Notice → Prop where
  | kept : Word c key c.notice
  | told (words : String) : Word c key (some ⟨.info, words⟩)
  | refused {refusal : Refusal} (planned : c.engine.planKillSelected = .error refusal) :
    Word c key (some ⟨.error, refusal.message⟩)
  | withdrawn {asked : KillPlan} {refusal : Refusal} (mode : c.mode = .confirm asked)
    (yes : Command.isYes key = true) (planned : c.engine.planKill asked.ids = .error refusal) :
    Word c key (some ⟨.error, refusal.message⟩)

theorem word_beginKill (c : Console) (key : Key) : Word c key c.beginKill.notice := by
  cases planned : c.engine.planKillSelected with
  | ok plan =>
    rw [beginKill, planned]
    exact .kept
  | error refusal =>
    rw [beginKill, planned]
    exact .refused planned

theorem word_answerQuestion {asked : KillPlan} (mode : c.mode = .confirm asked) (key : Key) :
    Word c key (c.answerQuestion (Command.isYes key)).2.notice := by
  cases yes : Command.isYes key with
  | false => exact .told "Kill cancelled"
  | true =>
    cases planned : c.engine.planKill asked.ids with
    | ok plan =>
      rw [answerQuestion, if_pos rfl, confirmKill_ok mode planned]
      exact .kept
    | error refusal =>
      rw [answerQuestion, if_pos rfl, confirmKill_error mode planned]
      exact .withdrawn mode yes planned

theorem word_obeyList (c : Console) (key : Key) (command : ListCommand) :
    Word c key (c.obeyList command).2.notice := by
  cases command with
  | ask kind =>
    obtain ⟨detail, changed⟩ := exists_askAdvice kind (c.exists_openDetail kind)
    rw [obeyList, changed]
    exact .kept
  | mark =>
    obtain ⟨engine, changed⟩ := c.exists_toggleAtCursor
    rw [obeyList, changed]
    exact .kept
  | beginKill => exact c.word_beginKill key
  | _ => exact .kept

theorem word_press (c : Console) (key : Key) : Word c key (c.press key).2.notice := by
  have given := c.given_command key
  rw [press_eq_obey]
  cases means : c.command key with
  | quit | nextPage => exact .kept
  | popup command =>
    obtain ⟨detail, changed⟩ := c.exists_obeyPopup command
    rw [obey, changed]
    exact .kept
  | answer yes =>
    rw [means] at given
    obtain ⟨-, asked, mode⟩ := given
    obtain rfl := Command.isYes_of_answer means
    exact word_answerQuestion mode key
  | filter command => cases command <;> exact .kept
  | executor command =>
    obtain ⟨page, executor, changed⟩ := c.exists_obeyExecutor command
    rw [obey, changed]
    exact .kept
  | list command => exact c.word_obeyList key command

end Console

end SessionMonitor
