import SessionMonitor.Proofs.Console.Edits
import SessionMonitor.Proofs.Console.Modes
import SessionMonitor.Proofs.Engine.Coherence

/-!
# The cursor and what covers the table

No key leaves the cursor below the last row, and none opens the popup, the filter or the question
on the page of the executor.
-/

namespace SessionMonitor

theorem Engine.Moves.coherent {e finish : Engine} (h : Moves e finish) (coherent : Coherent e) :
    Coherent finish := by
  obtain ⟨steps, rfl⟩ := h.exists_run
  exact run_keeps (fun _ step kept => kept.perform step) coherent steps

theorem Engine.Coherent.visibleSize_requestSort {e : Engine} (coherent : Coherent e)
    (key : SortKey) : (e.requestSort key).visibleSize = e.visibleSize := by
  show (View.positions e.snapshot e.filter _).length = e.visible.length
  rw [coherent.visible, View.positions, View.positions, List.length_map, List.length_map]
  exact (View.rows_perm _ _ _).length_eq.trans (View.rows_perm _ _ _).length_eq.symm

theorem Engine.live_of_planKillSelected {e : Engine} {plan : KillPlan}
    (planned : e.planKillSelected = .ok plan) : plan.live ≠ [] ∧ plan.live.Nodup := by
  obtain ⟨live, -, some⟩ := planKill_eq_ok_iff.mp planned
  exact ⟨some, live ▸ e.selection.nodup.filter _⟩

namespace Console

variable {c finish : Console} {key : Key}

/-! ### The cursor -/

def OnRow (c : Console) : Prop :=
  c.cursor = 0 ∨ c.cursor < c.engine.visibleSize

theorem OnRow.of_eq (onRow : OnRow c) (cursor : finish.cursor = c.cursor)
    (size : finish.engine.visibleSize = c.engine.visibleSize) : OnRow finish := by
  rw [OnRow, cursor, size]
  exact onRow

theorem onRow_clampCursor (c : Console) : OnRow c.clampCursor := by
  show min c.cursor (c.engine.visibleSize - 1) = 0 ∨
    min c.cursor (c.engine.visibleSize - 1) < c.engine.visibleSize
  omega

theorem onRow_cursorDown (c : Console) : OnRow c.cursorDown := by
  by_cases empty : c.engine.visibleSize = 0
  · exact .inl (if_pos empty)
  · refine .inr ?_
    rw [cursorDown]
    dsimp only
    rw [if_neg empty]
    exact Nat.mod_lt _ (Nat.pos_of_ne_zero empty)

theorem OnRow.cursorUp (onRow : OnRow c) : OnRow c.cursorUp := by
  unfold OnRow Console.cursorUp at *
  dsimp only
  split
  · exact .inl rfl
  · split <;> omega

theorem OnRow.obeyList (onRow : OnRow c) (coherent : Engine.Coherent c.engine)
    (command : ListCommand) : OnRow (c.obeyList command).2 := by
  cases command with
  | idle | quit | beginFilter | togglePolling | refresh | unmarkAll => exact onRow.of_eq rfl rfl
  | down => exact c.onRow_cursorDown
  | up => exact onRow.cursorUp
  | showAll => exact onRow_clampCursor _
  | ask kind =>
    obtain ⟨detail, changed⟩ := exists_askAdvice kind (c.exists_openDetail kind)
    rw [Console.obeyList, changed]
    exact onRow.of_eq rfl rfl
  | mark => exact c.toggleAtCursor.onRow_cursorDown
  | markAll =>
    refine onRow.of_eq rfl ?_
    simp only [Console.obeyList, toggleAll]
    split <;> rfl
  | beginKill =>
    obtain ⟨mode, notice, changed⟩ := c.exists_beginKill
    rw [Console.obeyList, changed]
    exact onRow.of_eq rfl rfl
  -- The rows change places here and the cursor is not moved; it stays on a row as none is lost.
  | sort key => exact onRow.of_eq rfl (coherent.visibleSize_requestSort key)

theorem OnRow.obey (onRow : OnRow c) (coherent : Engine.Coherent c.engine) {command : Command}
    (given : Given c command) : OnRow (c.obey command).2 := by
  cases command with
  | quit | nextPage => exact onRow.of_eq rfl rfl
  | popup command =>
    obtain ⟨detail, changed⟩ := c.exists_obeyPopup command
    rw [Console.obey, changed]
    exact onRow.of_eq rfl rfl
  | answer yes =>
    obtain ⟨-, asked, mode⟩ := given
    obtain ⟨notice, changed⟩ := exists_answerQuestion mode yes
    rw [Console.obey, changed]
    exact onRow.of_eq rfl rfl
  | filter command => exact onRow_clampCursor _
  | executor command =>
    obtain ⟨page, executor, changed⟩ := c.exists_obeyExecutor command
    rw [Console.obey, changed]
    exact onRow.of_eq rfl rfl
  | list command => exact onRow.obeyList coherent command

/-! ### The page -/

/-- The popup, the filter and the question are only on the pages that show sessions. -/
def Covered (c : Console) : Prop :=
  c.detail ≠ none ∨ c.mode ≠ .normal → c.page ≠ .executor

theorem page_obeyList (c : Console) (command : ListCommand) :
    (c.obeyList command).2.page = c.page := by
  obtain ⟨engine, mode, cursor, detail, notice, quitting, changed⟩ := c.exists_obeyList command
  rw [changed]

theorem page_obeyFilter (c : Console) (command : FilterCommand) :
    (c.obeyFilter command).page = c.page := by
  cases command <;> rfl

theorem Covered.obey (covered : Covered c) {command : Command} (given : Given c command) :
    Covered (c.obey command).2 := by
  cases command with
  | quit => exact covered
  | popup command =>
    obtain ⟨detail, changed⟩ := c.exists_obeyPopup command
    rw [Console.obey, changed]
    exact fun _ => covered (.inl given)
  | answer yes =>
    obtain ⟨-, asked, mode⟩ := given
    obtain ⟨notice, changed⟩ := exists_answerQuestion mode yes
    rw [Console.obey, changed]
    exact fun _ => covered (.inr (by simp [mode]))
  | filter command =>
    intro _
    show (c.obeyFilter command).page ≠ .executor
    rw [page_obeyFilter]
    exact covered (.inr (by simp [given.2]))
  | nextPage =>
    rintro (opened | busy)
    · exact (opened given.1).elim
    · exact (busy given.2).elim
  | executor command =>
    obtain ⟨page, executor, changed⟩ := c.exists_obeyExecutor command
    rw [Console.obey, changed]
    rintro (opened | busy)
    · exact (opened given.1).elim
    · exact (busy given.2.1).elim
  | list command =>
    intro _
    show (c.obeyList command).2.page ≠ .executor
    rw [page_obeyList]
    exact given.2.2

/-! ### All of it -/

/-- What holds of the console at any time. -/
structure Sound (c : Console) : Prop where
  coherent : Engine.Coherent c.engine
  onRow : OnRow c
  settled : Settled c
  covered : Covered c
  plan : ∀ plan, c.mode = .confirm plan → plan.live ≠ [] ∧ plan.live.Nodup

theorem sound_ofOptions (options : Engine.Options) : Sound (ofOptions options) where
  coherent := Engine.coherent_ofOptions options
  onRow := .inl rfl
  settled := .inl rfl
  covered := by
    rintro (opened | busy)
    · exact (opened rfl).elim
    · exact (busy rfl).elim
  plan := nofun

theorem Sound.plan_press (sound : Sound c) {plan : KillPlan}
    (mode : (c.press key).2.mode = .confirm plan) : plan.live ≠ [] ∧ plan.live.Nodup := by
  have turn := turn_press c key
  generalize c.press key = step at turn mode
  cases turn with
  | quit => exact sound.plan plan mode
  | popup _ quiet => exact sound.plan plan (quiet.mode.symm.trans mode)
  | list _ quiet => exact sound.plan plan (quiet.mode.symm.trans mode)
  | filter _ _ _ left => rcases left with left | left <;> cases left.symm.trans mode
  | beginFilter => cases mode
  | ask _ normal => exact Engine.live_of_planKillSelected (mode_beginKill normal mode)
  | answer asked =>
    obtain ⟨notice, finish⟩ := pressInConfirm_eq asked key
    rw [finish] at mode
    cases mode

theorem Sound.press (sound : Sound c) (key : Key) : Sound (c.press key).2 where
  coherent := (turn_press c key).engine.coherent sound.coherent
  onRow := by
    rw [press_eq_obey]
    exact sound.onRow.obey sound.coherent (c.given_command key)
  settled := (turn_press c key).settled sound.settled
  covered := by
    rw [press_eq_obey]
    exact sound.covered.obey (c.given_command key)
  plan := fun _ mode => sound.plan_press mode

theorem Sound.of_steady (sound : Sound c) (steady : Steady c finish) (page : finish.page = c.page)
    (onRow : OnRow finish) : Sound finish where
  coherent := steady.engine.coherent sound.coherent
  onRow := onRow
  settled := steady.settled sound.settled
  covered := by
    rw [Covered, steady.mode, page]
    exact fun busy => sound.covered (busy.imp_left (mt steady.detail))
  plan := by
    rw [steady.mode]
    exact sound.plan

theorem Sound.normal_of_opened (sound : Sound c) (opened : c.detail ≠ none) : c.mode = .normal :=
  sound.settled.resolve_right opened

theorem Sound.page_of_busy (sound : Sound c) (busy : c.detail ≠ none ∨ c.mode ≠ .normal) :
    c.page = .sessions ∨ c.page = .dashboard := by
  have page := sound.covered busy
  cases shown : c.page with
  | sessions => exact .inl rfl
  | dashboard => exact .inr rfl
  | executor => exact (page shown).elim

theorem Sound.cursor_eq_zero (sound : Sound c) (empty : c.engine.visibleSize = 0) :
    c.cursor = 0 := by
  rcases sound.onRow with first | below
  · exact first
  · omega

theorem Sound.cursor_lt (sound : Sound c) (some : c.engine.visibleSize ≠ 0) :
    c.cursor < c.engine.visibleSize := by
  rcases sound.onRow with first | below
  · omega
  · exact below

theorem Sound.cursorSession?_eq (sound : Sound c) :
    c.cursorSession? = c.engine.visibleSessions[c.cursor]? := by
  rw [sound.coherent.visibleSessions]
  exact sound.coherent.visibleAt? c.cursor

theorem Sound.cursorSession?_eq_none_iff (sound : Sound c) :
    c.cursorSession? = none ↔ c.engine.visibleSize = 0 := by
  rw [sound.cursorSession?_eq, List.getElem?_eq_none_iff, ← sound.coherent.visibleSize]
  constructor
  · intro past
    refine Decidable.byContradiction fun some => ?_
    exact Nat.not_lt.mpr past (sound.cursor_lt some)
  · intro empty
    rw [empty]
    exact Nat.zero_le _

/-! ### Keys that act on the session under the cursor -/

section
variable (closed : c.detail = none) (normal : c.mode = .normal) (page : c.page ≠ .executor)
include closed normal page

theorem command_list (key : Key) (stays : key.code ≠ .char 'c') (still : key.code ≠ .tab) :
    c.command key = .list (.ofKey key) := by
  unfold command Command.ofKey
  rw [if_neg (by simp [stays]), if_neg (by simp [closed]), normal]
  dsimp only
  rw [if_neg still]
  cases shown : c.page with
  | executor => exact (page shown).elim
  | sessions => rfl
  | dashboard => rfl

theorem press_space (code : key.code = .char ' ') :
    (c.press key).1 = .none ∧ (c.press key).2.engine =
      match c.cursorSession? with
      | some session => c.engine.toggleSelection session.id
      | none => c.engine := by
  have means : ListCommand.ofKey key = .mark := by rw [ListCommand.ofKey, code]; rfl
  rw [press_eq_obey, command_list closed normal page key (by simp [code]) (by simp [code]), means]
  refine ⟨rfl, ?_⟩
  show c.toggleAtCursor.engine = _
  unfold toggleAtCursor
  cases c.cursorSession? <;> rfl

theorem press_enter (code : key.code = .enter) :
    (c.press key).2 = { c with
      detail := c.cursorSession?.map fun session => .ofSession session .recommendations } ∧
    (c.press key).1 =
      match c.cursorSession?.bind Session.statement? with
      | some query => .fetchDetail .recommendations query
      | none => .none := by
  have means : ListCommand.ofKey key = .ask .recommendations := by rw [ListCommand.ofKey, code]
  rw [press_eq_obey, command_list closed normal page key (by simp [code]) (by simp [code]), means]
  simp only [obey, obeyList, openDetail]
  cases c.cursorSession? with
  | none =>
    refine ⟨?_, rfl⟩
    simp only [askAdvice, Option.map_none]
    rw [← closed]
  | some session =>
    simp only [Option.bind_some, Option.map_some]
    cases session.statement? <;> exact ⟨rfl, rfl⟩

end

end Console

end SessionMonitor
