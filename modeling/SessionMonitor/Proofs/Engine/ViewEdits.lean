import SessionMonitor.Proofs.Engine.Run

/-!
# Edits of the view

The operator edits the filter and the sorting while answers to requests come in. Their order makes
no difference: answers bring the same, and the edits are made to what they bring.
-/

namespace SessionMonitor

inductive FilterEdit where
  | set (query : String)
  | push (c : Char)
  | pop
  | clear

inductive ViewEdit where
  | sort (key : SortKey)
  | filter (edit : FilterEdit)

/-- How a snapshot is shown. -/
structure Look where
  filter : Filter
  sorting : Sorting

def FilterEdit.apply : FilterEdit → Filter → Filter
  | set query, _ => .ofQuery query
  | push c, f => f.push c
  | pop, f => f.pop
  | clear, _ => .ofQuery ""

def ViewEdit.apply : ViewEdit → Look → Look
  | sort key, look => { look with sorting := look.sorting.request key }
  | filter edit, look => { look with filter := edit.apply look.filter }

/-- What reaches an engine from outside: an edit of the operator, or the answer to a request. -/
inductive Arrival (ε : Type) where
  | edit (change : ViewEdit)
  | answer (ticket : Ticket) (content : Except ε Snapshot)

namespace Arrival

variable {ε : Type}

def edit? : Arrival ε → Option ViewEdit
  | .edit change => some change
  | .answer _ _ => none

def answer? : Arrival ε → Option (Ticket × Except ε Snapshot)
  | .edit _ => none
  | .answer ticket content => some (ticket, content)

end Arrival

namespace Engine

variable {ε : Type}

/-! ### Edits -/

def editFilter (e : Engine) : FilterEdit → Engine
  | .set query => e.setFilter (.ofQuery query)
  | .push c => e.pushFilter c
  | .pop => e.popFilter
  | .clear => e.clearFilter

def edit (e : Engine) : ViewEdit → Engine
  | .sort key => e.requestSort key
  | .filter edit => e.editFilter edit

def editAll (e : Engine) (edits : List ViewEdit) : Engine :=
  edits.foldl edit e

def look (e : Engine) : Look :=
  ⟨e.filter, e.sorting⟩

/-- The engine as it is when its snapshot is shown in another way. -/
def shownAs (e : Engine) (look : Look) : Engine :=
  { e with filter := look.filter, sorting := look.sorting }.refreshView

theorem look_shownAs (e : Engine) (look : Look) : (e.shownAs look).look = look :=
  rfl

theorem shownAs_shownAs (e : Engine) (first second : Look) :
    (e.shownAs first).shownAs second = e.shownAs second :=
  rfl

theorem edit_eq (e : Engine) (edit : ViewEdit) : e.edit edit = e.shownAs (edit.apply e.look) := by
  cases edit with
  | sort key => rfl
  | filter edit => cases edit <;> rfl

/-- A change of the sorting and one of the filter can be made in either order. -/
theorem editFilter_requestSort (e : Engine) (key : SortKey) (edit : FilterEdit) :
    (e.requestSort key).editFilter edit = (e.editFilter edit).requestSort key := by
  show (e.edit (.sort key)).edit (.filter edit) = (e.edit (.filter edit)).edit (.sort key)
  rw [edit_eq, edit_eq, shownAs_shownAs, look_shownAs, edit_eq, edit_eq, shownAs_shownAs,
    look_shownAs]
  rfl

/-! ### Answers -/

theorem look_resolvePoll (e : Engine) (ticket : Ticket) (answer : Except ε Snapshot) :
    (e.resolvePoll ticket answer).2.look = e.look := by
  cases fresh : e.scheduler.isFresh ticket with
  | false =>
    rw [resolvePoll_stale e ticket answer fresh]
    rfl
  | true =>
    rw [resolvePoll_fresh e ticket answer fresh]
    cases answer <;> rfl

/-- What an answer does is shown as the engine shows it, and does not depend on how that is. -/
theorem resolvePoll_shownAs (e : Engine) (look : Look) (ticket : Ticket)
    (answer : Except ε Snapshot) :
    (e.shownAs look).resolvePoll ticket answer =
      ((e.resolvePoll ticket answer).1, (e.resolvePoll ticket answer).2.shownAs look) := by
  cases fresh : e.scheduler.isFresh ticket with
  | false =>
    have same : (e.shownAs look).scheduler.isFresh ticket = false := fresh
    rw [resolvePoll_stale e ticket answer fresh, resolvePoll_stale _ ticket answer same]
    rfl
  | true =>
    have same : (e.shownAs look).scheduler.isFresh ticket = true := fresh
    rw [resolvePoll_fresh e ticket answer fresh, resolvePoll_fresh _ ticket answer same]
    cases answer <;> rfl

theorem resolvePoll_edit (e : Engine) (edit : ViewEdit) (ticket : Ticket)
    (answer : Except ε Snapshot) :
    (e.edit edit).resolvePoll ticket answer =
      ((e.resolvePoll ticket answer).1, (e.resolvePoll ticket answer).2.edit edit) := by
  rw [edit_eq, resolvePoll_shownAs, edit_eq, look_resolvePoll]

theorem resolvePoll_editAll (e : Engine) (edits : List ViewEdit) (ticket : Ticket)
    (answer : Except ε Snapshot) :
    (e.editAll edits).resolvePoll ticket answer =
      ((e.resolvePoll ticket answer).1, (e.resolvePoll ticket answer).2.editAll edits) := by
  induction edits generalizing e with
  | nil => rfl
  | cons edit rest ih =>
    show ((e.edit edit).editAll rest).resolvePoll ticket answer = _
    rw [ih, resolvePoll_edit]
    rfl

/-! ### Any order -/

/-- Takes answers, one after the other. -/
def resolveAll (e : Engine) :
    List (Ticket × Except ε Snapshot) → List (PollOutcome ε) × Engine
  | [] => ([], e)
  | (ticket, answer) :: rest =>
    let (outcome, answered) := e.resolvePoll ticket answer
    let (outcomes, finish) := answered.resolveAll rest
    (outcome :: outcomes, finish)

/-- Takes what arrives as it arrives. -/
def receive (e : Engine) : List (Arrival ε) → List (PollOutcome ε) × Engine
  | [] => ([], e)
  | .edit edit :: rest => (e.edit edit).receive rest
  | .answer ticket answer :: rest =>
    let (outcome, answered) := e.resolvePoll ticket answer
    let (outcomes, finish) := answered.receive rest
    (outcome :: outcomes, finish)

theorem resolveAll_edit (e : Engine) (edit : ViewEdit)
    (answers : List (Ticket × Except ε Snapshot)) :
    (e.edit edit).resolveAll answers =
      ((e.resolveAll answers).1, (e.resolveAll answers).2.edit edit) := by
  induction answers generalizing e with
  | nil => rfl
  | cons answer rest ih =>
    obtain ⟨ticket, answer⟩ := answer
    simp only [resolveAll, resolvePoll_edit, ih]

theorem receive_eq (e : Engine) (arrivals : List (Arrival ε)) :
    let answered := e.resolveAll (arrivals.filterMap Arrival.answer?)
    e.receive arrivals = (answered.1, answered.2.editAll (arrivals.filterMap Arrival.edit?)) := by
  induction arrivals generalizing e with
  | nil => rfl
  | cons arrival rest ih =>
    cases arrival with
    | edit edit =>
      show (e.edit edit).receive rest = _
      rw [ih, resolveAll_edit]
      rfl
    | answer ticket answer =>
      simp only [receive, ih]
      rfl

/-- Edits of the view and answers can be handled in either order: the outcomes and the engine are
the same. -/
theorem edits_commute_with_answers (e : Engine) :
    (∀ (edits : List ViewEdit) (ticket : Ticket) (answer : Except ε Snapshot),
      (e.editAll edits).resolvePoll ticket answer =
        ((e.resolvePoll ticket answer).1, (e.resolvePoll ticket answer).2.editAll edits)) ∧
    (∀ (key : SortKey) (edit : FilterEdit),
      (e.requestSort key).editFilter edit = (e.editFilter edit).requestSort key) ∧
    ∀ arrivals : List (Arrival ε),
      let answered := e.resolveAll (arrivals.filterMap Arrival.answer?)
      e.receive arrivals =
        (answered.1, answered.2.editAll (arrivals.filterMap Arrival.edit?)) :=
  ⟨e.resolvePoll_editAll, e.editFilter_requestSort, e.receive_eq⟩

end Engine

end SessionMonitor
