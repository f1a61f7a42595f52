import SessionMonitor.Proofs.Controller.Inquiries

/-!
# Requests and their reports

What a run wants done outside, and which requests of one kind have not reported yet. A request
reports at most once, and whatever else happens may happen at any time.
-/

namespace SessionMonitor

namespace Controller

def wanted (c : Controller) : List (Timestamp × Event) → List Effect
  | [] => []
  | event :: rest => (c.handle event.1 event.2).2 ++ wanted (c.handle event.1 event.2).1 rest

theorem wanted_append (c : Controller) (first second : List (Timestamp × Event)) :
    c.wanted (first ++ second) = c.wanted first ++ (c.through first).wanted second := by
  induction first generalizing c with
  | nil => rfl
  | cons event rest ih =>
    rw [List.cons_append, wanted, wanted, ih, List.append_assoc]
    rfl

theorem wanted_concat (c : Controller) (events : List (Timestamp × Event))
    (event : Timestamp × Event) : c.wanted (events ++ [event]) =
      c.wanted events ++ ((c.through events).handle event.1 event.2).2 := by
  rw [wanted_append, wanted, wanted, List.append_nil]

/-- A controller that has begun, with what it wants done: nothing has happened, or it has been
started. -/
inductive Begun (options : Engine.Options) : Controller × List Effect → Prop where
  | unstarted : Begun options (ofOptions options, [])
  | started (paused : Bool) : Begun options ((ofOptions options).start paused)

end Controller

/-- A kind of request, with the events by which such a request can report. -/
structure Exchange (α : Type) where
  asks? : Effect → Option α
  Reports : Event → α → Prop

namespace Exchange

variable {α : Type} (x : Exchange α) (origin : Controller × List Effect)

def among (effects : List Effect) : List α :=
  effects.filterMap x.asks?

theorem among_append (first second : List Effect) :
    x.among (first ++ second) = x.among first ++ x.among second :=
  List.filterMap_append

def sent (events : List (Timestamp × Event)) : List α :=
  x.among (origin.2 ++ origin.1.wanted events)

theorem sent_nil : x.sent origin [] = x.among origin.2 :=
  congrArg x.among (List.append_nil _)

theorem sent_concat (events : List (Timestamp × Event)) (event : Timestamp × Event) :
    x.sent origin (events ++ [event]) =
      x.sent origin events ++ x.among ((origin.1.through events).handle event.1 event.2).2 := by
  rw [sent, sent, Controller.wanted_concat, ← List.append_assoc, among_append]

theorem sent_concat_of_silent {events : List (Timestamp × Event)} {event : Timestamp × Event}
    (silent : x.among ((origin.1.through events).handle event.1 event.2).2 = []) :
    x.sent origin (events ++ [event]) = x.sent origin events := by
  rw [sent_concat, silent, List.append_nil]

/-- The requests that one more event sends, with their numbers. -/
def next (events : List (Timestamp × Event)) (event : Timestamp × Event) : List (α × Nat) :=
  (x.among ((origin.1.through events).handle event.1 event.2).2).zipIdx
    (x.sent origin events).length

/-- Events in which a request reports only after it has been sent, and once, with the numbered
requests that have not reported. -/
inductive Open : List (Timestamp × Event) → List (α × Nat) → Prop where
  | origin : Open [] (x.among origin.2).zipIdx
  /-- No request reports. -/
  | aside {events : List (Timestamp × Event)} {waiting : List (α × Nat)}
    {event : Timestamp × Event} (h : Open events waiting) (aside : ∀ a, ¬x.Reports event.2 a) :
    Open (events ++ [event]) (waiting ++ x.next origin events event)
  | report {events : List (Timestamp × Event)} {before after : List (α × Nat)} {a : α} {n : Nat}
    {event : Timestamp × Event} (h : Open events (before ++ (a, n) :: after))
    (reports : x.Reports event.2 a) :
    Open (events ++ [event]) (before ++ after ++ x.next origin events event)

variable {x origin} {events : List (Timestamp × Event)} {waiting : List (α × Nat)}

theorem getElem?_of_mem_next {event : Timestamp × Event} {a : α} {n : Nat}
    (new : (a, n) ∈ x.next origin events event) :
    (x.sent origin (events ++ [event]))[n]? = some a := by
  obtain ⟨past, found⟩ := List.mk_mem_zipIdx_iff_le_and_getElem?_sub.mp new
  rw [sent_concat, List.getElem?_append_right past]
  exact found

theorem Open.getElem? (h : Open x origin events waiting) {a : α} {n : Nat}
    (waits : (a, n) ∈ waiting) : (x.sent origin events)[n]? = some a := by
  have later {events : List (Timestamp × Event)} {event : Timestamp × Event}
      (found : (x.sent origin events)[n]? = some a) :
      (x.sent origin (events ++ [event]))[n]? = some a := by
    obtain ⟨bound, -⟩ := List.getElem?_eq_some_iff.mp found
    rw [sent_concat, List.getElem?_append_left bound]
    exact found
  induction h with
  | origin =>
    rw [sent_nil]
    exact List.mk_mem_zipIdx_iff_getElem?.mp waits
  | aside _ _ ih =>
    rcases List.mem_append.mp waits with old | new
    · exact later (ih old)
    · exact getElem?_of_mem_next new
  | report _ _ ih =>
    rcases List.mem_append.mp waits with old | new
    · refine later (ih ?_)
      rcases List.mem_append.mp old with early | late
      · exact List.mem_append_left _ early
      · exact List.mem_append_right _ (List.mem_cons_of_mem _ late)
    · exact getElem?_of_mem_next new

/-- After events in which no request reports, everything that they send waits too. -/
theorem Open.asides (h : Open x origin events waiting) {more : List (Timestamp × Event)}
    (aside : ∀ event ∈ more, ∀ a, ¬x.Reports event.2 a) :
    Open x origin (events ++ more) (waiting ++
      (x.among ((origin.1.through events).wanted more)).zipIdx (x.sent origin events).length) := by
  induction more generalizing events waiting with
  | nil => simpa [Controller.wanted, among] using h
  | cons event rest ih =>
    obtain ⟨first, later⟩ := List.forall_mem_cons.mp aside
    have all := ih (h.aside first) later
    rw [List.append_assoc, List.append_assoc, sent_concat, Controller.through_concat,
      List.length_append] at all
    rw [Controller.wanted, among_append, List.zipIdx_append]
    exact all

end Exchange

end SessionMonitor
