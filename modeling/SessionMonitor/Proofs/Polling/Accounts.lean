import SessionMonitor.Proofs.Polling.Tracking

/-!
# Accounts of polling

What a log says of the tickets that have been given out, of the requests that are open, and of
whether polling runs.
-/

namespace SessionMonitor

namespace PollEvent

def issued? : PollEvent → Option Ticket
  | issued ticket => some ticket
  | _ => none

def isAnswer : PollEvent → Bool
  | answered _ _ _ => true
  | _ => false

def tickets (log : List PollEvent) : List Ticket :=
  log.filterMap issued?

/-- What polling is switched to, one switch after the other. -/
def switches (running : Bool) : List PollEvent → List Bool
  | [] => []
  | switched :: rest => (!running) :: switches (!running) rest
  | _ :: rest => switches running rest

theorem tickets_append (first second : List PollEvent) :
    tickets (first ++ second) = tickets first ++ tickets second :=
  List.filterMap_append

end PollEvent

open PollEvent

namespace Scheduler

variable {s finish : Scheduler} {log : List PollEvent}

theorem tickets_change (s finish : Scheduler) (ticket : Option Ticket) :
    tickets (s.change finish ticket) = ticket.toList := by
  unfold change
  split <;> cases ticket <;> rfl

theorem switches_change (s finish : Scheduler) (ticket : Option Ticket) :
    switches s.running (s.change finish ticket) =
      if finish.running = s.running then [] else [finish.running] := by
  unfold change
  split
  · cases ticket <;> rfl
  · rename_i different
    have other : (!s.running) = finish.running := (Bool.eq_not.mpr different).symm
    cases ticket <;> simp [switches, other]

theorem isAnswer_of_change {s finish : Scheduler} {ticket : Option Ticket} {event : PollEvent}
    (member : event ∈ s.change finish ticket) : event.isAnswer = false := by
  rcases List.mem_append.mp member with early | late
  · split at early
    · cases early
    · cases List.mem_singleton.mp early
      rfl
  · obtain ⟨_, -, rfl⟩ := List.mem_map.mp late
    rfl

namespace Follows

theorem running (h : s.Follows log finish) :
    finish.running = (switches s.running log).getLast?.getD s.running := by
  induction h with
  | nil => rfl
  | @cons s finish event log _ _ ih =>
    rw [ih]
    cases event with
    | switched =>
      rw [switches, List.getLast?_cons]
      rfl
    | issued => rfl
    | answered ticket snapshot counted =>
      rw [after, accept_running]
      rfl

theorem switches_append (h : s.Follows log finish) (more : List PollEvent) :
    switches s.running (log ++ more) = switches s.running log ++ switches finish.running more := by
  induction h with
  | nil => rfl
  | @cons s finish event log _ _ ih =>
    cases event with
    | switched => exact congrArg (_ :: ·) ih
    | issued => exact ih
    | answered ticket snapshot counted =>
      rw [after, accept_running] at ih
      exact ih

theorem inFlight (h : s.Follows log finish) (unanswered : ∀ event ∈ log, event.isAnswer = false) :
    finish.inFlight = s.inFlight + (tickets log).length := by
  induction h with
  | nil => rfl
  | @cons s finish event log _ _ ih =>
    obtain ⟨first, later⟩ := List.forall_mem_cons.mp unanswered
    rw [ih later]
    cases event with
    | switched => rfl
    | issued ticket =>
      show s.inFlight + 1 + (tickets log).length = s.inFlight + ((tickets log).length + 1)
      omega
    | answered => cases first

theorem numbers (h : s.Follows log finish)
    (few : s.lastSeq.toNat + (tickets log).length < UInt64.size) :
    (tickets log).map (·.seq.toNat) = List.range' (s.lastSeq.toNat + 1) (tickets log).length ∧
      finish.lastSeq.toNat = s.lastSeq.toNat + (tickets log).length := by
  induction h with
  | nil => exact ⟨rfl, rfl⟩
  | @cons s finish event log allowed _ ih =>
    cases event with
    | switched => exact ih few
    | issued ticket =>
      obtain ⟨reason, rfl⟩ := allowed
      replace few : s.lastSeq.toNat + ((tickets log).length + 1) < UInt64.size := few
      have next : (s.lastSeq + 1).toNat = s.lastSeq.toNat + 1 := toNat_add_one rfl (by omega)
      obtain ⟨later, last⟩ := ih (by show (s.lastSeq + 1).toNat + _ < _; omega)
      constructor
      · show (s.lastSeq + 1).toNat :: (tickets log).map (·.seq.toNat) =
          List.range' _ ((tickets log).length + 1)
        rw [later, List.range'_succ, next]
        exact congrArg (fun first => _ :: List.range' (first + 1) _) next
      · rw [last]
        show (s.lastSeq + 1).toNat + _ = _ + ((tickets log).length + 1)
        omega
    | answered ticket snapshot counted =>
      have same : (s.after (.answered ticket snapshot counted)).lastSeq = s.lastSeq := by
        show (s.accept ticket).2.lastSeq = _
        unfold accept
        split <;> rfl
      rw [same] at ih
      exact ih few

end Follows

end Scheduler

end SessionMonitor
