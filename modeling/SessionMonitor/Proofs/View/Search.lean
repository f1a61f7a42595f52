import SessionMonitor.Proofs.Text.Lowercase
import SessionMonitor.View.Filter

/-!
# What a filter finds

A filter shows the sessions with the text asked for in a column, unless the text has a capital
sigma whose small letter depends on what stands around it.
-/

namespace SessionMonitor.Filter

variable {query : String} {p : Session}

theorem passes_ofQuery_iff : (ofQuery query).passes p = true ↔
    ∃ field ∈ fields p,
      Text.lowerAfter [] query.toList <:+: Text.lowerAfter [] field.toList := by
  have searched : (ofQuery query).passes p = true ↔ Text.lowercase query = "" ∨
      ∃ field ∈ fields p,
        Text.lowerAfter [] query.toList <:+: Text.lowerAfter [] field.toList := by
    simp [passes, ofQuery, Text.contains_iff, Text.lowercase, String.isEmpty_iff]
  refine searched.trans ⟨fun found => found.elim (fun empty => ?_) id, .inr⟩
  have nothing : Text.lowerAfter [] query.toList = [] := String.ofList_eq_empty_iff.mp empty
  exact ⟨p.user, List.mem_cons_self, by rw [nothing]; exact List.nil_infix⟩

def namedSession (user : String) : Session :=
  { Session.blank ⟨0⟩ with user := user }

theorem passes_namedSession_iff {user : String} :
    (ofQuery query).passes (namedSession user) = true ↔
      Text.lowerAfter [] query.toList <:+: Text.lowerAfter [] user.toList := by
  rw [passes_ofQuery_iff]
  constructor
  · rintro ⟨field, mem, found⟩
    rcases List.mem_cons.mp mem with rfl | blank
    · exact found
    · have empty : field = "" := by simpa [namedSession, Session.blank] using blank
      subst empty
      rw [List.eq_nil_of_infix_nil found]
      exact List.nil_infix
  · exact fun found => ⟨user, List.mem_cons_self, found⟩

/-- A filter finds its text wherever it stands if and only if no capital sigma of the text depends
for its small letter on what stands around. -/
theorem finds_what_it_is_asked_for_iff (query : String) :
    ((∀ p, (∃ field ∈ fields p, Text.contains field query = true) →
      (ofQuery query).passes p = true) ↔ Text.Settled query) ∧
    ('Σ' ∉ query.toList → Text.Settled query) := by
  refine ⟨⟨fun finds => ?_, fun settled p ⟨field, mem, inside⟩ => ?_⟩,
    fun none => Text.settledAfter_of_no_sigma none⟩
  · by_contra unsettled
    obtain ⟨s, inside, hidden⟩ := Text.exists_hidden_of_not_settled unsettled
    refine hidden ?_
    have found := finds (namedSession (String.ofList s))
      ⟨String.ofList s, List.mem_cons_self, Text.contains_iff.mpr (by simpa using inside)⟩
    simpa using passes_namedSession_iff.mp found
  · have found := Text.lower_infix_of_settled settled (Text.contains_iff.mp inside)
    exact passes_ofQuery_iff.mpr ⟨field, mem, found⟩

/-- The beginning of a word hides the session with the whole word. -/
theorem beginning_of_a_word_is_not_found :
    Text.contains "ΠΡΟΣΩΠΑ" "ΠΡΟΣ" = true ∧
      (ofQuery "ΠΡΟΣ").passes (namedSession "ΠΡΟΣΩΠΑ") = false ∧ ¬ Text.Settled "ΠΡΟΣ" ∧
      Text.Settled "ΠΡΟΣΩ" ∧ (ofQuery "ΠΡΟΣΩ").passes (namedSession "ΠΡΟΣΩΠΑ") = true ∧
      Text.Settled "root" := by
  have settled : Text.Settled "ΠΡΟΣΩ" := by decide +kernel
  exact ⟨by decide +kernel, by decide +kernel, by decide +kernel, settled,
    (finds_what_it_is_asked_for_iff "ΠΡΟΣΩ").1.mpr settled _
      ⟨"ΠΡΟΣΩΠΑ", List.mem_cons_self, by decide +kernel⟩,
    (finds_what_it_is_asked_for_iff "root").2 (by decide)⟩

end SessionMonitor.Filter
