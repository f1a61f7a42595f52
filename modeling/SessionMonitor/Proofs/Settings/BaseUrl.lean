import SessionMonitor.Backend.Client
import SessionMonitor.Proofs.Text.Trimming

/-!
# The address of the server

The address in the settings loses the blanks around it, and then the slashes at its end. A path can
be put behind what is left, but the scheme may be lost with the slashes, and a blank before the
slashes stays.
-/

namespace SessionMonitor

open Text (dropTrailing isBlank)

namespace Settings

variable {s : Settings}

def isSlash (c : Char) : Bool :=
  c = '/'

/-- An address to put paths behind: a scheme in front, no blanks around it and no slash at its
end. -/
structure IsBase (address : List Char) : Prop where
  scheme : ∃ scheme ∈ schemes, scheme.toList <+: address
  trimmed : Text.Trimmed address
  end_ne : address.getLast? ≠ some '/'

theorem toList_baseUrl (s : Settings) :
    s.baseUrl.toList = dropTrailing isSlash (Text.trimChars s.backendUrl.toList) := by
  rw [baseUrl, withoutSlashes, Text.trim, String.toList_ofList, String.toList_ofList]
  rfl

theorem fault?_eq_none_iff : s.fault? = none ↔
    s.pollInterval ≠ 0 ∧ s.historyCapacity ≠ 0 ∧ s.requestTimeout ≠ 0 ∧
      schemes.any (Text.beginsWith (Text.trim s.backendUrl)) = true := by
  unfold fault?
  grind

theorem exists_scheme (accepted : s.fault? = none) :
    ∃ scheme ∈ schemes, ∃ rest, Text.trimChars s.backendUrl.toList = scheme.toList ++ rest := by
  obtain ⟨-, -, -, known⟩ := fault?_eq_none_iff.mp accepted
  obtain ⟨scheme, member, begins⟩ := List.any_eq_true.mp known
  rw [Text.beginsWith, Text.trim, String.toList_ofList, List.isPrefixOf_iff_prefix] at begins
  obtain ⟨rest, same⟩ := begins
  exact ⟨scheme, member, rest, same.symm⟩

/-! ### What is left of the address -/

theorem dropTrailing_replicate (n : Nat) : dropTrailing isSlash (List.replicate n '/') = [] :=
  Text.dropTrailing_eq_nil_iff.mpr fun c member => by rw [List.eq_of_mem_replicate member]; rfl

theorem dropTrailing_slashes {front : List Char} (ends : ∀ c ∈ front.getLast?, c ≠ '/') (n : Nat) :
    dropTrailing isSlash (front ++ List.replicate n '/') = front := by
  rw [Text.dropTrailing_append, if_pos (dropTrailing_replicate n)]
  exact Text.dropTrailing_of_last fun c last => decide_eq_false (ends c last)

theorem exists_slashes (address : List Char) :
    ∃ n, address = dropTrailing isSlash address ++ List.replicate n '/' := by
  refine ⟨(address.rtakeWhile isSlash).length, ?_⟩
  have slashes : address.rtakeWhile isSlash =
      List.replicate (address.rtakeWhile isSlash).length '/' :=
    List.eq_replicate_of_mem fun c member =>
      of_decide_eq_true (show isSlash c = true from List.mem_rtakeWhile_imp member)
  rw [← slashes]
  exact List.rdropWhile_append_rtakeWhile.symm

theorem head_baseUrl (s : Settings) : ∀ c ∈ s.baseUrl.toList.head?, isBlank c = false := by
  intro c first
  rw [toList_baseUrl] at first
  exact (Text.trimmed_trimChars _).head c (Text.head?_dropTrailing first)

theorem end_baseUrl (s : Settings) : s.baseUrl.toList.getLast? ≠ some '/' := by
  intro last
  rw [toList_baseUrl] at last
  exact absurd (Text.last_dropTrailing last) (by decide)

theorem withoutSlashes_baseUrl (s : Settings) : withoutSlashes s.baseUrl = s.baseUrl := by
  refine String.toList_inj.mp ?_
  rw [withoutSlashes, String.toList_ofList]
  exact Text.dropTrailing_of_last fun c last => decide_eq_false fun slash =>
    end_baseUrl s (by rw [← slash]; exact last)

/-- The scheme is lost where nothing but slashes stands behind it. -/
theorem scheme_baseUrl_or (accepted : s.fault? = none) :
    (∃ scheme ∈ schemes, scheme.toList <+: s.baseUrl.toList) ∨
      s.baseUrl = "http:" ∨ s.baseUrl = "https:" := by
  obtain ⟨scheme, known, rest, address⟩ := exists_scheme accepted
  have left := toList_baseUrl s
  rw [address, Text.dropTrailing_append] at left
  split at left
  · have names : ∀ scheme ∈ schemes, dropTrailing isSlash scheme.toList = "http:".toList ∨
        dropTrailing isSlash scheme.toList = "https:".toList := by decide
    rw [← String.toList_inj, ← String.toList_inj, left]
    exact .inr (names scheme known)
  · exact .inl ⟨scheme, known, _, left.symm⟩

theorem not_scheme_of_lost (lost : s.baseUrl = "http:" ∨ s.baseUrl = "https:") :
    ¬∃ scheme ∈ schemes, scheme.toList <+: s.baseUrl.toList := by
  rcases lost with lost | lost <;> rw [lost] <;> decide

theorem exists_host (base : IsBase s.baseUrl.toList) : ∃ scheme ∈ schemes, ∃ host n,
    (Text.trim s.backendUrl).toList = scheme.toList ++ host ++ List.replicate n '/' ∧
      ∃ c ∈ host.getLast?, c ≠ '/' ∧ isBlank c = false := by
  obtain ⟨scheme, known, host, whole⟩ := base.scheme
  obtain ⟨n, address⟩ := exists_slashes (Text.trimChars s.backendUrl.toList)
  rw [← toList_baseUrl, ← whole] at address
  refine ⟨scheme, known, host, n, ?_, ?_⟩
  · rw [Text.trim, String.toList_ofList, address]
  · cases last : host.getLast? with
    | none =>
      have bare : ∀ scheme ∈ schemes, scheme.toList.getLast? = some '/' := by decide
      rw [List.getLast?_eq_none_iff.mp last, List.append_nil] at whole
      exact (base.end_ne (whole ▸ bare scheme known)).elim
    | some c =>
      have ends : s.baseUrl.toList.getLast? = some c := by
        rw [← whole, List.getLast?_append, last]
        rfl
      exact ⟨c, rfl, fun slash => base.end_ne (slash ▸ ends), base.trimmed.last c ends⟩

theorem isBase_of_host {scheme : String} (known : scheme ∈ schemes) {host : List Char} {n : Nat}
    (address : (Text.trim s.backendUrl).toList = scheme.toList ++ host ++ List.replicate n '/')
    {c : Char} (last : c ∈ host.getLast?) (notSlash : c ≠ '/') (solid : isBlank c = false) :
    IsBase s.baseUrl.toList := by
  have ends : (scheme.toList ++ host).getLast? = some c := by
    rw [List.getLast?_append, Option.mem_def.mp last]
    rfl
  have left : s.baseUrl.toList = scheme.toList ++ host := by
    rw [Text.trim, String.toList_ofList] at address
    rw [toList_baseUrl, address]
    refine dropTrailing_slashes (fun d final => ?_) n
    rw [ends] at final
    cases final
    exact notSlash
  refine ⟨⟨scheme, known, host, left.symm⟩, ⟨head_baseUrl s, fun d final => ?_⟩, end_baseUrl s⟩
  rw [left, ends] at final
  cases final
  exact solid

/-- The client keeps an accepted address without the slashes at its end. It can put paths behind
that if and only if something stands behind the scheme and, before those slashes, ends in no blank.
-/
theorem base_url_is_normal_iff (accepted : s.fault? = none) :
    let client := Client.ofSettings s
    client.baseUrl = s.baseUrl ∧
    (∀ operation, client.url operation = s.baseUrl ++ operation.path) ∧
    (∀ c ∈ s.baseUrl.toList.head?, isBlank c = false) ∧
    s.baseUrl.toList.getLast? ≠ some '/' ∧
    ((∃ scheme ∈ schemes, scheme.toList <+: s.baseUrl.toList) ↔
      ¬(s.baseUrl = "http:" ∨ s.baseUrl = "https:")) ∧
    (IsBase s.baseUrl.toList ↔ ∃ scheme ∈ schemes, ∃ host n,
      (Text.trim s.backendUrl).toList = scheme.toList ++ host ++ List.replicate n '/' ∧
        ∃ c ∈ host.getLast?, c ≠ '/' ∧ isBlank c = false) := by
  intro client
  have kept : client.baseUrl = s.baseUrl := withoutSlashes_baseUrl s
  refine ⟨kept, fun operation => ?_, head_baseUrl s, end_baseUrl s, ⟨?_, ?_⟩, exists_host, ?_⟩
  · rw [Client.url, kept]
  · exact fun begins lost => not_scheme_of_lost lost begins
  · exact (scheme_baseUrl_or accepted).resolve_right
  · rintro ⟨scheme, known, host, n, address, c, last, notSlash, solid⟩
    exact isBase_of_host known address last notSlash solid

/-- The blanks are trimmed before the slash is dropped. -/
theorem blank_before_slash_stays :
    let s : Settings := { backendUrl := " http://localhost:8000 /" }
    s.fault? = none ∧ s.baseUrl = "http://localhost:8000 " ∧ ¬IsBase s.baseUrl.toList ∧
      (Client.ofSettings s).url .ping = "http://localhost:8000 /ping" := by
  intro s
  have accepted : s.fault? = none := by decide +kernel
  have left : s.baseUrl = "http://localhost:8000 " := by decide +kernel
  obtain ⟨-, urls, -⟩ := base_url_is_normal_iff accepted
  refine ⟨accepted, left, fun base => ?_, (urls .ping).trans ?_⟩
  · have solid : isBlank ' ' = false := base.trimmed.last ' ' (by rw [left]; decide)
    exact absurd solid (by decide)
  · rw [left]
    decide

/-- The slashes of the scheme are slashes at the end. -/
example : ({ backendUrl := "http://" } : Settings).fault? = none ∧
    ({ backendUrl := "http://" } : Settings).baseUrl = "http:" := by
  decide +kernel

end Settings

end SessionMonitor
