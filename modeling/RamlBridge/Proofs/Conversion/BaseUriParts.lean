import RamlBridge.Proofs.Conversion.FixedBaseUri

/-!
The parts of a base URI. All of them are such as a description can hold, but for the host: it may
be empty behind user information, and it keeps the templates of the authority.
-/
namespace RamlBridge.Conversion

/-- A URI that a text is read as, absolute and with a port that can be one if there is any. -/
structure IsLocated (text : String) (uri : Uri) : Prop where
  parsed : Uri.parse text = some uri
  scheme : uri.scheme ≠ ""
  authority : uri.authority ≠ ""
  port : uri.hasValidPort = true

def baseUriOf (uri : Uri) : BaseUri :=
  ⟨uri.hostPort, uri.scheme, (splitBasePath uri.path).1, (splitBasePath uri.path).2⟩

theorem outcome_of_isLocated {text : String} {uri : Uri} (h : IsLocated text uri) :
    (parseBaseUri (some text)).outcome = .ok (some (baseUriOf uri)) :=
  parseBaseUri_eq_some.mpr ⟨uri, h.parsed, h.scheme, h.authority, h.port, rfl⟩

theorem outcome_of_not_isLocated {text : String} (h : ∀ uri, ¬ IsLocated text uri) :
    (parseBaseUri (some text)).outcome = .ok none := by
  obtain ⟨read, hread⟩ := parseBaseUri_outcome (some text)
  cases read with
  | none => exact hread
  | some baseUri =>
    obtain ⟨uri, parsed, scheme, authority, port, _⟩ := parseBaseUri_eq_some.mp hread
    exact absurd ⟨parsed, scheme, authority, port⟩ (h uri)

section Host

variable {uri : Uri}

theorem hostPort_eq_empty_iff (given : uri.authority ≠ "") :
    uri.hostPort = "" ↔ uri.authority.toList.getLast? = some '@' := by
  have characters : uri.authority.toList ≠ [] :=
    fun none => given (String.toList_eq_nil_iff.mp none)
  rw [← Text.afterLast_eq_nil_iff characters, Uri.hostPort, ← String.toList_eq_nil_iff,
    String.toList_ofList]

theorem mem_hostPort_iff {c : Char} :
    c ∈ uri.hostPort.toList ↔
      ∃ before after, uri.authority.toList = before ++ c :: after ∧ '@' ∉ c :: after := by
  rw [Uri.hostPort, String.toList_ofList, Text.mem_afterLast_iff]

theorem not_mem_hostPort (uri : Uri) : '@' ∉ uri.hostPort.toList := by
  rw [Uri.hostPort, String.toList_ofList]
  exact Text.not_mem_afterLast '@' _

end Host

/-- A text has a base URI just if it is an absolute URL with a valid port. The base URI has a
scheme, a rooted path without templates, a prefix that is empty or rooted, and a host without user
information. The host is empty just if the authority ends behind the user information, and it holds
a brace just if the authority holds one behind it. -/
theorem parseBaseUri_parts (text : String) :
    ((parseBaseUri (some text)).outcome = .ok none ∧ ∀ uri, ¬ IsLocated text uri) ∨
      ∃ uri baseUri, IsLocated text uri ∧
        (parseBaseUri (some text)).outcome = .ok (some baseUri) ∧
        baseUri.scheme ≠ "" ∧ '@' ∉ baseUri.host.toList ∧
        (baseUri.host = "" ↔ uri.authority.toList.getLast? = some '@') ∧
        ('\x7b' ∈ baseUri.host.toList ↔ ∃ before after,
          uri.authority.toList = before ++ '\x7b' :: after ∧ '@' ∉ after) ∧
        baseUri.basePath.toList.head? = some '/' ∧ '\x7b' ∉ baseUri.basePath.toList ∧
        (baseUri.hoistedPrefix = "" ∨ baseUri.hoistedPrefix.toList.head? = some '/') := by
  by_cases located : ∃ uri, IsLocated text uri
  · right
    obtain ⟨uri, h⟩ := located
    refine ⟨uri, baseUriOf uri, h, outcome_of_isLocated h, h.scheme, not_mem_hostPort uri,
      hostPort_eq_empty_iff h.authority, ?_, ?_, not_brace_fst_splitBasePath uri.path, ?_⟩
    · rw [show (baseUriOf uri).host = uri.hostPort from rfl, mem_hostPort_iff]
      simp only [List.mem_cons, not_or, show '@' ≠ '\x7b' by decide, not_false_eq_true, true_and]
    · exact congrArg List.head? (toList_fst_splitBasePath uri.path)
    · exact (snd_splitBasePath_cases uri.path).imp_right And.left
  · left
    have nowhere : ∀ uri, ¬ IsLocated text uri := fun uri h => located ⟨uri, h⟩
    exact ⟨outcome_of_not_isLocated nowhere, nowhere⟩

/-- A template in the host stays there, and nothing but user information leaves an empty host. -/
theorem parseBaseUri_templatedHost :
    (parseBaseUri (some "http://\x7bhost\x7d/x")).outcome =
        .ok (some ⟨"\x7bhost\x7d", "http", "/x", ""⟩) ∧
      '\x7b' ∈ "\x7bhost\x7d".toList ∧
      (parseBaseUri (some "http://user@/x")).outcome = .ok (some ⟨"", "http", "/x", ""⟩) := by
  refine ⟨rfl, by decide, rfl⟩

end RamlBridge.Conversion
