import RamlBridge.Proofs.Conversion.BasePath
import RamlBridge.Proofs.Conversion.Report
import RamlBridge.Proofs.Uri.Written

/-!
A base URI without the templated segments of its path. There always is one: the same scheme and
authority with the fixed segments behind them.
-/
namespace RamlBridge.Conversion

def BaseUri.fixed (uri : BaseUri) : BaseUri :=
  { uri with hoistedPrefix := "" }

theorem parse_empty : Uri.parse "" = some ⟨"", "", "", "", "", ""⟩ := by
  decide

theorem isUrl_iff {text : String} :
    Uri.isUrl text = true ↔ ∃ uri, Uri.parse text = some uri ∧ uri.scheme ≠ "" ∧
      uri.authority ≠ "" := by
  unfold Uri.isUrl
  cases parsed : Uri.parse text with
  | none => exact iff_of_false Bool.false_ne_true fun ⟨uri, h, _⟩ => Option.some_ne_none uri h.symm
  | some uri =>
    simp only [Bool.and_eq_true, bne_iff_ne, Option.some.injEq, exists_eq_left']

/-- A base URI that cannot be taken apart is left out with a warning. -/
theorem parseBaseUri_outcome (text : Option String) :
    ∃ baseUri, (parseBaseUri text).outcome = .ok baseUri := by
  unfold parseBaseUri
  split
  · exact ⟨_, rfl⟩
  · split
    · exact ⟨_, rfl⟩
    · split
      · exact ⟨_, rfl⟩
      · split
        · exact ⟨_, rfl⟩
        · exact ⟨_, rfl⟩

/-- A base URI is read from an absolute URL with a port that can be one. -/
theorem parseBaseUri_eq_some {text : String} {baseUri : BaseUri} :
    (parseBaseUri (some text)).outcome = .ok (some baseUri) ↔
      ∃ uri, Uri.parse text = some uri ∧ uri.scheme ≠ "" ∧ uri.authority ≠ "" ∧
        uri.hasValidPort = true ∧ baseUri = ⟨uri.hostPort, uri.scheme,
          (splitBasePath uri.path).1, (splitBasePath uri.path).2⟩ := by
  by_cases url : Uri.isUrl text = true
  · obtain ⟨uri, parsed, scheme, authority⟩ := isUrl_iff.mp url
    have given : text ≠ "" := by
      rintro rfl
      rw [parse_empty] at parsed
      cases parsed
      exact scheme rfl
    simp only [parseBaseUri, if_neg given, if_pos url, parsed, Option.some.injEq, exists_eq_left',
      scheme, authority, ne_eq, not_false_eq_true, true_and]
    by_cases port : uri.hasValidPort = true
    · simp only [port, if_true, Report.outcome_ok, Except.ok.injEq, Option.some.injEq, true_and]
      exact eq_comm
    · simp only [port, if_false, Report.outcome_warned, Except.ok.injEq, reduceCtorEq, false_and]
  · constructor
    · intro h
      rw [parseBaseUri] at h
      split at h
      · cases h
      · cases h
    · rintro ⟨uri, parsed, scheme, authority, _⟩
      exact absurd (isUrl_iff.mpr ⟨uri, parsed, scheme, authority⟩) url

/-- The path of fixed segments: between slashes, and with one in front and one behind. -/
def pathOf (pieces : List (List Char)) : List Char :=
  '/' :: (Text.join '/' pieces ++ ['/'])

theorem mem_pathOf {pieces : List (List Char)} {c : Char} (h : c ∈ pathOf pieces) :
    c = '/' ∨ ∃ piece ∈ pieces, c ∈ piece := by
  rcases List.mem_cons.mp h with rfl | h
  · exact Or.inl rfl
  · rcases List.mem_append.mp h with inside | last
    · exact Text.mem_join inside
    · exact Or.inl (List.mem_singleton.mp last)

theorem segments_pathOf {pieces : List (List Char)}
    (h : ∀ piece ∈ pieces, piece ≠ [] ∧ '/' ∉ piece) :
    segments (String.ofList (pathOf pieces)) = pieces := by
  rw [pathOf, ← List.cons_append, segments_append_slash]
  exact segments_rooted h

theorem splitBasePath_pathOf (path : String) :
    splitBasePath (String.ofList (pathOf (fixedSegments path))) = ((splitBasePath path).1, "") := by
  have again : segments (String.ofList (pathOf (fixedSegments path))) = fixedSegments path :=
    segments_pathOf ((areSegments_segments path).filter _)
  have fixed : ∀ s ∈ segments (String.ofList (pathOf (fixedSegments path))),
      isTemplated s = false := by
    rw [again]
    exact isTemplated_fixed
  rw [splitBasePath_of_fixed fixed, again]
  rfl

/-- Host and port are those of the authority. -/
theorem hostPort_eq (uri : Uri) (path : String) :
    Uri.hostPort ⟨uri.scheme, uri.authority, path, "", "", ""⟩ = uri.hostPort := by
  rw [Uri.hostPort, Uri.hostPort]

theorem hasValidPort_eq (uri : Uri) (path : String) :
    Uri.hasValidPort ⟨uri.scheme, uri.authority, path, "", "", ""⟩ = uri.hasValidPort := by
  rw [Uri.hasValidPort, Uri.hasValidPort, Uri.portText, Uri.portText, hostPort_eq]

/-- Every base URI has one without its prefix. -/
theorem exists_fixed {text : String} {baseUri : BaseUri}
    (h : (parseBaseUri (some text)).outcome = .ok (some baseUri)) :
    ∃ other, (parseBaseUri (some other)).outcome = .ok (some baseUri.fixed) := by
  obtain ⟨uri, parsed, scheme, authority, port, rfl⟩ := parseBaseUri_eq_some.mp h
  obtain ⟨name, isScheme, lower, isAuthority, inAuthority, inPath⟩ :=
    Uri.parts_of_parse parsed scheme
  have writable : Uri.Writable name uri.authority.toList (pathOf (fixedSegments uri.path)) := by
    refine ⟨isScheme, isAuthority, inAuthority, ⟨_, rfl⟩, fun c hc => ?_⟩
    rcases mem_pathOf hc with rfl | ⟨piece, hpiece, hc⟩
    · decide
    · exact inPath c ((mem_segments (List.mem_filter.mp hpiece).1).2 c hc).1
  have read := Uri.parse_written writable
  rw [String.ofList_toList, ← lower] at read
  have validPort :=
    (hasValidPort_eq uri (String.ofList (pathOf (fixedSegments uri.path)))).trans port
  refine ⟨_, parseBaseUri_eq_some.mpr ⟨_, read, scheme, authority, validPort, ?_⟩⟩
  rw [hostPort_eq, splitBasePath_pathOf]
  rfl

end RamlBridge.Conversion
