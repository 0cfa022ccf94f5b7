import RamlBridge.Proofs.Conversion.Listing
import RamlBridge.Proofs.Json.RoundTrip

/-!
The text of a document denotes the document, whatever the indentation.
-/
namespace RamlBridge.Conversion

/-- The text of an object is read as its members, in order. -/
theorem parseSchema_written {members : Entries Json} (faithful : (Json.object members).Faithful)
    (indent : Option Int) :
    parseSchema ((Json.object members).written (.indented indent)) = .ok members :=
  parseSchema_eq_ok.mpr (Json.parse_written rfl faithful)

/-- A document is listed as an object. -/
theorem listing_eq_object {swagger : Swagger.Document} {v : Json}
    (listed : swagger.listing = .ok v) :
    ∃ members, v = .object members ∧ swagger.toJson.encodable = .object members := by
  rw [Swagger.Document.listing] at listed
  split at listed
  · cases listed
  · cases listed
    exact ⟨_, rfl, rfl⟩

/-- A text that comes out is that of the document, and every other width gives one too. -/
theorem convert_eq_ok {root : Raml.Root} {indent : Option Int} {text : String}
    (h : (convert root indent).outcome = .ok text) :
    ∃ swagger members, (document root).outcome = .ok swagger ∧
      swagger.listing = .ok (.object members) ∧
      swagger.toJson.encodable = .object members ∧
      (Json.object members).write (.indented indent) = some text ∧
      ∀ other, (convert root other).outcome =
        .ok ((Json.object members).written (.indented other)) := by
  rw [convert, Report.outcome_bind] at h
  obtain ⟨swagger, made, h⟩ := bind_eq_ok h
  cases listed : swagger.listing with
  | error fault =>
    rw [documentText, listed] at h
    cases h
  | ok v =>
    obtain ⟨members, rfl, same⟩ := listing_eq_object listed
    have written : (Json.object members).write (.indented indent) = some text := by
      rw [documentText, listed] at h
      simp only at h
      split at h
      · next written => exact written.trans (congrArg some (Except.ok.inj h))
      · cases h
    refine ⟨swagger, members, made, listed, same, written, ?_⟩
    -- Whether there is a text at all does not depend on the width.
    have writable := (Json.write_eq_some written).1
    intro other
    rw [convert, Report.outcome_bind, made, ok_bind, documentText, listed]
    simp only [Json.write_of_isWritable _ writable]
    rfl

/-- A document that can be written has a text. -/
theorem convert_of_document {root : Raml.Root} {swagger : Swagger.Document}
    (made : (document root).outcome = .ok swagger) (writable : swagger.IsWritable)
    (indent : Option Int) :
    (convert root indent).outcome =
      .ok (swagger.toJson.encodable.written (.indented indent)) := by
  rw [convert, Report.outcome_bind, made, ok_bind, documentText_of_isWritable writable]

/-- The text of an object of exact numbers and distinct names denotes it, in the order of its
members. So the text of every document of exact numbers denotes that document, whatever the
indentation. -/
theorem text_denotes_document :
    (∀ members indent, (Json.object members).Faithful →
      ∃ text, (Json.object members).write (.indented indent) = some text ∧
        parseSchema text = .ok members) ∧
    ∀ root indent text, Raml.Root.IsExact root → (convert root indent).outcome = .ok text →
      ∃ swagger members, (document root).outcome = .ok swagger ∧
        swagger.listing = .ok (.object members) ∧ parseSchema text = .ok members ∧
        ∀ other, ∃ text', (convert root other).outcome = .ok text' ∧
          parseSchema text' = .ok members := by
  constructor
  · intro members indent faithful
    exact ⟨_, Json.write_of_isWritable _ faithful.isWritable, parseSchema_written faithful indent⟩
  · intro root indent text exact converted
    obtain ⟨swagger, members, made, listed, same, written, texts⟩ := convert_eq_ok converted
    have faithful := Json.faithful_encodable (everywhere_document Json.ofNumbers_isExact exact made)
    rw [same] at faithful
    refine ⟨swagger, members, made, listed, ?_, ?_⟩
    · rw [(Json.write_eq_some written).2]
      exact parseSchema_written faithful indent
    · intro other
      exact ⟨_, texts other, parseSchema_written faithful other⟩

/-- An object of characters that need escapes, of empty collections, and of one name at two
depths. -/
def escapedObject : Entries Json :=
  [("a\"\\", .array [.null, .int (-12), .text "\n\x01\x7f", .array [], .object []]),
    ("b", .object [("a\"\\", .bool true), ("", .int 0)])]

theorem faithful_escapedObject : (Json.object escapedObject).Faithful := by
  constructor
  · simp only [escapedObject, Json.Everywhere, Json.InMembers, Json.InItems, Json.IsExact]
    have twelve := Decimal.length_digits_le (n := 12) (k := 1) (by decide)
    have zero := Decimal.length_digits_le (n := 0) (k := 0) (by decide)
    have few : 2 ≤ Decimal.mostDigits := by decide
    simp only [true_and, and_true]
    exact ⟨Nat.le_trans twelve few, Nat.le_trans zero (by decide)⟩
  · simp only [escapedObject, Json.Everywhere, Json.InMembers, Json.InItems, Json.IsDistinct]
    decide

def boundedLimit : Raml.Parameter :=
  { Raml.Parameter.plain false with
    minimum := some (.int (-5))
    sample := .map [(.int 1, .list [.null, .text "\t"])] }

def boundedAction : Raml.Action :=
  ⟨none, [], [("limit", boundedLimit)], [("application/json", ⟨some "Pet", .null⟩)], []⟩

def boundedResource : Raml.Resource :=
  ⟨none, none, [], [("get", boundedAction)], []⟩

def boundedRoot : Raml.Root :=
  ⟨"\"T\"\n", none, none, [], none, [], [], [[("Pet", "\x7b\x7d")]], [],
    [("/pets", boundedResource)]⟩

theorem every_boundedRoot {P : Raml.Parameter → Prop} {T : String → Prop}
    (limit : P boundedLimit) (declared : T "\x7b\x7d") (used : T "Pet") :
    boundedRoot.Every P T := by
  have only : ∀ keys r, Raml.Leads boundedRoot.resources keys r → r = boundedResource := by
    intro keys r leads
    obtain ⟨p, hp, _, rfl⟩ := Raml.mem_places_of_leads leads
    have one : p ∈ [⟨[], "/pets", boundedResource⟩] := hp
    rw [List.mem_singleton.mp one]
  refine ⟨⟨fun p hp => absurd hp List.not_mem_nil, ?uri, ?headers, ?query⟩, ?declared, ?used⟩
  case uri =>
    intro keys r leads p hp
    rw [only keys r leads] at hp
    exact absurd hp List.not_mem_nil
  case headers =>
    intro keys r leads a ha p hp
    rw [only keys r leads] at ha
    rw [List.mem_singleton.mp ha] at hp
    exact absurd hp List.not_mem_nil
  case query =>
    intro keys r leads a ha p hp
    rw [only keys r leads] at ha
    rw [List.mem_singleton.mp ha] at hp
    rwa [List.mem_singleton.mp hp]
  case declared =>
    intro p hp
    rwa [List.mem_singleton.mp hp]
  case used =>
    intro keys r leads a ha text htext
    rw [only keys r leads] at ha
    rw [List.mem_singleton.mp ha] at htext
    have named : text = "Pet" := List.mem_singleton.mp htext
    rwa [named]

theorem isExact_boundedRoot : boundedRoot.IsExact := by
  refine every_boundedRoot ?limit ?declared ?used
  case limit =>
    have five := Decimal.length_digits_le (n := 5) (k := 0) (by decide)
    have few : 1 ≤ Decimal.mostDigits := by decide
    have given : Raml.Parameter.values boundedLimit =
        [.object [(Scalar.memberName (.int 1), .array [.null, .text "\t"])], .null, .int (-5)] :=
      rfl
    simp only [given, List.forall_mem_cons, Json.ofNumbers_isExact.everywhere_object,
      Json.ofNumbers_isExact.everywhere_array]
    exact ⟨⟨⟨trivial, trivial, by simp⟩, by simp⟩, trivial, Nat.le_trans five few, by simp⟩
  case declared =>
    intro v parsed
    cases parsed
    trivial
  case used =>
    intro v parsed
    cases parsed

theorem isListable_boundedRoot : boundedRoot.IsListable := by
  refine every_boundedRoot (by decide +kernel) ?_ ?_
  · intro members parsed
    cases parsed
    rfl
  · intro members parsed
    cases parsed

theorem document_boundedRoot :
    ∃ swagger, (document boundedRoot).outcome = .ok swagger ∧ swagger.IsWritable := by
  have made : ∃ swagger, (document boundedRoot).outcome = .ok swagger := by
    rw [document, Report.outcome_told, assemble_outcome]
    exact ⟨_, rfl⟩
  obtain ⟨swagger, made⟩ := made
  have exact := everywhere_document Json.ofNumbers_isExact isExact_boundedRoot made
  exact ⟨swagger, made,
    listingFault?_eq_none.mpr (every_document passesOver_listable isListable_boundedRoot made),
    (Json.faithful_encodable exact).isWritable⟩

/-- Both texts of the description are read as one document. -/
theorem text_denotes_document_bounded :
    (∃ text, (Json.object escapedObject).write (.indented (some (-1))) = some text ∧
      parseSchema text = .ok escapedObject) ∧
    ∃ swagger members text text', (document boundedRoot).outcome = .ok swagger ∧
      swagger.listing = .ok (.object members) ∧
      (convert boundedRoot (some 2)).outcome = .ok text ∧ parseSchema text = .ok members ∧
      (convert boundedRoot none).outcome = .ok text' ∧ parseSchema text' = .ok members := by
  refine ⟨text_denotes_document.1 _ _ faithful_escapedObject, ?_⟩
  obtain ⟨swagger, made, writable⟩ := document_boundedRoot
  have converted := convert_of_document made writable (some 2)
  obtain ⟨_, members, made, listed, read, others⟩ :=
    text_denotes_document.2 boundedRoot (some 2) _ isExact_boundedRoot converted
  obtain ⟨text', converted', read'⟩ := others none
  exact ⟨_, members, _, text', made, listed, converted, read, converted', read'⟩

end RamlBridge.Conversion
