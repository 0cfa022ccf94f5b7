import RamlBridge.Proofs.Conversion.Listing
import RamlBridge.Proofs.Conversion.SchemaTexts
import RamlBridge.Proofs.Json.RoundTrip
import RamlBridge.Proofs.Raml.Sources

/-!
A schema that is written as a map, and the same schema written as a text of JSON. Wherever it
stands in a description, the document that comes out does not tell which of them it was.
-/
namespace RamlBridge.Conversion

open Raml (KeptAs Resource Root SchemaInRoot)

/-- The text that a schema written as a map is kept as. -/
def keptText (members : Entries Json) : String :=
  (Json.object members).written .asciiLine

theorem keptAs_ofJson {members : Entries Json}
    (writable : (Json.object members).isWritable = true) :
    KeptAs (.ofJson (.object members)) (keptText members) := by
  have kept := Datum.jsonText_of_json (Datum.json_ofJson writable)
  rw [Datum.ofJson] at kept ⊢
  constructor
  · rw [Raml.schemaText, Raml.jsonText, kept]
    rfl
  · intro k
    simp only [Raml.namedSchema, Raml.jsonText, kept]
    rfl

/-- A schema that is written as a map and a text of JSON that denotes the same object are
interchangeable at every place that holds a schema, for texts in which no halves of a pair stand
next to each other: what is read is converted to the same document, with the same warnings, or is
refused for the same reasons. -/
theorem convert_schemaForms {members : Entries Json} {t : String} {d e : Datum}
    (faithful : (Json.object members).Faithful)
    (apart : (Json.object members).Everywhere Json.IsApart)
    (denotes : Json.parse t = .ok (.object members))
    (place : SchemaInRoot (.ofJson (.object members)) (.text t) d e)
    (undeclared : ∀ root, Root.read d = .accepted root →
      t ∉ Entries.names root.schemas.flatten ∧
        keptText members ∉ Entries.names root.schemas.flatten)
    (indent : Option Int) :
    (Root.read d).map (convert · indent) = (Root.read e).map (convert · indent) := by
  have same : SameSchema (keptText members) t :=
    ⟨members, parseSchema_eq_ok.mpr (Json.parse_written_ascii faithful apart),
      parseSchema_eq_ok.mpr denotes⟩
  have swap : Raml.Interchange (EqualOr (keptText members) t) (.ofJson (.object members))
      (.text t) :=
    ⟨fun _ => Or.inl rfl, _, t, keptAs_ofJson faithful.isWritable, Raml.keptAs_text t,
      Or.inr ⟨rfl, rfl⟩⟩
  have related := Root.related_of_schema swap (respects_sameVisits same) place
  generalize read : Root.read d = outcome at related ⊢
  generalize Root.read e = outcome' at related ⊢
  cases related with
  | @accepted root other corresponds =>
    obtain ⟨ht, hs⟩ := undeclared root read
    exact congrArg Checked.accepted (convert_eq_of_corresponds same corresponds hs ht indent)
  | refused faults => rfl
  | stopped obstacle => rfl

def respondingEntries (v : Datum) : List (Scalar × Datum) :=
  [(.text "get", .map [(.text "responses", .map
    [(.text "200", .map [(.text "body", .map [(.text "schema", v)])])])])]

def respondingWith (v : Datum) : Datum :=
  Raml.petsApi "text/json" (respondingEntries v)

theorem schemaInRoot_respondingWith (v w : Datum) :
    SchemaInRoot v w (respondingWith v) (respondingWith w) := by
  have keys : Alike (fun _ _ => True) [(Scalar.text "schema", v)] [(.text "schema", Datum.null)] :=
    .cons ⟨rfl, trivial⟩ .nil
  have noSlash : Raml.holdsSlash [(.text "schema", v)] = false :=
    (Raml.holdsSlash_eq keys).trans (by decide)
  exact .path rfl (.mk [_] []) (.method rfl (by decide) (.mk [] [])
    (.response (.mk [] []) (.mk [] []) (.body (.mk [] []) (.single noSlash (.mk [] [])))))

def petSchema : Entries Json :=
  [("type", .text "object")]

theorem faithful_petSchema : (Json.object petSchema).Faithful :=
  Json.Faithful.single ⟨trivial, trivial⟩

theorem apart_petSchema : (Json.object petSchema).Everywhere Json.IsApart :=
  Json.apart_single (Json.halvesApart_of_holdsHalf (by decide))
    (Json.halvesApart_of_holdsHalf (by decide))

/-- The same schema on lines of its own, which is not the text that it is kept as. -/
def petText : String :=
  (Json.object petSchema).written (.indented (some 2))

theorem read_respondingWith :
    ∃ root, Root.read (respondingWith (.ofJson (.object petSchema))) = .accepted root := by
  have resource : ∃ r, Resource.ofEntries (.text "text/json")
      (respondingEntries (.ofJson (.object petSchema))) = .accepted r := by
    rw [Resource.ofEntries_eq]
    exact ⟨_, rfl⟩
  obtain ⟨r, read⟩ := resource
  exact ⟨_, Raml.read_petsApi read⟩

/-- A schema of a response is read from a map and from a text alike. -/
theorem convert_schemaForms_responding :
    keptText petSchema ≠ petText ∧
      (∃ root, Root.read (respondingWith (.ofJson (.object petSchema))) = .accepted root) ∧
      (Root.read (respondingWith (.ofJson (.object petSchema)))).map (convert · (some 2)) =
        (Root.read (respondingWith (.text petText))).map (convert · (some 2)) := by
  refine ⟨by decide +kernel, read_respondingWith, ?_⟩
  refine convert_schemaForms faithful_petSchema apart_petSchema
    (Json.parse_written rfl faithful_petSchema) (schemaInRoot_respondingWith _ _) ?_ (some 2)
  intro root read
  have nothing : root.schemas = [] :=
    (Checked.accepted.inj (Root.ensures_schemas _ _ root read)).symm
  rw [nothing]
  exact ⟨List.not_mem_nil, List.not_mem_nil⟩

/-- A name that is made of the two halves of a pair, and the name that they are read as. -/
def halvedSchema : Entries Json :=
  [(String.ofList [Text.ofCode 0xd83d, Text.ofCode 0xde00], .bool true)]

def joinedSchema : Entries Json :=
  [(String.ofList [Char.ofNat 0x1f600], .bool true)]

def halvedText : String :=
  (Json.object halvedSchema).written (.indented none)

theorem convert_declaringRoot {s : String} {members : Entries Json}
    (parsed : parseSchema s = .ok members) (writable : (definingX members).IsWritable)
    (indent : Option Int) :
    (convert (declaringRoot s) indent).outcome =
      .ok ((definingX members).toJson.encodable.written (.indented indent)) := by
  rw [convert, Report.outcome_bind, document_declaringRoot parsed, ok_bind,
    documentText_of_isWritable writable]

theorem faithful_halvedSchema : (Json.object halvedSchema).Faithful :=
  Json.Faithful.single ⟨trivial, trivial⟩

/-- The halves of a pair in a map are kept as the codes of one character, and so come out as that
character, which they do not where the schema is written as a text. -/
theorem convert_schemaForms_halved :
    (Json.object halvedSchema).Faithful ∧ Json.parse halvedText = .ok (.object halvedSchema) ∧
      SchemaInRoot (.ofJson (.object halvedSchema)) (.text halvedText)
        (declaring (.ofJson (.object halvedSchema))) (declaring (.text halvedText)) ∧
      ∃ root other text text',
        Root.read (declaring (.ofJson (.object halvedSchema))) = .accepted root ∧
        Root.read (declaring (.text halvedText)) = .accepted other ∧
        halvedText ∉ Entries.names root.schemas.flatten ∧
        keptText halvedSchema ∉ Entries.names root.schemas.flatten ∧
        (convert root (some 2)).outcome = .ok text ∧
        (convert other (some 2)).outcome = .ok text' ∧
        text ≠ text' := by
  have parsedHalved : Json.parse halvedText = .ok (.object halvedSchema) :=
    Json.parse_written rfl faithful_halvedSchema
  have parsedJoined : Json.parse (keptText halvedSchema) = .ok (.object joinedSchema) := by
    have same : keptText halvedSchema = (Json.object joinedSchema).written .asciiLine := by
      decide +kernel
    rw [same]
    exact Json.parse_written_ascii (Json.Faithful.single ⟨trivial, trivial⟩)
      (Json.apart_single (Json.halvesApart_of_holdsHalf (by decide)) trivial)
  have writableHalved : (definingX halvedSchema).IsWritable :=
    ⟨by decide +kernel, by decide +kernel⟩
  have writableJoined : (definingX joinedSchema).IsWritable :=
    ⟨by decide +kernel, by decide +kernel⟩
  refine ⟨faithful_halvedSchema, parsedHalved, .declared (.mk [] []) (.mk [] []),
    declaringRoot (keptText halvedSchema), declaringRoot halvedText, _, _, rfl, rfl,
    by decide +kernel, by decide +kernel,
    convert_declaringRoot (parseSchema_eq_ok.mpr parsedJoined) writableJoined _,
    convert_declaringRoot (parseSchema_eq_ok.mpr parsedHalved) writableHalved _,
    by decide +kernel⟩

end RamlBridge.Conversion
