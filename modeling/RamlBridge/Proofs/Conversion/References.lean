import RamlBridge.Proofs.Conversion.DocumentText
import RamlBridge.Proofs.Conversion.Schemas
import RamlBridge.Proofs.Json.Pointer
import RamlBridge.Proofs.Raml.Root

/-!
The references of a document. A declared name is put behind the pointer to the definitions as it
stands, so that the reference leads to its definition only if the name is its own token.
-/
namespace RamlBridge.Conversion

open Json (IsVerbatim pointerTokens)
open Raml (places)

def definitionJson (definition : Entries Json) : Json :=
  (Json.object (Json.finiteMembers definition)).encodable

/-- The reference to a name points at the member of that name among the definitions, and there
stands its definition. -/
def LeadsToDefinition (swagger : Swagger.Document) (v : Json) (name : String) : Prop :=
  ∃ pointer definition, Registry.reference name = [("$ref", .text pointer)] ∧
    pointerTokens pointer = ["definitions", name] ∧
    swagger.definitions.find? name = some definition ∧
    v.follow (pointerTokens pointer) = some (definitionJson definition)

/-- Wherever the schema of an action is a declared name, its operation refers to that name. -/
structure RefersByName (declared : List String) (action : Raml.Action)
    (operation : Swagger.Operation) : Prop where
  body : ∀ name ∈ declared, IsFirstSchema action.bodies name →
    parametersAt .body operation = [bodyParameter (some (Registry.reference name))]
  responses : ∀ name ∈ declared, ∀ code r, (code, r) ∈ action.responses →
    IsFirstSchema r.bodies name → ∃ response, (code, response) ∈ operation.responses ∧
      response.schema = some (Registry.reference name)

section Emitted

variable {declared : List String} {bodies : Entries Raml.Body}

theorem Emits.eq_reference {schema : Option (Entries Json)} (h : Emits declared bodies schema)
    {name : String} (first : IsFirstSchema bodies name) (known : name ∈ declared) :
    schema = some (Registry.reference name) := by
  have firstOf {text : String} (other : IsFirstSchema bodies text) : text = name := by
    have same := firstSchema_eq_some_iff.mpr other
    rw [firstSchema_eq_some_iff.mpr first] at same
    exact (Option.some.inj same).symm
  cases h with
  | absent none =>
    have nothing := firstSchema_eq_none_iff.mpr none
    rw [firstSchema_eq_some_iff.mpr first] at nothing
    cases nothing
  | reference other _ =>
    rw [firstOf other]
    rfl
  | inline other undeclared _ =>
    rw [firstOf other] at undeclared
    exact absurd known undeclared

theorem IsFirstSchema.ne_nil {name : String} (h : IsFirstSchema bodies name) : bodies ≠ [] := by
  obtain ⟨before, mediaType, body, after, rfl, _⟩ := h
  exact List.append_ne_nil_of_right_ne_nil _ (List.cons_ne_nil _ _)

theorem refersByName_of_mapOperation {schemas : List (Entries String)} {registry : Registry}
    (known : (Registry.empty.registerAll schemas).outcome = .ok registry) {scope : Scope}
    {action : Raml.Action} {operation : Swagger.Operation}
    (h : mapOperation registry scope action = .ok operation) :
    RefersByName (Entries.names schemas.flatten) action operation := by
  constructor
  · intro name hname first
    obtain ⟨schema, emits, atBody⟩ :=
      (schemasShown_of_mapOperation known h).body first.ne_nil
    rw [atBody, emits.eq_reference first hname]
  · intro name hname code r hr first
    obtain ⟨body, responses, _, hresponses, rfl⟩ := mapOperation_eq_ok h
    obtain ⟨response, hmem, resolved⟩ := mapResponses_of_mem hresponses hr
    exact ⟨response, hmem, (emits_of_resolveFirst known resolved).eq_reference first hname⟩

end Emitted

section Listed

theorem child?_encodable (members : List (String × Json)) (token : String) :
    (Json.object members).encodable.child? token =
      Entries.last? (members.map fun m => (Text.withoutHalves m.1, m.2.encodable)) token := by
  rw [Json.encodable, Json.child?, Json.encodableMembers_eq, Entries.find?_ofList]

/-- A member that is there stands under its name if no later one is written like it. -/
theorem child?_present {before after : List (String × Option Json)} {name : String} {value : Json}
    (whole : Text.holdsHalf name = false)
    (last : ∀ p ∈ after, Text.withoutHalves p.1 ≠ name) :
    (Swagger.present (before ++ (name, some value) :: after)).encodable.child? name =
      some value.encodable := by
  rw [Swagger.present, child?_encodable, List.filterMap_append, List.filterMap_cons,
    Option.map_some, List.map_append, List.map_cons, Json.withoutHalves_of_whole whole]
  apply Entries.last?_of_split
  intro again
  obtain ⟨m, hm, same⟩ := List.mem_map.mp again
  obtain ⟨n, hn, rfl⟩ := List.mem_map.mp hm
  obtain ⟨p, hp, given⟩ := List.mem_filterMap.mp hn
  obtain ⟨x, _, rfl⟩ := Option.map_eq_some_iff.mp given
  exact last p hp same

variable {swagger : Swagger.Document} {v : Json}

/-- The definitions stand in the document under their own name. -/
theorem child?_definitions (listed : swagger.listing = .ok v) :
    v.child? "definitions" =
      some (Json.ofEntries (fun ms => .object (Json.finiteMembers ms))
        swagger.definitions).encodable := by
  rw [Swagger.Document.listing] at listed
  split at listed
  · cases listed
  · cases listed
    have parts : swagger.toJson = Swagger.present ([
        ("swagger", some (.text "2.0")),
        ("info", some swagger.info.toJson),
        ("host", Swagger.textMember swagger.host),
        ("basePath", Swagger.textMember swagger.basePath),
        ("schemes", Swagger.textList swagger.schemes),
        ("paths", some (.ofEntries Swagger.PathItem.toJson swagger.paths))] ++
      ("definitions", some (.ofEntries (fun ms => .object (Json.finiteMembers ms))
        swagger.definitions)) ::
      [("securityDefinitions",
        swagger.securityDefinitions.map (.ofEntries Swagger.SecurityDefinition.toJson))]) := rfl
    have other : Text.withoutHalves "securityDefinitions" ≠ "definitions" := by decide
    rw [parts]
    apply child?_present (by decide)
    intro p hp
    rw [List.mem_singleton.mp hp]
    exact other

/-- What the two tokens of a reference lead to: the last definition whose name is written so. -/
theorem follow_definitions (listed : swagger.listing = .ok v) (name : String) :
    v.follow ["definitions", name] =
      Entries.last? (swagger.definitions.map fun p =>
        (Text.withoutHalves p.1, definitionJson p.2)) name := by
  rw [Json.follow, child?_definitions listed, Option.bind_some, Json.follow, Json.ofEntries,
    child?_encodable, Entries.mapValues, List.map_map]
  exact Option.bind_fun_some _

theorem follow_definitions_eq_none (listed : swagger.listing = .ok v) {name : String} :
    v.follow ["definitions", name] = none ↔
      name ∉ swagger.definitions.names.map Text.withoutHalves := by
  rw [follow_definitions listed, Entries.last?_eq_none, Entries.names, Entries.names,
    List.map_map, List.map_map]
  rfl

/-- No name of the document holds half a surrogate pair. -/
theorem follow_of_half (listed : swagger.listing = .ok v) {name : String}
    (half : Text.holdsHalf name = true) : v.follow ["definitions", name] = none := by
  rw [follow_definitions_eq_none listed]
  intro found
  obtain ⟨other, _, rfl⟩ := List.mem_map.mp found
  rw [Json.holdsHalf_withoutHalves] at half
  cases half

theorem pointerTokens_reference (name : String) :
    pointerTokens ("#/definitions/" ++ name) = ["definitions", name] ↔ IsVerbatim name := by
  have text : "#/definitions/" ++ name = "#/definitions" ++ "/" ++ name := rfl
  have tokens : pointerTokens "#/definitions" = ["definitions"] := by decide
  rw [text, ← Json.pointerTokens_append_iff, tokens, List.singleton_append]

/-- The reference to a declared name leads to its definition if and only if the name is its own
token and can be encoded. -/
theorem leadsToDefinition_iff (listed : swagger.listing = .ok v)
    (distinct : swagger.definitions.names.Nodup) {name : String}
    (declared : name ∈ swagger.definitions.names)
    (alone : ∀ other ∈ swagger.definitions.names, Text.withoutHalves other = name →
      other = name) :
    LeadsToDefinition swagger v name ↔ IsVerbatim name ∧ Text.holdsHalf name = false := by
  constructor
  · rintro ⟨pointer, definition, written, tokens, _, there⟩
    cases written
    refine ⟨(pointerTokens_reference name).mp tokens, ?_⟩
    rw [tokens] at there
    rw [← Bool.not_eq_true]
    intro half
    rw [follow_of_half listed half] at there
    cases there
  · rintro ⟨verbatim, whole⟩
    have tokens := (pointerTokens_reference name).mpr verbatim
    have known : (swagger.definitions.find? name).isSome = true :=
      Entries.contains_iff.mpr declared
    obtain ⟨definition, found⟩ := Option.isSome_iff_exists.mp known
    refine ⟨_, definition, rfl, tokens, found, ?_⟩
    rw [tokens, follow_definitions listed]
    exact Entries.last?_of_renamed definitionJson distinct found
      (Json.withoutHalves_of_whole whole) alone

end Listed

/-- In the document of which the text comes out, a body or a response whose schema is a declared
name refers to that name, and the reference leads to the definition of the name if and only if the
name is its own token and can be encoded. Only a name that another is written like is left out. -/
theorem references_document {root : Raml.Root} {indent : Option Int} {text : String}
    (converted : (convert root indent).outcome = .ok text) :
    ∃ swagger v baseUri, (document root).outcome = .ok swagger ∧ swagger.listing = .ok v ∧
      v.write (.indented indent) = some text ∧ (parseBaseUri root.baseUri).outcome = .ok baseUri ∧
      (∀ path item method operation, swagger.paths.find? path = some item →
        item.find? method = some operation →
        ∃ p q, Entries.last? ((places root.resources).map fun p =>
            (prefixOf baseUri ++ p.uri, p)) path = some p ∧
          Entries.last? (p.resource.actions.map fun q => (Text.lower q.1, q)) method = some q ∧
          RefersByName (Entries.names root.schemas.flatten) q.2 operation) ∧
      ∀ name ∈ Entries.names root.schemas.flatten,
        (∀ other ∈ Entries.names root.schemas.flatten, Text.withoutHalves other = name →
          other = name) →
        (LeadsToDefinition swagger v name ↔ IsVerbatim name ∧ Text.holdsHalf name = false) := by
  obtain ⟨swagger, members, made, listed, _, written, _⟩ := convert_eq_ok converted
  obtain ⟨baseUri, registry, parts⟩ := assembled_of_document made
  have names : swagger.definitions.names =
      firstOccurrences (Entries.names root.schemas.flatten) := by
    rw [parts.definitions_eq, Registry.names_registerAll parts.schemas_declared]
  refine ⟨swagger, .object members, baseUri, made, listed, written,
    parts.baseUri_read, ?_, ?_⟩
  · intro path item method operation hitem hoperation
    obtain ⟨p, hp, atPlace⟩ := source_of_mapPaths parts.paths_mapped hitem
    obtain ⟨q, hq, ofAction⟩ := source_of_mapActions atPlace hoperation
    exact ⟨p, q, hp, hq, refersByName_of_mapOperation parts.schemas_declared ofAction⟩
  · intro name declared alone
    have distinct : swagger.definitions.names.Nodup := by
      rw [names]
      exact nodup_firstOccurrences _
    have known (other : String) : other ∈ swagger.definitions.names ↔
        other ∈ Entries.names root.schemas.flatten := by
      rw [names, mem_firstOccurrences]
    refine leadsToDefinition_iff listed distinct ((known name).mpr declared) ?_
    intro other hother
    exact alone other ((known other).mp hother)

theorem writable_sharedSchemas :
    ∃ swagger item operation, (document sharedSchemas).outcome = .ok swagger ∧
      swagger.paths.find? "/pets" = some item ∧ item.find? "post" = some operation ∧
      swagger.IsWritable := by
  rw [document, Report.outcome_told, assemble_outcome]
  exact ⟨_, _, _, rfl, rfl, rfl, rfl, rfl⟩

/-- The reference to a name that could be read as JSON leads to its definition. -/
theorem references_document_shared :
    ∃ text swagger v item operation, (convert sharedSchemas (some 2)).outcome = .ok text ∧
      (document sharedSchemas).outcome = .ok swagger ∧ swagger.listing = .ok v ∧
      swagger.paths.find? "/pets" = some item ∧ item.find? "post" = some operation ∧
      parametersAt .body operation =
        [bodyParameter (some (Registry.reference "\x7b\x7d"))] ∧
      LeadsToDefinition swagger v "\x7b\x7d" := by
  obtain ⟨swagger, item, operation, made, hitem, hoperation, writable⟩ :=
    writable_sharedSchemas
  have converted := convert_of_document made writable (some 2)
  obtain ⟨_, v, baseUri, made', listed, _, hbaseUri, refers, leads⟩ :=
    references_document converted
  rw [made] at made'
  cases made'
  cases hbaseUri
  obtain ⟨p, q, hp, hq, byName⟩ := refers _ _ _ _ hitem hoperation
  cases hp
  cases hq
  have first : IsFirstSchema postingAction.bodies "\x7b\x7d" := firstSchema_eq_some_iff.mp rfl
  refine ⟨_, swagger, v, item, operation, converted, made, listed, hitem, hoperation,
    byName.body _ (by decide) first, ?_⟩
  refine (leads "\x7b\x7d" (by decide) (by decide)).mpr ⟨⟨by decide, by decide, by decide⟩, ?_⟩
  decide

def slashedResource : List (Scalar × Datum) :=
  [(.text "get", .map [(.text "responses", .map [(.text "200", .map [(.text "body",
    .map [(.text "application/json", .map [(.text "schema", .text "a/b")])])])])])]

def slashedDescription : Datum :=
  .map [(.text "schemas", .list [.map [(.text "a/b", .text "\x7b\x7d")]]),
    (.text "/p", .map slashedResource)]

def slashedRoot : Raml.Root :=
  ⟨"", none, none, [], none, [], [], [[("a/b", "\x7b\x7d")]], [],
    [("/p", ⟨none, none, [], [("get", ⟨none, [], [], [],
      [("200", ⟨none, [("application/json", ⟨some "a/b", .null⟩)]⟩)]⟩)], []⟩)]⟩

theorem read_slashedResource :
    Raml.Resource.read .null (.map slashedResource) = .accepted ⟨none, none, [], [("get",
      ⟨none, [], [], [], [("200", ⟨none, [("application/json", ⟨some "a/b", .null⟩)]⟩)]⟩)], []⟩ :=
  (Raml.Resource.ofEntries_eq .null slashedResource).trans rfl

theorem read_slashedDescription : Raml.Root.read slashedDescription = .accepted slashedRoot := by
  have resources : Raml.topResources [(.text "schemas", .list [.map [(.text "a/b",
        .text "\x7b\x7d")]]), (.text "/p", .map slashedResource)] =
    .accepted [(.text "/p", .map slashedResource)] := rfl
  change Raml.Root.ofEntries .null _ = _
  simp only [Raml.Root.ofEntries, resources, Checked.andThen, List.map_cons, List.map_nil,
    read_slashedResource]
  rfl

theorem document_slashedRoot :
    ∃ swagger item operation, (document slashedRoot).outcome = .ok swagger ∧
      swagger.IsWritable ∧ swagger.definitions.names = ["a/b"] ∧
      swagger.paths.find? "/p" = some item ∧ item.find? "get" = some operation ∧
      operation.responses =
        [("200", ⟨some "OK", some [("$ref", .text "#/definitions/a/b")]⟩)] := by
  rw [document, Report.outcome_told, assemble_outcome]
  exact ⟨_, _, _, rfl, ⟨rfl, rfl⟩, rfl, rfl, rfl, rfl⟩

/-- The reference of the response leads nowhere: the slash in the name parts two tokens. -/
theorem references_slashed :
    ∃ text swagger v item operation, Raml.Root.read slashedDescription = .accepted slashedRoot ∧
      (convert slashedRoot none).outcome = .ok text ∧
      (document slashedRoot).outcome = .ok swagger ∧ swagger.listing = .ok v ∧
      swagger.definitions.names = ["a/b"] ∧
      swagger.paths.find? "/p" = some item ∧ item.find? "get" = some operation ∧
      operation.responses =
        [("200", ⟨some "OK", some [("$ref", .text "#/definitions/a/b")]⟩)] ∧
      v.follow (pointerTokens "#/definitions/a/b") = none := by
  obtain ⟨swagger, item, operation, made, writable, names, hitem, hoperation, responses⟩ :=
    document_slashedRoot
  have listed := listing_of_isWritable writable
  refine ⟨_, swagger, _, item, operation, read_slashedDescription,
    convert_of_document made writable none, made, listed, names, hitem, hoperation, responses, ?_⟩
  have tokens : pointerTokens "#/definitions/a/b" = ["definitions", "a", "b"] := by decide
  have noA : swagger.toJson.encodable.follow ["definitions", "a"] = none := by
    rw [follow_definitions_eq_none listed, names]
    decide
  have parts := Json.follow_append swagger.toJson.encodable ["definitions", "a"] ["b"]
  rw [noA] at parts
  rw [tokens]
  exact parts

end RamlBridge.Conversion
