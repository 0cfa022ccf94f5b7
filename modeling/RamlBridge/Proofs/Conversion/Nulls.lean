import RamlBridge.Proofs.Conversion.DocumentText
import RamlBridge.Proofs.Raml.Root
import RamlBridge.Proofs.Swagger.Members

/-!
Where nulls stand in the objects of a document. A member that is absent is left out, but a number
that JSON cannot write is turned into null later, where nothing is left out any more.
-/
namespace RamlBridge

def Datum.IsNonFinite (d : Datum) : Prop :=
  ∃ x : Binary64, d = .scalar (.float x) ∧ x.isFinite = false

inductive Raml.Root.Declares (root : Raml.Root) : Raml.Parameter → Prop
  | baseUri {p} : p ∈ root.baseUriParameters → Declares root p.2
  | uri {keys r p} : Raml.Leads root.resources keys r → p ∈ r.uriParameters → Declares root p.2
  | header {keys r a p} : Raml.Leads root.resources keys r → a ∈ r.actions → p ∈ a.2.headers →
      Declares root p.2
  | query {keys r a p} : Raml.Leads root.resources keys r → a ∈ r.actions →
      p ∈ a.2.queryParameters → Declares root p.2

namespace Conversion

section Objects

variable (v : Json)

def IsOperation (o : Json) : Prop :=
  ∃ paths path item method, v.child? "paths" = some (.object paths) ∧
    (path, .object item) ∈ paths ∧ (method, o) ∈ item

def IsParameter (o : Json) : Prop :=
  ∃ operation parameters, IsOperation v operation ∧
    operation.child? "parameters" = some (.array parameters) ∧ o ∈ parameters

/-- The objects of an emitted document whose members are fields. -/
inductive DocumentObject : Json → Prop
  | document : DocumentObject v
  | info {o} : v.child? "info" = some o → DocumentObject o
  | operation {o} : IsOperation v o → DocumentObject o
  | parameter {o} : IsParameter v o → DocumentObject o
  | items {p o} : IsParameter v p → p.child? "items" = some o → DocumentObject o
  | response {operation responses code o} : IsOperation v operation →
      operation.child? "responses" = some (.object responses) → (code, o) ∈ responses →
      DocumentObject o
  | securityDefinition {definitions name o} :
      v.child? "securityDefinitions" = some (.object definitions) → (name, o) ∈ definitions →
      DocumentObject o

end Objects

end Conversion

namespace Swagger

section Fields

@[simp] theorem null_ne_textMember (t : Option String) : ¬ some Json.null = textMember t := by
  cases t <;> simp [textMember]

@[simp] theorem null_ne_textList (ts : Option (List String)) : ¬ some Json.null = textList ts := by
  cases ts <;> simp [textList]

@[simp] theorem null_ne_schemaMember (schema : Option (Entries Json)) :
    ¬ some Json.null = schemaMember schema := by
  cases schema <;> simp [schemaMember]

@[simp] theorem null_ne_map {α : Type} {f : α → Json} (h : ∀ a, f a ≠ .null) (o : Option α) :
    ¬ some Json.null = o.map f := by
  cases o with
  | none => simp
  | some a => simpa using (h a).symm

theorem ofEntries_ne_null {α : Type} (f : α → Json) (es : Entries α) :
    Json.ofEntries f es ≠ .null := by
  simp [Json.ofEntries]

theorem toJson_number_ne_null (n : Number) : n.toJson ≠ .null := by
  cases n <;> simp [Number.toJson]

/-- A free-form value is emitted as null if and only if it is no finite number. -/
theorem null_eq_freeMember {d : Datum} : some Json.null = freeMember d ↔ d.IsNonFinite := by
  unfold Datum.IsNonFinite
  cases d with
  | scalar s =>
    cases s with
    | float x => cases h : x.isFinite <;> simp [freeMember, Datum.toJson, Scalar.toJson, h]
    | _ => simp [freeMember, Datum.toJson, Scalar.toJson]
  | _ => simp [freeMember, Datum.toJson]

variable {members : Entries Json} {name : String}

def parameterNames : List String :=
  ["in", "name", "description", "required", "type", "items", "default", "enum", "minimum",
    "maximum", "minLength", "maxLength", "pattern", "example", "schema"]

theorem null_mem_parameter {p : Parameter} (listed : p.toJson.encodable = .object members) :
    (name, Json.null) ∈ members ↔
      name = "default" ∧ p.fallback.IsNonFinite ∨ name = "example" ∧ p.sample.IsNonFinite := by
  rw [Parameter.toJson] at listed
  rw [null_mem_present parameterNames rfl (by decide) listed]
  have required : ¬ some Json.null = if p.required then some (.bool true) else none := by
    split <;> simp
  simp [null_eq_freeMember, required, toJson_number_ne_null, itemsJson, present]

def operationNames : List String :=
  ["description", "consumes", "produces", "parameters", "responses"]

theorem null_not_mem_document {d : Document} (listed : d.toJson.encodable = .object members) :
    (name, Json.null) ∉ members := by
  rw [Document.toJson] at listed
  rw [null_mem_present documentNames rfl (by decide) listed]
  simp [Info.toJson, present, (ofEntries_ne_null _ _).symm, null_ne_map (ofEntries_ne_null _)]

theorem null_not_mem_info {i : Info} (listed : i.toJson.encodable = .object members) :
    (name, Json.null) ∉ members := by
  rw [Info.toJson] at listed
  rw [null_mem_present ["title", "version", "description"] rfl (by decide) listed]
  simp

theorem null_not_mem_items {type : String}
    (listed : (itemsJson type).encodable = .object members) : (name, Json.null) ∉ members := by
  rw [itemsJson] at listed
  rw [null_mem_present ["type"] rfl (by decide) listed]
  simp

theorem null_not_mem_response {r : Response} (listed : r.toJson.encodable = .object members) :
    (name, Json.null) ∉ members := by
  rw [Response.toJson] at listed
  rw [null_mem_present ["description", "schema"] rfl (by decide) listed]
  simp

theorem null_not_mem_operation {o : Operation} (listed : o.toJson.encodable = .object members) :
    (name, Json.null) ∉ members := by
  rw [Operation.toJson] at listed
  rw [null_mem_present operationNames rfl (by decide) listed]
  simp [(ofEntries_ne_null _ _).symm]

theorem null_not_mem_securityDefinition {d : SecurityDefinition}
    (listed : d.toJson.encodable = .object members) : (name, Json.null) ∉ members := by
  cases d with
  | basic description =>
    rw [SecurityDefinition.toJson] at listed
    rw [null_mem_present ["type", "description"] rfl (by decide) listed]
    simp
  | oauth2 description flow authorizationUrl tokenUrl scopes =>
    rw [SecurityDefinition.toJson] at listed
    rw [null_mem_present ["type", "description", "flow", "authorizationUrl", "tokenUrl",
      "scopes"] rfl (by decide) listed]
    simp [(ofEntries_ne_null _ _).symm]

end Fields

end Swagger

namespace Conversion

section Sources

variable {swagger : Swagger.Document}

theorem source_of_mem_ofEntries {α : Type} {f : α → Json} {es : Entries α} {members : Entries Json}
    (listed : (Json.ofEntries f es).encodable = .object members) {name : String} {x : Json}
    (h : (name, x) ∈ members) : ∃ e ∈ es, x = (f e.2).encodable := by
  rw [Json.ofEntries, Json.encodable] at listed
  cases listed
  obtain ⟨m, hm, same⟩ := Json.source_of_mem_encodable h
  obtain ⟨e, he, rfl⟩ := List.mem_map.mp hm
  exact ⟨e, he, same⟩

/-- An emitted operation is that of a method of a path. -/
theorem source_of_isOperation {o : Json} (h : IsOperation swagger.toJson.encodable o) :
    ∃ path ∈ swagger.paths, ∃ operation ∈ path.2, o = operation.2.toJson.encodable := by
  obtain ⟨paths, path, item, method, found, hpath, ho⟩ := h
  rw [Swagger.Document.toJson] at found
  obtain ⟨y, hy, listed⟩ := Swagger.source_of_child?_present Swagger.documentNames rfl
    (by decide) found
  have same : y = .ofEntries Swagger.PathItem.toJson swagger.paths := by simpa using hy
  rw [same] at listed
  obtain ⟨p, hp, hitem⟩ := source_of_mem_ofEntries listed.symm hpath
  obtain ⟨operation, hoperation, rfl⟩ := source_of_mem_ofEntries hitem.symm ho
  exact ⟨p, hp, operation, hoperation, rfl⟩

/-- An emitted parameter is one of an operation. -/
theorem source_of_isParameter {o : Json} (h : IsParameter swagger.toJson.encodable o) :
    ∃ p ∈ swagger.parameters, o = p.toJson.encodable := by
  obtain ⟨operation, parameters, hoperation, found, ho⟩ := h
  obtain ⟨path, hpath, e, he, rfl⟩ := source_of_isOperation hoperation
  rw [Swagger.Operation.toJson] at found
  obtain ⟨y, hy, listed⟩ := Swagger.source_of_child?_present Swagger.operationNames rfl
    (by decide) found
  have given : some y = e.2.parameters.map fun ps => .array (ps.map Swagger.Parameter.toJson) := by
    simpa using hy
  obtain ⟨ps, hps, rfl⟩ := Option.map_eq_some_iff.mp given.symm
  rw [Json.encodable, Json.encodableItems_eq] at listed
  cases listed
  obtain ⟨x, hx, rfl⟩ := List.mem_map.mp ho
  obtain ⟨p, hp, rfl⟩ := List.mem_map.mp hx
  refine ⟨p, List.mem_flatMap.mpr ⟨path, hpath, List.mem_flatMap.mpr ⟨e, he, ?_⟩⟩, rfl⟩
  rwa [hps]

/-- Only a parameter is emitted with a null among its members. -/
theorem isParameter_of_null_mem {o : Json} (h : DocumentObject swagger.toJson.encodable o) :
    ∃ members, o = .object members ∧
      ∀ name, (name, Json.null) ∈ members → IsParameter swagger.toJson.encodable o := by
  cases h with
  | document =>
    refine ⟨_, rfl, fun name null => ?_⟩
    exact absurd null (Swagger.null_not_mem_document rfl)
  | info found =>
    rw [Swagger.Document.toJson] at found
    obtain ⟨y, hy, rfl⟩ := Swagger.source_of_child?_present Swagger.documentNames rfl
      (by decide) found
    have same : y = swagger.info.toJson := by simpa using hy
    refine ⟨_, congrArg Json.encodable same, fun name null => ?_⟩
    exact absurd null (Swagger.null_not_mem_info rfl)
  | operation emitted =>
    obtain ⟨path, hpath, e, he, rfl⟩ := source_of_isOperation emitted
    refine ⟨_, rfl, fun name null => ?_⟩
    exact absurd null (Swagger.null_not_mem_operation rfl)
  | parameter emitted =>
    obtain ⟨p, hp, rfl⟩ := source_of_isParameter emitted
    exact ⟨_, rfl, fun name null => emitted⟩
  | items emitted found =>
    obtain ⟨p, hp, rfl⟩ := source_of_isParameter emitted
    rw [Swagger.Parameter.toJson] at found
    obtain ⟨y, hy, rfl⟩ := Swagger.source_of_child?_present Swagger.parameterNames rfl
      (by decide) found
    have given : some y = p.items.map Swagger.itemsJson := by simpa using hy
    obtain ⟨type, _, rfl⟩ := Option.map_eq_some_iff.mp given.symm
    refine ⟨_, rfl, fun name null => ?_⟩
    exact absurd null (Swagger.null_not_mem_items rfl)
  | response emitted found ho =>
    obtain ⟨path, hpath, e, he, rfl⟩ := source_of_isOperation emitted
    rw [Swagger.Operation.toJson] at found
    obtain ⟨y, hy, listed⟩ := Swagger.source_of_child?_present Swagger.operationNames
      rfl (by decide) found
    have same : y = .ofEntries Swagger.Response.toJson e.2.responses := by simpa using hy
    rw [same] at listed
    obtain ⟨r, _, rfl⟩ := source_of_mem_ofEntries listed.symm ho
    refine ⟨_, rfl, fun name null => ?_⟩
    exact absurd null (Swagger.null_not_mem_response rfl)
  | securityDefinition found ho =>
    rw [Swagger.Document.toJson] at found
    obtain ⟨y, hy, listed⟩ := Swagger.source_of_child?_present Swagger.documentNames rfl
      (by decide) found
    have given : some y = swagger.securityDefinitions.map
        (.ofEntries Swagger.SecurityDefinition.toJson) := by simpa using hy
    obtain ⟨definitions, _, rfl⟩ := Option.map_eq_some_iff.mp given.symm
    obtain ⟨e, _, rfl⟩ := source_of_mem_ofEntries listed.symm ho
    obtain ⟨members, object⟩ : ∃ members, e.2.toJson.encodable = .object members := by
      cases e.2 <;> exact ⟨_, rfl⟩
    refine ⟨members, object, fun name null => ?_⟩
    exact absurd null (Swagger.null_not_mem_securityDefinition object)

variable {root : Raml.Root}

/-- A parameter with a free-form value that is no finite number was declared with it. -/
theorem declares_of_nonFinite (made : (document root).outcome = .ok swagger)
    {p : Swagger.Parameter} (hp : p ∈ swagger.parameters)
    (nonFinite : p.fallback.IsNonFinite ∨ p.sample.IsNonFinite) :
    ∃ q location key, root.Declares q ∧ p = parameterOf location key q := by
  let source (q : Raml.Parameter) := root.Declares q ∨ q = .plain true
  let origin (p : Swagger.Parameter) :=
    (∃ q location key, source q ∧ p = parameterOf location key q) ∨
      ∃ schema, p = bodyParameter schema
  have every : root.Every source fun _ => True :=
    ⟨⟨fun _ h => .inl (.baseUri h), fun _ _ leads _ h => .inl (.uri leads h),
      fun _ _ leads _ ha _ h => .inl (.header leads ha h),
      fun _ _ leads _ ha _ h => .inl (.query leads ha h)⟩,
      fun _ _ => trivial, fun _ _ _ _ _ _ _ => trivial⟩
  have passes : PassesOver source (fun _ => True) origin (fun _ => True) fun _ => True :=
    { mapped := fun location key q h => .inl ⟨q, location, key, h, rfl⟩
      unsaid := .inr rfl
      body := fun schema _ => .inr ⟨schema, rfl⟩
      reference := fun _ => trivial
      inline := fun _ _ _ _ => trivial
      definition := fun _ _ _ _ => trivial }
  rcases (every_document passes every made).parameters p hp with
    ⟨q, location, key, declared | rfl, rfl⟩ | ⟨schema, rfl⟩
  · exact ⟨q, location, key, declared, rfl⟩
  · obtain ⟨x, float, _⟩ | ⟨x, float, _⟩ := nonFinite
    all_goals cases float
  · obtain ⟨x, float, _⟩ | ⟨x, float, _⟩ := nonFinite
    all_goals cases float

end Sources

/-- Of the objects of a document, only a parameter can hold a null: where its default or its
example was declared as a number that is not finite. -/
theorem nulls_convert {root : Raml.Root} {indent : Option Int} {text : String}
    (converted : (convert root indent).outcome = .ok text) :
    ∃ swagger v, (document root).outcome = .ok swagger ∧ swagger.listing = .ok v ∧
      v.write (.indented indent) = some text ∧
      ∀ o, DocumentObject v o → ∃ members, o = .object members ∧
        ∀ name, (name, Json.null) ∈ members ↔
          ∃ q location key, root.Declares q ∧ o = (parameterOf location key q).toJson.encodable ∧
            (name = "default" ∧ q.fallback.IsNonFinite ∨
              name = "example" ∧ q.sample.IsNonFinite) := by
  obtain ⟨swagger, ms, made, listed, same, written, _⟩ := convert_eq_ok converted
  refine ⟨swagger, .object ms, made, listed, written, ?_⟩
  intro o emitted
  rw [← same] at emitted
  obtain ⟨members, rfl, only⟩ := isParameter_of_null_mem emitted
  refine ⟨members, rfl, fun name => ⟨fun null => ?_, ?_⟩⟩
  · obtain ⟨p, hp, object⟩ := source_of_isParameter (only name null)
    have nonFinite := (Swagger.null_mem_parameter object.symm).mp null
    obtain ⟨q, location, key, declared, rfl⟩ :=
      declares_of_nonFinite made hp (nonFinite.imp And.right And.right)
    exact ⟨q, location, key, declared, object, nonFinite⟩
  · rintro ⟨q, location, key, _, object, nonFinite⟩
    exact (Swagger.null_mem_parameter object.symm).mpr nonFinite

def unboundedResource : List (Scalar × Datum) :=
  [(.text "get", .map [(.text "queryParameters", .map [(.text "q",
    .map [(.text "default", .scalar (.float (.infinity false)))])])])]

def unboundedDescription : Datum :=
  .map [(.text "/p", .map unboundedResource)]

def unboundedParameter : Raml.Parameter :=
  { Raml.Parameter.plain false with fallback := .scalar (.float (.infinity false)) }

def unboundedRoot : Raml.Root :=
  ⟨"", none, none, [], none, [], [], [], [],
    [("/p", ⟨none, none, [], [("get", ⟨none, [], [("q", unboundedParameter)], [], []⟩)], []⟩)]⟩

theorem read_unboundedDescription :
    Raml.Root.read unboundedDescription = .accepted unboundedRoot := by
  have resources : Raml.topResources [(.text "/p", .map unboundedResource)] =
    .accepted [(.text "/p", .map unboundedResource)] := rfl
  have resource : Raml.Resource.read .null (.map unboundedResource) = .accepted ⟨none, none, [],
      [("get", ⟨none, [], [("q", unboundedParameter)], [], []⟩)], []⟩ :=
    (Raml.Resource.ofEntries_eq .null unboundedResource).trans rfl
  change Raml.Root.ofEntries .null _ = _
  simp only [Raml.Root.ofEntries, resources, Checked.andThen, List.map_cons, List.map_nil, resource]
  rfl

def unboundedMembers : Entries Json :=
  [("in", .text "query"), ("name", .text "q"), ("type", .text "string"), ("default", .null)]

theorem document_unboundedRoot :
    ∃ swagger, (document unboundedRoot).outcome = .ok swagger ∧ swagger.IsWritable ∧
      IsParameter swagger.toJson.encodable (.object unboundedMembers) := by
  rw [document, Report.outcome_told, assemble_outcome]
  exact ⟨_, rfl, ⟨rfl, rfl⟩, _, _, ⟨_, _, _, _, rfl, List.mem_singleton.mpr rfl,
    List.mem_singleton.mpr rfl⟩, rfl, List.mem_singleton.mpr rfl⟩

/-- The null of the parameter comes from a declaration with an infinite default. -/
theorem nulls_convert_unbounded :
    ∃ text q, (convert unboundedRoot none).outcome = .ok text ∧ unboundedRoot.Declares q ∧
      q.fallback.IsNonFinite := by
  obtain ⟨swagger, made, writable, emitted⟩ := document_unboundedRoot
  have converted := convert_of_document made writable none
  obtain ⟨_, v, made', listed, _, nulls⟩ := nulls_convert converted
  rw [made] at made'
  cases made'
  rw [listing_of_isWritable writable] at listed
  cases listed
  obtain ⟨members, object, only⟩ := nulls _ (.parameter emitted)
  cases object
  obtain ⟨q, _, _, declared, _, ⟨_, nonFinite⟩ | ⟨other, _⟩⟩ :=
    (only "default").mp (by simp [unboundedMembers])
  · exact ⟨_, q, converted, declared, nonFinite⟩
  · exact absurd other (by decide)

/-- The default of the parameter is emitted as null. -/
theorem null_unboundedRoot :
    ∃ text swagger v members, Raml.Root.read unboundedDescription = .accepted unboundedRoot ∧
      (convert unboundedRoot none).outcome = .ok text ∧
      (document unboundedRoot).outcome = .ok swagger ∧ swagger.listing = .ok v ∧
      v.write (.indented none) = some text ∧ DocumentObject v (.object members) ∧
      ("default", Json.null) ∈ members := by
  obtain ⟨swagger, made, writable, emitted⟩ := document_unboundedRoot
  refine ⟨_, swagger, _, unboundedMembers, read_unboundedDescription,
    convert_of_document made writable none, made, listing_of_isWritable writable,
    Json.write_of_isWritable _ writable.2, .parameter emitted, ?_⟩
  simp [unboundedMembers]

end Conversion

end RamlBridge
