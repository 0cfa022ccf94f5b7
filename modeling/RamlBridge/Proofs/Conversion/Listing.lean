import RamlBridge.Proofs.Conversion.ExactValues
import RamlBridge.Proofs.Datum.Plain
import RamlBridge.Proofs.Json.Parsed

/-!
Documents that can be written. Whatever a description says freely about its parameters, and its
schemas, come into the document as they stand, so that it is written if they can be listed and no
integer in them has too many digits.
-/
namespace RamlBridge

open Json (IsShort)

/-- What a parameter says freely is plain, and the integers that bound it have not too many
digits. -/
structure Raml.Parameter.IsPlain (p : Raml.Parameter) : Prop where
  sample : p.sample.IsPlain
  fallback : p.fallback.IsPlain
  choices : ∀ d ∈ p.choices.getD [], Datum.IsPlain d
  bounds : ∀ n ∈ p.minimum.toList ++ p.maximum.toList, (Number.toJson n).Everywhere IsShort
  lengths : ∀ n ∈ p.minLength.toList ++ p.maxLength.toList, Decimal.isShort (n : Nat) = true

/-- What a description says freely about its parameters and its security schemes is plain. -/
structure Raml.Root.IsPlain (root : Raml.Root) : Prop where
  parameters : root.EveryParameter Raml.Parameter.IsPlain
  settings : ∀ p ∈ root.securitySchemes.flatten, ∀ s ∈ p.2.settings, Datum.IsPlain s.2

/-- The object that a text denotes, if it denotes one, can be listed as a schema. -/
def Swagger.IsListableText (text : String) : Prop :=
  ∀ members, Json.parse text = .ok (.object members) → schemaFault? members = none

/-- The parameters of a description and its schemas can be listed. -/
abbrev Raml.Root.IsListable : Raml.Root → Prop :=
  Raml.Root.Every (·.listingFault? = none) Swagger.IsListableText

theorem Raml.Parameter.isPlain_plain (required : Bool) :
    (Raml.Parameter.plain required).IsPlain where
  sample := ⟨.null, rfl⟩
  fallback := ⟨.null, rfl⟩
  choices := fun _ h => absurd h List.not_mem_nil
  bounds := fun _ h => absurd h List.not_mem_nil
  lengths := fun _ h => absurd h List.not_mem_nil

section Described

open Raml (Leads Resource childrenFault?)

theorem Raml.childrenFault?_eq_none {forest : List (String × Resource)} :
    childrenFault? forest = none ↔ ∀ p ∈ forest, p.2.listingFault? = none := by
  induction forest with
  | nil => simp [childrenFault?]
  | cons p rest ih =>
    obtain ⟨key, r⟩ := p
    rw [childrenFault?, Option.or_eq_none_iff, ih, List.forall_mem_cons]

theorem Raml.Leads.listingFault? {forest : List (String × Resource)} {keys : List String}
    {r : Resource} (leads : Leads forest keys r) (listed : childrenFault? forest = none) :
    r.listingFault? = none := by
  induction leads with
  | here hr => exact childrenFault?_eq_none.mp listed _ hr
  | @deeper forest key r keys s hr _ ih =>
    have above : r.listingFault? = none := childrenFault?_eq_none.mp listed _ hr
    obtain ⟨displayName, description, uriParameters, actions, children⟩ := r
    rw [Resource.listingFault?, Option.or_eq_none_iff, Option.or_eq_none_iff] at above
    exact ih above.2.2

/-- Where a whole description can be listed, each of its parameters can. -/
theorem Raml.Root.everyParameter_of_listed {root : Raml.Root}
    (listed : root.listingFault? = none) : root.EveryParameter (·.listingFault? = none) := by
  rw [Raml.Root.listingFault?, Option.or_eq_none_iff, Option.or_eq_none_iff,
    List.findSome?_eq_none_iff] at listed
  have resource {keys : List String} {r : Resource} (leads : Leads root.resources keys r) :
      (∀ p ∈ r.uriParameters, p.2.listingFault? = none) ∧
        ∀ a ∈ r.actions, a.2.listingFault? = none := by
    have here := leads.listingFault? listed.2.2
    obtain ⟨displayName, description, uriParameters, actions, children⟩ := r
    rw [Resource.listingFault?, Option.or_eq_none_iff, Option.or_eq_none_iff,
      List.findSome?_eq_none_iff, List.findSome?_eq_none_iff] at here
    exact ⟨here.1, here.2.1⟩
  have method {a : Raml.Action} (h : a.listingFault? = none) :
      (∀ p ∈ a.headers, p.2.listingFault? = none) ∧
        ∀ p ∈ a.queryParameters, p.2.listingFault? = none := by
    rw [Raml.Action.listingFault?, Option.or_eq_none_iff, Option.or_eq_none_iff,
      List.findSome?_eq_none_iff, List.findSome?_eq_none_iff] at h
    exact ⟨h.1, h.2.1⟩
  exact {
    baseUri := listed.1
    uri := fun _ _ leads => (resource leads).1
    headers := fun _ _ leads a ha => (method ((resource leads).2 a ha)).1
    query := fun _ _ leads a ha => (method ((resource leads).2 a ha)).2 }

end Described

theorem Raml.Parameter.IsPlain.values {p : Raml.Parameter} (plain : p.IsPlain) :
    ∀ v ∈ p.values, v.Everywhere IsShort := by
  have short {d : Datum} (h : d.IsPlain) : d.toJson.Everywhere IsShort := by
    obtain ⟨v, h⟩ := h
    exact (Datum.isShort_of_json h).2
  rw [Raml.Parameter.values, List.forall_mem_cons, List.forall_mem_cons, List.forall_mem_append,
    List.forall_mem_append]
  simp only [List.forall_mem_map]
  exact ⟨short plain.sample, short plain.fallback, fun d hd => short (plain.choices d hd),
    plain.bounds, plain.lengths⟩

/-- No integer that is read in a schema has too many digits. -/
theorem Raml.Root.IsPlain.values {root : Raml.Root} (plain : root.IsPlain) :
    root.EveryValue IsShort where
  parameters :=
    { baseUri := fun p hp => (plain.parameters.baseUri p hp).values
      uri := fun keys r leads p hp => (plain.parameters.uri keys r leads p hp).values
      headers := fun keys r leads a ha p hp =>
        (plain.parameters.headers keys r leads a ha p hp).values
      query := fun keys r leads a ha p hp =>
        (plain.parameters.query keys r leads a ha p hp).values }
  declared := fun _ _ _ parsed => Json.isWritable_iff.mp
    (Json.isWritable_of_regular (Json.regular_parse parsed))
  used := fun _ _ _ _ _ _ _ _ parsed => Json.isWritable_iff.mp
    (Json.isWritable_of_regular (Json.regular_parse parsed))

/-- A document can be listed, and no integer in it has too many digits. -/
def Swagger.Document.IsWritable (d : Swagger.Document) : Prop :=
  d.listingFault? = none ∧ d.toJson.encodable.isWritable = true

namespace Conversion

/-- A JSON value in a free form can be listed in a number of levels. -/
def IsListedIn (levels : Nat) (v : Json) : Prop :=
  (Datum.ofJson v).listingFault? levels = none

section Levels

variable {levels : Nat}

theorem isListedIn_array {items : List Json} :
    IsListedIn (levels + 1) (.array items) ↔ ∀ x ∈ items, IsListedIn levels x := by
  have each : Datum.itemsFault? levels (Datum.ofItems items) = none ↔
      ∀ x ∈ items, IsListedIn levels x := by
    induction items with
    | nil => simp [Datum.ofItems, Datum.itemsFault?]
    | cons x xs ih =>
      rw [Datum.ofItems, Datum.itemsFault?, Option.or_eq_none_iff, ih, List.forall_mem_cons]
      rfl
  rw [IsListedIn, Datum.ofJson, Datum.listingFault?, each]

theorem isListedIn_object {members : Entries Json} :
    IsListedIn (levels + 1) (.object members) ↔
      ∀ m ∈ members, Text.holdsHalf m.1 = false ∧ IsListedIn levels m.2 := by
  have each : Datum.entriesFault? levels (Datum.ofMembers members) = none ↔
      ∀ m ∈ members, Text.holdsHalf m.1 = false ∧ IsListedIn levels m.2 := by
    induction members with
    | nil => simp [Datum.ofMembers, Datum.entriesFault?]
    | cons m rest ih =>
      obtain ⟨name, x⟩ := m
      rw [Datum.ofMembers, Datum.entriesFault?, Option.or_eq_none_iff, Option.or_eq_none_iff, ih,
        List.forall_mem_cons, Scalar.nameFault?]
      simp [IsListedIn]
  rw [IsListedIn, Datum.ofJson, Datum.listingFault?, each]

theorem isListedIn_text (s : String) : IsListedIn (levels + 1) (.text s) := rfl

/-- What can be listed can be once it is stripped. -/
theorem isListedIn_strip {v : Json} : ∀ {levels}, IsListedIn levels v →
    IsListedIn levels (stripRequired v) ∧ IsListedIn levels (stripNamed v) := by
  -- The two call one another, one level down each, so that neither goes through alone.
  induction v using Json.tree_induction with
  | array items ih =>
    rintro (_ | levels) h
    · cases h
    have stripped : IsListedIn (levels + 1) (.array (stripItems items)) := by
      rw [stripItems_eq, isListedIn_array]
      intro y hy
      obtain ⟨x, hx, rfl⟩ := List.mem_map.mp hy
      exact (ih x hx (isListedIn_array.mp h x hx)).1
    exact ⟨stripped, stripped⟩
  | object members ih =>
    rintro (_ | levels) h
    · cases h
    rw [isListedIn_object] at h
    rw [stripRequired, stripNamed, isListedIn_object, isListedIn_object]
    constructor
    · intro n hn
      obtain ⟨x, hx, same⟩ := mem_stripMembers hn
      obtain ⟨whole, inside⟩ := h _ hx
      refine ⟨whole, ?_⟩
      rw [same, stripUnder]
      split
      · exact (ih _ hx inside).2
      · exact (ih _ hx inside).1
    · intro n hn
      rw [stripEach_eq] at hn
      obtain ⟨m, hm, rfl⟩ := List.mem_map.mp hn
      exact ⟨(h m hm).1, (ih m hm (h m hm).2).1⟩
  | _ => exact fun h => ⟨h, h⟩

end Levels

section Schemas

open Swagger (schemaFault?)

theorem schemaFault?_eq_none {members : Entries Json} :
    schemaFault? members = none ↔ ∀ m ∈ members, IsListedIn Datum.mostLevels m.2 :=
  List.findSome?_eq_none_iff

theorem schemaFault?_withoutTopKeys {members : Entries Json} (h : schemaFault? members = none) :
    schemaFault? (withoutTopKeys members) = none := by
  rw [schemaFault?_eq_none] at h ⊢
  exact fun m hm => h m (mem_of_mem_withoutTopKeys hm)

theorem schemaFault?_definitionOf {members : Entries Json} (h : schemaFault? members = none) :
    schemaFault? (definitionOf members) = none := by
  have kept := schemaFault?_eq_none.mp (schemaFault?_withoutTopKeys h)
  rw [schemaFault?_eq_none]
  intro m hm
  rcases mem_definitionOf hm with stripped | ⟨names, rfl⟩
  · obtain ⟨x, hx, same⟩ := mem_stripMembers stripped
    rw [same, stripUnder]
    split
    · exact (isListedIn_strip (kept _ hx)).2
    · exact (isListedIn_strip (kept _ hx)).1
  · change IsListedIn (254 + 1) _
    rw [isListedIn_array, List.forall_mem_map]
    exact fun name _ => isListedIn_text name

end Schemas

section Documents

open Swagger (schemaFault?)

theorem listingFault?_parameterOf {p : Raml.Parameter} (h : p.listingFault? = none)
    (location : Swagger.Location) (name : String) :
    (parameterOf location name p).listingFault? = none := by
  rw [Raml.Parameter.listingFault?, Option.or_eq_none_iff, Option.or_eq_none_iff,
    List.findSome?_eq_none_iff] at h
  obtain ⟨listed, sample, fallback⟩ := h
  have choices : ∀ d ∈ (p.choices.filter (!·.isEmpty)).getD [], Datum.freeFault? d = none := by
    intro d hd
    apply listed d
    cases given : p.choices with
    | none =>
      rw [given] at hd
      exact hd
    | some ds =>
      rw [given] at hd
      cases ds with
      | nil => exact hd
      | cons first rest => exact hd
  rw [Swagger.Parameter.listingFault?, Option.or_eq_none_iff, Option.or_eq_none_iff,
    Option.or_eq_none_iff, List.findSome?_eq_none_iff]
  exact ⟨fallback, choices, sample, rfl⟩

theorem bind_schemaFault? {schema : Option (Entries Json)} :
    schema.bind schemaFault? = none ↔ ∀ members ∈ schema, schemaFault? members = none := by
  cases schema <;> simp

theorem passesOver_listable :
    PassesOver (·.listingFault? = none) Swagger.IsListableText (·.listingFault? = none)
      (schemaFault? · = none) (schemaFault? · = none) where
  mapped := fun location name _ h => listingFault?_parameterOf h location name
  unsaid := rfl
  body := fun _ => bind_schemaFault?.mpr
  reference := by
    intro name
    rw [schemaFault?_eq_none, List.forall_mem_singleton]
    exact isListedIn_text name
  inline := fun _ members within parsed => schemaFault?_withoutTopKeys (within members parsed)
  definition := fun _ members within parsed => schemaFault?_definitionOf (within members parsed)

/-- A document can be listed if and only if all of its parameters and schemas can. -/
theorem listingFault?_eq_none {swagger : Swagger.Document} :
    swagger.listingFault? = none ↔
      swagger.Every (·.listingFault? = none) (schemaFault? · = none) (schemaFault? · = none) := by
  simp only [Swagger.Document.listingFault?, Swagger.Operation.listingFault?,
    Option.or_eq_none_iff, List.findSome?_eq_none_iff, bind_schemaFault?]
  constructor
  · rintro ⟨paths, definitions⟩
    refine ⟨?_, fun path hpath o ho => (paths path hpath o ho).2, definitions⟩
    intro q hq
    obtain ⟨path, hpath, hq⟩ := List.mem_flatMap.mp hq
    obtain ⟨o, ho, hq⟩ := List.mem_flatMap.mp hq
    exact (paths path hpath o ho).1 q hq
  · intro every
    refine ⟨fun path hpath o ho => ⟨?_, every.responses path hpath o ho⟩, every.definitions⟩
    intro q hq
    exact every.parameters q
      (List.mem_flatMap.mpr ⟨path, hpath, List.mem_flatMap.mpr ⟨o, ho, hq⟩⟩)

theorem listing_of_isWritable {swagger : Swagger.Document} (writable : swagger.IsWritable) :
    swagger.listing = .ok swagger.toJson.encodable := by
  rw [Swagger.Document.listing, writable.1]

theorem documentText_of_isWritable {swagger : Swagger.Document} (writable : swagger.IsWritable)
    (indent : Option Int) :
    (documentText swagger indent).outcome =
      .ok (swagger.toJson.encodable.written (.indented indent)) := by
  rw [documentText, listing_of_isWritable writable]
  simp only [Json.write_of_isWritable _ writable.2]
  rfl

theorem documentText_cases (swagger : Swagger.Document) (indent : Option Int) :
    (swagger.IsWritable ∧ ∃ text, (documentText swagger indent).outcome = .ok text) ∨
      (¬ swagger.IsWritable ∧ ((documentText swagger indent).outcome = .error .integerTooLong ∨
        ∃ fault, (documentText swagger indent).outcome = .error (.unlisted fault))) := by
  by_cases writable : swagger.IsWritable
  · exact .inl ⟨writable, _, documentText_of_isWritable writable indent⟩
  refine .inr ⟨writable, ?_⟩
  rw [documentText, Swagger.Document.listing]
  cases listed : swagger.listingFault? with
  | some fault => exact .inr ⟨fault, rfl⟩
  | none =>
    have unwritable : ¬ swagger.toJson.encodable.isWritable = true :=
      fun h => writable ⟨listed, h⟩
    simp only [Json.write, if_neg unwritable]
    exact .inl rfl

theorem exists_documentText_iff {swagger : Swagger.Document} {indent : Option Int} :
    (∃ text, (documentText swagger indent).outcome = .ok text) ↔ swagger.IsWritable := by
  rcases documentText_cases swagger indent with ⟨writable, written⟩ | ⟨unwritable, stopped⟩
  · exact iff_of_true written writable
  · refine iff_of_false ?_ unwritable
    rintro ⟨text, written⟩
    rcases stopped with stopped | ⟨fault, stopped⟩
    all_goals
      rw [stopped] at written
      cases written

/-- The document of a plain description that can be listed has a text. -/
theorem isWritable_document {root : Raml.Root} (plain : root.IsPlain) (listable : root.IsListable)
    {swagger : Swagger.Document} (made : (document root).outcome = .ok swagger) :
    swagger.IsWritable := by
  have short := everywhere_document Json.ofNumbers_isShort plain.values made
  exact ⟨listingFault?_eq_none.mpr (every_document passesOver_listable listable made),
    Json.isWritable_iff.mpr (Json.ofNumbers_isShort.everywhere_encodable short)⟩

end Documents

section Declaring

def declaring (v : Datum) : Datum :=
  .map [(.text "schemas", .map [(.text "X", v)])]

def declaringRoot (s : String) : Raml.Root :=
  ⟨"", none, none, [], none, [], [], [[("X", s)]], [], []⟩

def definingX (members : Entries Json) : Swagger.Document :=
  ⟨⟨none, none, none⟩, none, none, none, [], [("X", definitionOf members)], none⟩

theorem document_declaringRoot {s : String} {members : Entries Json}
    (parsed : parseSchema s = .ok members) :
    (document (declaringRoot s)).outcome = .ok (definingX members) := by
  have declared : (Registry.empty.registerAll (declaringRoot s).schemas).outcome =
      .ok ⟨[("X", definitionOf members)]⟩ := by
    rw [Registry.registerAll, Registry.outcome_registerEach]
    change Except.map _ (List.mapM _ [("X", s)]) = _
    rw [mapM_cons_eq, parsed]
    rfl
  rw [document, Report.outcome_told, assemble_outcome, declared]
  rfl

end Declaring

end Conversion

end RamlBridge
