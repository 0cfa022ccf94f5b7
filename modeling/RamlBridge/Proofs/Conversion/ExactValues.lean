import RamlBridge.Proofs.Conversion.Contents
import RamlBridge.Proofs.Conversion.SchemaPositions
import RamlBridge.Proofs.Datum.Exact

/-!
The numbers of a document. It holds none but those of the parameters and of the schemas of its
description, so that what holds of all of these, such as to be exact, holds of all of its numbers.
-/
namespace RamlBridge

def Raml.Parameter.values (p : Raml.Parameter) : List Json :=
  p.sample.toJson :: p.fallback.toJson :: ((p.choices.getD []).map Datum.toJson ++
    ((p.minimum.toList ++ p.maximum.toList).map Number.toJson ++
      (p.minLength.toList ++ p.maxLength.toList).map fun n => Json.int (n : Nat)))

/-- A property holds of all that stands in what a text denotes, if it denotes anything. -/
def Json.InText (P : Json → Prop) (text : String) : Prop :=
  ∀ v, Json.parse text = .ok v → v.Everywhere P

/-- A property holds of all values of a description: of those of its parameters and of those in
its schemas. -/
abbrev Raml.Root.EveryValue (P : Json → Prop) : Raml.Root → Prop :=
  Raml.Root.Every (fun p => ∀ v ∈ p.values, v.Everywhere P) (Json.InText P)

/-- The numbers of a description are exact: those of its parameters and those in its schemas. -/
abbrev Raml.Root.IsExact : Raml.Root → Prop :=
  Raml.Root.EveryValue Json.IsExact

namespace Conversion

open Json (OfNumbers)

variable {P : Json → Prop}

section Members

open Swagger (present textMember textList freeMember schemaMember)

/-- A property holds of all that stands in a member, where the member is there. -/
def InMember (P : Json → Prop) (member : Option Json) : Prop :=
  ∀ v ∈ member, v.Everywhere P

theorem inMember_none : InMember P none := by
  intro v hv
  cases hv

theorem inMember_some {v : Json} (h : v.Everywhere P) : InMember P (some v) := by
  rintro _ ⟨⟩
  exact h

theorem inMember_map {α : Type} {f : α → Json} {o : Option α}
    (h : ∀ a ∈ o, (f a).Everywhere P) : InMember P (o.map f) := by
  cases o with
  | none => exact inMember_none
  | some a => exact inMember_some (h a rfl)

theorem inMember_length {o : Option Nat} (h : ∀ n ∈ o, (Json.int (n : Nat)).Everywhere P) :
    InMember P ((o.map Int.ofNat).map Json.int) := by
  apply inMember_map
  intro _ length
  obtain ⟨n, hn, rfl⟩ := Option.map_eq_some_iff.mp length
  exact h n hn

theorem inMember_free {d : Datum} (h : d.toJson.Everywhere P) : InMember P (freeMember d) := by
  unfold freeMember
  split
  · exact inMember_none
  · exact inMember_some h

def InFields (P : Json → Prop) : List (String × Option Json) → Prop
  | [] => True
  | (_, member) :: rest => InMember P member ∧ InFields P rest

section Numbers

variable (numbers : OfNumbers P)

include numbers

theorem inMember_text (t : Option String) : InMember P (textMember t) :=
  inMember_map fun s _ => numbers.text s

theorem inMember_texts (ts : Option (List String)) : InMember P (textList ts) := by
  apply inMember_map
  intro xs _
  rw [numbers.everywhere_array, List.forall_mem_map]
  exact fun s _ => numbers.text s

theorem inMember_schema {schema : Option (Entries Json)}
    (h : ∀ members ∈ schema, (Json.object members).Everywhere P) :
    InMember P (schemaMember schema) :=
  inMember_map fun members hmembers => numbers.everywhere_finiteOnly (h members hmembers)

theorem everywhere_present {members : List (String × Option Json)} (h : InFields P members) :
    (present members).Everywhere P := by
  rw [present, numbers.everywhere_object]
  induction members with
  | nil => exact fun n hn => absurd hn List.not_mem_nil
  | cons m rest ih =>
    obtain ⟨name, member⟩ := m
    obtain ⟨first, later⟩ := h
    cases member with
    | none => exact ih later
    | some v =>
      intro n hn
      rcases List.mem_cons.mp hn with rfl | hn
      · exact first v rfl
      · exact ih later n hn

theorem everywhere_ofEntries {α : Type} {f : α → Json} {es : Entries α}
    (h : ∀ e ∈ es, (f e.2).Everywhere P) : (Json.ofEntries f es).Everywhere P := by
  rw [Json.ofEntries, numbers.everywhere_object]
  intro n hn
  obtain ⟨e, he, rfl⟩ := List.mem_map.mp hn
  exact h e he

end Numbers

end Members

section Parts

variable (numbers : OfNumbers P)

include numbers

theorem everywhere_parameterOf {p : Raml.Parameter} (h : ∀ v ∈ p.values, v.Everywhere P)
    (location : Swagger.Location) (name : String) :
    (parameterOf location name p).toJson.Everywhere P := by
  simp only [Raml.Parameter.values, List.forall_mem_cons, List.forall_mem_append,
    List.forall_mem_map, Option.mem_toList] at h
  obtain ⟨sample, fallback, choices, ⟨minimum, maximum⟩, minLength, maxLength⟩ := h
  have text (s : String) : InMember P (some (.text s)) := inMember_some (numbers.text s)
  refine everywhere_present numbers ⟨text _, text _, inMember_text numbers _, ?required,
    inMember_text numbers _, ?items, inMember_free fallback, ?choices, inMember_map minimum,
    inMember_map maximum, inMember_length minLength, inMember_length maxLength,
    inMember_text numbers _, inMember_free sample, inMember_none, trivial⟩
  case required =>
    split
    · exact inMember_some (numbers.bool true)
    · exact inMember_none
  case items =>
    apply inMember_map
    intro type _
    exact everywhere_present numbers ⟨text type, trivial⟩
  case choices =>
    apply inMember_map
    intro ds hds
    have listed : p.choices.getD [] = ds := by
      rw [(Option.filter_eq_some_iff.mp hds).1]
      rfl
    rw [numbers.everywhere_array, List.forall_mem_map, ← listed]
    exact choices

theorem everywhere_bodyParameter {schema : Option (Entries Json)}
    (h : ∀ members ∈ schema, (Json.object members).Everywhere P) :
    (bodyParameter schema).toJson.Everywhere P :=
  everywhere_present numbers ⟨inMember_some (numbers.text _), inMember_some (numbers.text _),
    inMember_none, inMember_some (numbers.bool true), inMember_none, inMember_none, inMember_none,
    inMember_none, inMember_none, inMember_none, inMember_none, inMember_none, inMember_none,
    inMember_none, inMember_schema numbers h, trivial⟩

theorem everywhere_withoutTopKeys {members : Entries Json}
    (h : (Json.object members).Everywhere P) :
    (Json.object (withoutTopKeys members)).Everywhere P := by
  rw [numbers.everywhere_object] at h ⊢
  exact fun m hm => h m (mem_of_mem_withoutTopKeys hm)

/-- Stripping brings no number into a schema. -/
theorem everywhere_definitionOf {members : Entries Json}
    (h : (Json.object members).Everywhere P) :
    (Json.object (definitionOf members)).Everywhere P := by
  have stripped := (everywhere_strip numbers.array (fun _ ns _ _ => numbers.object ns)
    (everywhere_withoutTopKeys numbers h)).1
  rw [stripRequired] at stripped
  rw [numbers.everywhere_object] at stripped ⊢
  intro m hm
  rcases mem_definitionOf hm with kept | ⟨names, rfl⟩
  · exact stripped m kept
  · rw [numbers.everywhere_array, List.forall_mem_map]
    exact fun name _ => numbers.text name

theorem passesOver_values :
    PassesOver (fun p => ∀ v ∈ p.values, v.Everywhere P) (Json.InText P)
      (fun q => q.toJson.Everywhere P) (fun members => (Json.object members).Everywhere P)
      (fun members => (Json.object members).Everywhere P) where
  mapped := fun location name p h => everywhere_parameterOf numbers h location name
  unsaid := by
    intro v hv
    have null : v = .null := by
      simpa [Raml.Parameter.values, Raml.Parameter.plain, Datum.toJson, Scalar.toJson] using hv
    rw [null]
    exact numbers.null
  body := fun _ => everywhere_bodyParameter numbers
  reference := by
    intro name
    rw [numbers.everywhere_object, List.forall_mem_singleton]
    exact numbers.text name
  inline := fun _ _ within parsed => everywhere_withoutTopKeys numbers (within _ parsed)
  definition := fun _ _ within parsed => everywhere_definitionOf numbers (within _ parsed)

theorem everywhere_response {r : Swagger.Response}
    (h : ∀ members ∈ r.schema, (Json.object members).Everywhere P) : r.toJson.Everywhere P :=
  everywhere_present numbers ⟨inMember_text numbers _, inMember_schema numbers h, trivial⟩

theorem everywhere_securityDefinition (d : Swagger.SecurityDefinition) :
    d.toJson.Everywhere P := by
  have text (s : String) : InMember P (some (.text s)) := inMember_some (numbers.text s)
  cases d with
  | basic description =>
    exact everywhere_present numbers ⟨text _, inMember_text numbers _, trivial⟩
  | oauth2 description flow authorizationUrl tokenUrl scopes =>
    exact everywhere_present numbers ⟨text _, inMember_text numbers _, text _,
      inMember_text numbers _, inMember_text numbers _,
      inMember_some (everywhere_ofEntries numbers fun e _ => numbers.text e.2), trivial⟩

/-- What only numbers can lack holds everywhere in a document if it does in its parameters and
schemas. -/
theorem everywhere_toJson {swagger : Swagger.Document}
    (every : swagger.Every (fun q => q.toJson.Everywhere P)
      (fun members => (Json.object members).Everywhere P)
      (fun members => (Json.object members).Everywhere P)) :
    swagger.toJson.Everywhere P := by
  have info : swagger.info.toJson.Everywhere P :=
    everywhere_present numbers ⟨inMember_text numbers _, inMember_text numbers _,
      inMember_text numbers _, trivial⟩
  have paths : (Json.ofEntries Swagger.PathItem.toJson swagger.paths).Everywhere P := by
    apply everywhere_ofEntries numbers
    intro path hpath
    apply everywhere_ofEntries numbers
    intro o ho
    refine everywhere_present numbers ⟨inMember_text numbers _, inMember_texts numbers _,
      inMember_texts numbers _, inMember_map ?_, inMember_some (everywhere_ofEntries numbers ?_),
      trivial⟩
    · intro ps hps
      rw [numbers.everywhere_array, List.forall_mem_map]
      intro q hq
      refine every.parameters q (List.mem_flatMap.mpr ⟨path, hpath, ?_⟩)
      refine List.mem_flatMap.mpr ⟨o, ho, ?_⟩
      rwa [hps, Option.getD_some]
    · intro r hr
      exact everywhere_response numbers (every.responses path hpath o ho r hr)
  have definitions : ∀ e ∈ swagger.definitions,
      (Json.object (Json.finiteMembers e.2)).Everywhere P :=
    fun e he => numbers.everywhere_finiteOnly (every.definitions e he)
  exact everywhere_present numbers ⟨inMember_some (numbers.text _), inMember_some info,
    inMember_text numbers _, inMember_text numbers _, inMember_texts numbers _,
    inMember_some paths, inMember_some (everywhere_ofEntries numbers definitions),
    inMember_map fun es _ =>
      everywhere_ofEntries numbers fun e _ => everywhere_securityDefinition numbers e.2, trivial⟩

/-- What holds of all values of a description, and can only be lacked by numbers, holds of all that
its document holds. -/
theorem everywhere_document {root : Raml.Root} (every : root.EveryValue P)
    {swagger : Swagger.Document} (made : (document root).outcome = .ok swagger) :
    swagger.toJson.Everywhere P :=
  everywhere_toJson numbers (every_document (passesOver_values numbers) every made)

end Parts

end Conversion

end RamlBridge
