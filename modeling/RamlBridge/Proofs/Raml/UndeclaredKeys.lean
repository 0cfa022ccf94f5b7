import Mathlib.Logic.Relation
import RamlBridge.Proofs.Raml.Filed
import RamlBridge.Proofs.Raml.SchemaPlaces
import RamlBridge.Proofs.Raml.Sources

/-!
Keys that no model knows. An entry under such a key, in whatever map of a description it stands,
makes no difference to what is read of the description or to what is wrong with it.
-/
namespace RamlBridge

namespace Datum

abbrev Unknown (names : List String) (k : Scalar) : Prop :=
  ∀ name ∈ names, k ≠ .text name

theorem unknown_of_either {name key other : String} (named : name = key ∨ name = other)
    (names : List String) (hkey : key ∉ names) (hother : other ∉ names) :
    Unknown names (.text name) := by
  intro known hknown same
  cases Scalar.text.inj same
  rcases named with rfl | rfl
  · exact hkey hknown
  · exact hother hknown

inductive OneMore (undeclared : Scalar → Prop) : Datum → Datum → Prop
  | mk {k} (d : Datum) (before after : List (Scalar × Datum)) : undeclared k →
      OneMore undeclared (.map (before ++ after)) (.map (before ++ (k, d) :: after))

theorem OneMore.orEmpty {undeclared : Scalar → Prop} {d e : Datum} (h : OneMore undeclared d e) :
    Raml.orEmpty d = d ∧ Raml.orEmpty e = e := by
  cases h
  exact ⟨rfl, rfl⟩

section Lookups

variable {key : Scalar} {d e : Datum} {es fs : List (Scalar × Datum)} {name : String}

theorem lookup?_insert (apart : key ≠ .text name) (d : Datum)
    (before after : List (Scalar × Datum)) :
    lookup? (before ++ after) name = lookup? (before ++ (key, d) :: after) name := by
  rw [lookup?_append, lookup?_append]
  simp only [lookup?, if_neg apart]

theorem OneValue.lookup?_eq (h : OneValue key d e es fs) (apart : key ≠ .text name) :
    lookup? es name = lookup? fs name := by
  cases h with
  | mk before after => rw [← lookup?_insert apart, ← lookup?_insert apart]

theorem OneValue.lookup?_eq_of (h : OneValue key d e es fs) {names : List String}
    (apart : ∀ name ∈ names, key ≠ .text name) :
    ∀ name ∈ names, lookup? es name = lookup? fs name :=
  fun name known => h.lookup?_eq (apart name known)

/-- A field is read alike from maps that differ in a value whose check comes out the same. -/
theorem OneValue.field_eq {α : Type} (h : OneValue key d e es fs) {other : String} (absent : α)
    {check : Datum → Checked α} (same : check d = check e) :
    Checked.field es name other absent check = Checked.field fs name other absent check := by
  have byKey : ByKey (fun _ d e => check d = check e) es fs := h.byKey (fun _ _ => rfl) same
  have related (d e : Datum) (same : check d = check e) :
      Checked.Related Eq (check d) (check e) := by
    rw [same]
    exact .refl (fun _ => rfl) _
  exact (Checked.Related.field byKey rfl related related).eq

theorem OneValue.field_other {α : Type} (h : OneValue key d e es fs) {other : String} (absent : α)
    (check : Datum → Checked α) (apartName : key ≠ .text name) (apartOther : key ≠ .text other) :
    Checked.field es name other absent check = Checked.field fs name other absent check :=
  Checked.field_congr (h.lookup?_eq apartName) (h.lookup?_eq apartOther)

end Lookups

end Datum

namespace Raml

open Checked Datum

section Places

def Parameter.fieldNames : List String :=
  ["displayName", "display_name", "description", "type", "enum", "pattern", "minLength",
    "min_length", "maxLength", "max_length", "minimum", "maximum", "example", "default", "repeat",
    "required"]

def Response.fieldNames : List String := ["description", "body"]

def Action.fieldNames : List String :=
  ["description", "headers", "queryParameters", "query_parameters", "body", "responses"]

def SecurityScheme.fieldNames : List String :=
  ["type", "description", "describedBy", "described_by", "settings"]

def Resource.fieldNames : List String :=
  ["displayName", "display_name", "description", "uriParameters", "uri_parameters", "resources",
    "actions"]

def Root.fieldNames : List String :=
  ["title", "version", "baseUri", "base_uri", "protocols", "mediaType", "media_type",
    "baseUriParameters", "base_uri_parameters", "documentation", "schemas", "securitySchemes",
    "security_schemes", "resources"]

/-- Keys of a resource that are neither a name of its model nor a path nor a method. -/
abbrev Resource.Undeclared (k : Scalar) : Prop :=
  Unknown Resource.fieldNames k ∧ isPath k = false ∧ method? k = none

/-- Keys of a description that are neither a name of its model nor a path. -/
abbrev Root.Undeclared (k : Scalar) : Prop :=
  Unknown Root.fieldNames k ∧ isPath k = false

inductive MoreInParameter : Datum → Datum → Prop
  | itself {d e} : OneMore (Unknown Parameter.fieldNames) d e → MoreInParameter d e
  | alternative {d e} (before after) : OneMore (Unknown Parameter.fieldNames) d e →
      MoreInParameter (.list (before ++ d :: after)) (.list (before ++ e :: after))

inductive MoreInParameters : Datum → Datum → Prop
  | parameter {k d e es fs} : OneValue k d e es fs → MoreInParameter d e →
      MoreInParameters (.map es) (.map fs)

inductive MoreInResponses : Datum → Datum → Prop
  | response {k d e es fs} : OneValue k d e es fs → OneMore (Unknown Response.fieldNames) d e →
      MoreInResponses (.map es) (.map fs)

/-- An undeclared key more in a method, in one of its parameters or in one of its responses. -/
inductive MoreInAction : Datum → Datum → Prop
  | itself {d e} : OneMore (Unknown Action.fieldNames) d e → MoreInAction d e
  | header {d e es fs} : OneValue (.text "headers") d e es fs → MoreInParameters d e →
      MoreInAction (.map es) (.map fs)
  | query {name d e es fs} : name = "queryParameters" ∨ name = "query_parameters" →
      OneValue (.text name) d e es fs → MoreInParameters d e → MoreInAction (.map es) (.map fs)
  | response {d e es fs} : OneValue (.text "responses") d e es fs → MoreInResponses d e →
      MoreInAction (.map es) (.map fs)

/-- An undeclared key more in a resource, or in what stands in one at any depth. -/
inductive MoreInResource : Datum → Datum → Prop
  | itself {d e} : OneMore Resource.Undeclared d e → MoreInResource d e
  | parameter {name d e es fs} : name = "uriParameters" ∨ name = "uri_parameters" →
      OneValue (.text name) d e es fs → MoreInParameters d e → MoreInResource (.map es) (.map fs)
  | method {k d e es fs} : isPath k = false → (method? k).isSome = true → OneValue k d e es fs →
      MoreInAction d e → MoreInResource (.map es) (.map fs)
  | action {d e g h es fs} : OneValue (.text "actions") g h es fs → ValueOfGroup d e g h →
      MoreInAction d e → MoreInResource (.map es) (.map fs)
  | path {k d e es fs} : isPath k = true → OneValue k d e es fs → MoreInResource d e →
      MoreInResource (.map es) (.map fs)
  | resource {d e g h es fs} : OneValue (.text "resources") g h es fs → ValueOfGroup d e g h →
      MoreInResource d e → MoreInResource (.map es) (.map fs)

inductive MoreInSchemes : Datum → Datum → Prop
  | map {k d e es fs} : OneValue k d e es fs → OneMore (Unknown SecurityScheme.fieldNames) d e →
      MoreInSchemes (.map es) (.map fs)
  | list {k d e es fs} (before after) : OneValue k d e es fs →
      OneMore (Unknown SecurityScheme.fieldNames) d e →
      MoreInSchemes (.list (before ++ .map es :: after)) (.list (before ++ .map fs :: after))

/-- A description with an undeclared key more in one of its maps. -/
inductive MoreInRoot : Datum → Datum → Prop
  | itself {d e} : OneMore Root.Undeclared d e → MoreInRoot d e
  | parameter {name d e es fs} : name = "baseUriParameters" ∨ name = "base_uri_parameters" →
      OneValue (.text name) d e es fs → MoreInParameters d e → MoreInRoot (.map es) (.map fs)
  | scheme {name d e es fs} : name = "securitySchemes" ∨ name = "security_schemes" →
      OneValue (.text name) d e es fs → MoreInSchemes d e → MoreInRoot (.map es) (.map fs)
  | path {k d e es fs} : isPath k = true → OneValue k d e es fs → MoreInResource d e →
      MoreInRoot (.map es) (.map fs)
  | resource {d e g h es fs} : OneValue (.text "resources") g h es fs → ValueOfGroup d e g h →
      MoreInResource d e → MoreInRoot (.map es) (.map fs)

end Places

section Readers

variable {mediaType d e : Datum} {es fs : List (Scalar × Datum)}

/-- What is read of a map depends on what stands under some names only. -/
def ReadsNames {α : Type} (names : List String) (read : Datum → α) : Prop :=
  ∀ es fs, (∀ name ∈ names, lookup? es name = lookup? fs name) → read (.map es) = read (.map fs)

theorem ReadsNames.of_more {α : Type} {names : List String} {read : Datum → α}
    (reads : ReadsNames names read) (h : OneMore (Unknown names) d e) : read d = read e := by
  cases h with
  | mk d before after unknown =>
    apply reads
    intro name known
    exact lookup?_insert (unknown name known) d before after

theorem Parameter.readsNames (kind : ParameterKind) :
    ReadsNames Parameter.fieldNames (Parameter.read kind) := by
  intro es fs names
  simp only [Parameter.fieldNames, List.forall_mem_cons] at names
  simp only [Parameter.read, fields, andThen, field, field?, names]

theorem Response.readsNames (mediaType : Datum) :
    ReadsNames Response.fieldNames (Response.read mediaType) := by
  intro es fs names
  simp only [Response.fieldNames, List.forall_mem_cons] at names
  simp only [Response.read, fields, andThen, field, field?, names]

theorem Action.readsNames (mediaType : Datum) :
    ReadsNames Action.fieldNames (Action.read mediaType) := by
  intro es fs names
  simp only [Action.fieldNames, List.forall_mem_cons] at names
  simp only [Action.read, fields, andThen, field, field?, names]

theorem SecurityScheme.readsNames :
    ReadsNames SecurityScheme.fieldNames SecurityScheme.read := by
  intro es fs names
  simp only [SecurityScheme.fieldNames, List.forall_mem_cons] at names
  simp only [SecurityScheme.read, fields, andThen, field, field?, names]

theorem related_shaped {α : Type} {check : Datum → Checked α} {change : Datum → Datum}
    (h : Alike (fun d e => check (change d) = check (change e)) es fs) :
    Related (fun d e => entries check d = entries check e) (keyedByText change es)
      (keyedByText change fs) := by
  refine .imp ?_ (related_keyedByText (R := fun d e => check d = check e) h)
  rintro _ _ ⟨es', fs', rfl, rfl, alike⟩
  exact entriesOf_congr alike

/-- A check of the values of a map that are put into shape first. -/
theorem entries_keyedByText_congr {α : Type} {check : Datum → Checked α} {change : Datum → Datum}
    (h : Alike (fun d e => check (change d) = check (change e)) es fs) :
    (keyedByText change es).andThen (entries check) =
      (keyedByText change fs).andThen (entries check) :=
  (related_shaped h).andThen_eq

/-- Of several declarations of a parameter, the first one is read, with or without a key more. -/
theorem MoreInParameter.read_eq (kind : ParameterKind) (h : MoreInParameter d e) :
    Parameter.read kind (firstDeclaration d) = Parameter.read kind (firstDeclaration e) := by
  cases h with
  | itself more =>
    cases more with
    | mk v before after unknown => exact (Parameter.readsNames kind).of_more (.mk v _ _ unknown)
  | alternative before after more =>
    cases before with
    | nil =>
      change Parameter.read kind (orEmpty _) = Parameter.read kind (orEmpty _)
      rw [more.orEmpty.1, more.orEmpty.2]
      exact (Parameter.readsNames kind).of_more more
    | cons first rest => rfl

theorem MoreInParameters.readAll_eq (kind : ParameterKind) (h : MoreInParameters d e) :
    Parameter.readAll kind d = Parameter.readAll kind e := by
  cases h with
  | parameter one inside =>
    exact entries_keyedByText_congr (one.alike (fun _ => rfl) (inside.read_eq kind))

theorem MoreInResponses.readAll_eq (h : MoreInResponses d e) :
    Response.readAll mediaType d = Response.readAll mediaType e := by
  cases h with
  | response one more =>
    refine entries_keyedByText_congr (one.alike (fun _ => rfl) ?_)
    rw [more.orEmpty.1, more.orEmpty.2]
    exact (Response.readsNames mediaType).of_more more

theorem Action.read_congr
    (names : ∀ name ∈ ["description", "body"], lookup? es name = lookup? fs name)
    (headers : field es "headers" "headers" [] (Parameter.readAll .header) =
      field fs "headers" "headers" [] (Parameter.readAll .header))
    (queries : field es "queryParameters" "query_parameters" [] (Parameter.readAll .query) =
      field fs "queryParameters" "query_parameters" [] (Parameter.readAll .query))
    (responses : field es "responses" "responses" [] (Response.readAll mediaType) =
      field fs "responses" "responses" [] (Response.readAll mediaType)) :
    Action.read mediaType (.map es) = Action.read mediaType (.map fs) := by
  simp only [List.forall_mem_cons] at names
  simp only [Action.read, fields, andThen, headers, queries, responses]
  simp only [field, field?, names]

theorem MoreInAction.orEmpty (h : MoreInAction d e) :
    Raml.orEmpty d = d ∧ Raml.orEmpty e = e := by
  cases h with
  | itself more => exact more.orEmpty
  | header | query | response => exact ⟨rfl, rfl⟩

theorem MoreInAction.read_eq (h : MoreInAction d e) :
    Action.read mediaType d = Action.read mediaType e := by
  cases h with
  | itself more => exact (Action.readsNames mediaType).of_more more
  | header one inside =>
    apply Action.read_congr
    · exact one.lookup?_eq_of (by decide)
    · exact one.field_eq [] (inside.readAll_eq _)
    · exact one.field_other [] _ (by decide) (by decide)
    · exact one.field_other [] _ (by decide) (by decide)
  | query named one inside =>
    have apart := unknown_of_either named ["description", "body", "headers", "responses"]
      (by decide) (by decide)
    apply Action.read_congr
    · exact one.lookup?_eq_of fun other known =>
        apart other (List.mem_append_left ["headers", "responses"] known)
    · exact one.field_other [] _ (apart _ (by decide)) (apart _ (by decide))
    · exact one.field_eq [] (inside.readAll_eq _)
    · exact one.field_other [] _ (apart _ (by decide)) (apart _ (by decide))
  | response one inside =>
    apply Action.read_congr
    · exact one.lookup?_eq_of (by decide)
    · exact one.field_other [] _ (by decide) (by decide)
    · exact one.field_other [] _ (by decide) (by decide)
    · exact one.field_eq [] inside.readAll_eq

def schemeShape : Datum → Checked Datum
  | .map es => keyedByText orEmpty es
  | other => .accepted other

theorem declarationList_schemes (ds : List Datum) :
    declarationList schemeEntries (.list ds) =
      Checked.map .list (inTurn (ds.map schemeShape)) := by
  refine congrArg (fun shape => Checked.map Datum.list (inTurn (ds.map shape))) (funext fun d => ?_)
  cases d <;> rfl

/-- Maps of security schemes that are read alike. -/
def SameSchemes (d e : Datum) : Prop :=
  entries SecurityScheme.read d = entries SecurityScheme.read e

theorem MoreInSchemes.readSchemes_eq (h : MoreInSchemes d e) : readSchemes d = readSchemes e := by
  have map {k d e es fs} (one : OneValue k d e es fs)
      (more : OneMore (Unknown SecurityScheme.fieldNames) d e) :
      Related SameSchemes (keyedByText orEmpty es) (keyedByText orEmpty fs) := by
    refine related_shaped (one.alike (fun _ => rfl) ?_)
    rw [more.orEmpty.1, more.orEmpty.2]
    exact SecurityScheme.readsNames.of_more more
  have shaped : Related (fun d e => Checked.list (entries SecurityScheme.read) d =
      Checked.list (entries SecurityScheme.read) e) (declarationList schemeEntries d)
      (declarationList schemeEntries e) := by
    cases h with
    | map one more =>
      exact .map (R := SameSchemes) (f := fun m => Datum.list [m])
        (g := fun m => Datum.list [m])
        (fun _ _ same => items_congr (.cons same .nil)) (map one more)
    | list before after one more =>
      have same (ds : List Datum) : List.Forall₂ (Related SameSchemes) (ds.map schemeShape)
          (ds.map schemeShape) :=
        List.forall₂_same.mpr fun outcome _ => .refl (R := SameSchemes) (fun _ => rfl) outcome
      rw [declarationList_schemes, declarationList_schemes, List.map_append, List.map_append]
      refine .map (R := List.Forall₂ SameSchemes) (f := Datum.list) (g := Datum.list)
        (fun _ _ alike => items_congr alike) (.inTurn ?_)
      exact List.rel_append (same before) (.cons (map one more) (same after))
  exact shaped.andThen_eq

end Readers

section Resources

variable {mediaType d e : Datum} {es fs : List (Scalar × Datum)}

theorem pathsOf_insert {k : Scalar} (noPath : isPath k = false) (d : Datum)
    (before after : List (Scalar × Datum)) :
    pathsOf (before ++ after) = pathsOf (before ++ (k, d) :: after) := by
  simp [pathsOf, path?_eq_none noPath]

theorem methodsOf_insert {k : Scalar} (noMethod : method? k = none) (d : Datum)
    (before after : List (Scalar × Datum)) :
    methodsOf (before ++ after) = methodsOf (before ++ (k, d) :: after) := by
  simp [methodsOf, noMethod]

theorem pathsOf_eq_of_oneValue {k : Scalar} (h : OneValue k d e es fs) (noPath : isPath k = false) :
    pathsOf es = pathsOf fs := by
  cases h with
  | mk before after => rw [← pathsOf_insert noPath, ← pathsOf_insert noPath]

theorem methodsOf_eq_of_oneValue {k : Scalar} (h : OneValue k d e es fs)
    (noMethod : method? k = none) : methodsOf es = methodsOf fs := by
  cases h with
  | mk before after => rw [← methodsOf_insert noMethod, ← methodsOf_insert noMethod]

theorem Resource.read_of_more (h : OneMore Resource.Undeclared d e) :
    Resource.read mediaType d = Resource.read mediaType e := by
  cases h with
  | mk v before after undeclared =>
    obtain ⟨unknown, noPath, noMethod⟩ := undeclared
    have names : ∀ name ∈ Resource.fieldNames, lookup? (before ++ after) name =
        lookup? (before ++ (_, v) :: after) name :=
      fun name known => lookup?_insert (unknown name known) v before after
    apply Resource.ofEntries_congr
    · exact fun name known => names name (by revert name; decide)
    · exact field_congr (names _ (by decide)) (names _ (by decide))
    · exact pathsOf_insert noPath v before after
    · exact methodsOf_insert noMethod v before after

/-- A resource is read as without the key that it or what stands in it does not declare. -/
theorem MoreInResource.readAlike (h : MoreInResource d e) :
    Resource.ReadAlike Eq mediaType d e := by
  have same (d : Datum) : Resource.ReadAlike Eq mediaType d d := .refl (fun _ => rfl) mediaType d
  have sameAction (d : Datum) : Action.ReadAlike Eq mediaType d d :=
    .refl (fun _ => rfl) mediaType d
  have sameValues := InResource.refl same sameAction
  have ofAction {d e : Datum} (inside : MoreInAction d e) : Action.ReadAlike Eq mediaType d e := by
    rw [Action.ReadAlike, inside.read_eq]
    exact sameAction _
  induction h with
  | itself more =>
    rw [Resource.ReadAlike, Resource.read_of_more more]
    exact same _
  | @parameter name d e es fs named one inside =>
    have read : Resource.ofEntries mediaType es = Resource.ofEntries mediaType fs := by
      apply Resource.ofEntries_congr
      · exact one.lookup?_eq_of (unknown_of_either named _ (by decide) (by decide))
      · exact one.field_eq [] (inside.readAll_eq _)
      · refine pathsOf_eq_of_oneValue one ?_
        rcases named with rfl | rfl <;> rfl
      · refine methodsOf_eq_of_oneValue one ?_
        rcases named with rfl | rfl <;> decide
    change Related Eq (Resource.ofEntries mediaType es) (Resource.ofEntries mediaType fs)
    rw [read]
    exact .refl (fun _ => rfl) _
  | method noPath method one inside =>
    refine Resource.readAlike_map (one.byKey sameValues (.ofMethod noPath method ?_))
    rw [inside.orEmpty.1, inside.orEmpty.2]
    exact ofAction inside
  | action one inGroup inside =>
    refine Resource.readAlike_map (one.byKey sameValues (.ofActions ?_))
    exact (inGroup.groupAlike sameAction (ofAction inside)).related_looseEntries sameAction
  | path path one inside ih =>
    exact Resource.readAlike_map (one.byKey sameValues (.ofPath path ih.orEmpty))
  | resource one inGroup inside ih =>
    refine Resource.readAlike_map (one.byKey sameValues (.ofResources ?_))
    exact (inGroup.groupAlike same ih).related_looseEntries same

end Resources

section Root

variable {d e : Datum} {es fs : List (Scalar × Datum)}

/-- A description is read from its paths and from what stands under its names. -/
theorem Root.read_congr
    (names : ∀ name ∈ "resources" :: Root.plainNames, lookup? es name = lookup? fs name)
    (parameters : field es "baseUriParameters" "base_uri_parameters" [] (Parameter.readAll .uri) =
      field fs "baseUriParameters" "base_uri_parameters" [] (Parameter.readAll .uri))
    (schemes : field es "securitySchemes" "security_schemes" [] readSchemes =
      field fs "securitySchemes" "security_schemes" [] readSchemes)
    (paths : pathsOf es = pathsOf fs) :
    Root.read (.map es) = Root.read (.map fs) := by
  have group_eq {name : String} (known : name ∈ "resources" :: Root.plainNames) :
      group es name = group fs name := by
    rw [group, names name known]
    rfl
  have resources : topResources es = topResources fs := by
    rw [topResources_eq, topResources_eq, group_eq (by decide), paths]
  rw [Root.read, Root.read, group_eq (by decide)]
  apply Root.ofEntries_congr
  · exact fun name known => names name (List.mem_cons_of_mem _ known)
  · exact parameters
  · exact schemes
  · rw [resources]
    apply (Related.refl (fun _ => rfl) (topResources fs)).imp
    intro ps qs same
    rw [same]

theorem Root.read_of_more (h : OneMore Root.Undeclared d e) : Root.read d = Root.read e := by
  cases h with
  | mk v before after undeclared =>
    have names : ∀ name ∈ Root.fieldNames, lookup? (before ++ after) name =
        lookup? (before ++ (_, v) :: after) name :=
      fun name known => lookup?_insert (undeclared.1 name known) v before after
    apply Root.read_congr
    · exact fun name known => names name (by revert name; decide)
    · exact field_congr (names _ (by decide)) (names _ (by decide))
    · exact field_congr (names _ (by decide)) (names _ (by decide))
    · exact pathsOf_insert undeclared.2 v before after

theorem MoreInRoot.read_eq (h : MoreInRoot d e) : Root.read d = Root.read e := by
  have same (mediaType : Datum) := Resource.ReadAlike.refl (R := Eq) (fun _ => rfl) mediaType
  have sameSchemas (d : Datum) :
      Related (List.Forall₂ (Alike Eq)) (readSchemas d) (readSchemas d) :=
    readSchemas_refl (fun _ => rfl) d
  have sameValues (mediaType : Datum) (k : Scalar) (d : Datum) :
      InRoot (Resource.ReadAlike Eq mediaType) (fun d e =>
        Related (List.Forall₂ (Alike Eq)) (readSchemas d) (readSchemas e)) k d d :=
    .refl (same mediaType) sameSchemas k d
  have eq_of_related {es fs : List (Scalar × Datum)}
      (related : Related (Root.Corresponds Eq Eq) (Root.read (.map es)) (Root.read (.map fs))) :
      Root.read (.map es) = Root.read (.map fs) :=
    (related.imp fun _ _ => Root.Corresponds.eq).eq
  cases h with
  | itself more => exact Root.read_of_more more
  | parameter named one inside =>
    have apart := unknown_of_either named ["securitySchemes", "security_schemes"]
      (by decide) (by decide)
    apply Root.read_congr
    · exact one.lookup?_eq_of (unknown_of_either named _ (by decide) (by decide))
    · exact one.field_eq [] (inside.readAll_eq _)
    · exact one.field_other [] _ (apart _ (by decide)) (apart _ (by decide))
    · refine pathsOf_eq_of_oneValue one ?_
      rcases named with rfl | rfl <;> rfl
  | scheme named one inside =>
    have apart := unknown_of_either named ["baseUriParameters", "base_uri_parameters"]
      (by decide) (by decide)
    apply Root.read_congr
    · exact one.lookup?_eq_of (unknown_of_either named _ (by decide) (by decide))
    · exact one.field_other [] _ (apart _ (by decide)) (apart _ (by decide))
    · exact one.field_eq [] inside.readSchemes_eq
    · refine pathsOf_eq_of_oneValue one ?_
      rcases named with rfl | rfl <;> rfl
  | path path one inside =>
    exact eq_of_related (Root.related_read (one.byKey (sameValues _)
      (.ofPath path inside.readAlike.orEmpty)))
  | resource one inGroup inside =>
    refine eq_of_related (Root.related_read (one.byKey (sameValues _) (.ofResources ?_)))
    exact (inGroup.groupAlike (same _) inside.readAlike).related_looseEntries (same _)

/-- Entries under undeclared keys, added to a description or taken out of it wherever a model is
read from a map, change neither the tree nor the faults. -/
theorem read_of_undeclared {d e : Datum} (h : Relation.EqvGen MoreInRoot d e) :
    Root.read d = Root.read e := by
  induction h with
  | rel d e more => exact more.read_eq
  | refl d => rfl
  | symm d e _ ih => exact ih.symm
  | trans d e f _ _ ihFirst ihSecond => exact ihFirst.trans ihSecond

/-- The entries of a resource with one method that takes a header, as one declares it. -/
def tracedPets (declaration : List (Scalar × Datum)) : List (Scalar × Datum) :=
  [(.text "get", .map [(.text "headers",
    .map [(.text "X-Trace", .list [.map declaration])])])]

/-- One description has an undeclared key in a declaration of a header, the other at its root. -/
theorem read_of_undeclared_tracedPets : ∃ root,
    Root.read (petsApi "text/xml" (tracedPets
      [(.text "is", .text "traced"), (.text "type", .text "integer")])) = .accepted root ∧
    Root.read (.map [(.text "traits", .list []), (.text "mediaType", .text "text/xml"),
      (.text "/pets", .map (tracedPets [(.text "type", .text "integer")]))]) = .accepted root := by
  have resource : ∃ r, Resource.read (.text "text/xml")
      (.map (tracedPets [(.text "type", .text "integer")])) = .accepted r := by
    change ∃ r, Resource.ofEntries _ _ = _
    rw [Resource.ofEntries_eq]
    exact ⟨_, rfl⟩
  obtain ⟨r, hr⟩ := resource
  have inHeader : MoreInRoot
      (petsApi "text/xml" (tracedPets [(.text "type", .text "integer")]))
      (petsApi "text/xml" (tracedPets
        [(.text "is", .text "traced"), (.text "type", .text "integer")])) :=
    .path (k := .text "/pets") (by decide) (.mk [_] [])
      (.method (k := .text "get") (by decide) (by decide) (.mk [] [])
        (.header (.mk [] []) (.parameter (.mk [] [])
          (.alternative [] [] (.mk _ [] [_] (by decide))))))
  have atRoot : MoreInRoot
      (petsApi "text/xml" (tracedPets [(.text "type", .text "integer")]))
      (.map [(.text "traits", .list []), (.text "mediaType", .text "text/xml"),
        (.text "/pets", .map (tracedPets [(.text "type", .text "integer")]))]) :=
    .itself (.mk _ [] [_, _] (by decide))
  have accepted := read_petsApi hr
  refine ⟨_, ?_, (read_of_undeclared (.symm _ _ (.rel _ _ atRoot))).trans accepted⟩
  exact (read_of_undeclared (.symm _ _ (.rel _ _ inHeader))).trans accepted

end Root

end Raml

end RamlBridge
