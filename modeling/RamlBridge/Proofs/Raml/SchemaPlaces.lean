import RamlBridge.Proofs.Raml.Correspondence
import RamlBridge.Proofs.Validation.Accepted

/-!
The places of a description that hold a schema: the entries of its declared schemas, and the
bodies of requests and responses at every depth. Two descriptions that differ in the schema at one
of them are read alike, as far as the texts of the two schemas may stand for each other.
-/
namespace RamlBridge.Raml

open Checked Datum

section Places

variable (v w : Datum)

inductive SchemaOfBody : Datum → Datum → Prop
  | schema {es fs} : OneValue (.text "schema") v w es fs → SchemaOfBody (.map es) (.map fs)

/-- The schema of one of the bodies that a value declares, by media type or by itself. -/
inductive SchemaInBodies : Datum → Datum → Prop
  | single {es fs} : holdsSlash es = false → OneValue (.text "schema") v w es fs →
      SchemaInBodies (.map es) (.map fs)
  | listed {k d e es fs} : holdsSlash es = true → OneValue k d e es fs → SchemaOfBody v w d e →
      SchemaInBodies (.map es) (.map fs)

inductive SchemaInResponse : Datum → Datum → Prop
  | body {d e es fs} : OneValue (.text "body") d e es fs → SchemaInBodies v w d e →
      SchemaInResponse (.map es) (.map fs)

/-- The schema of a body of a method, or of one of its responses. -/
inductive SchemaInMethod : Datum → Datum → Prop
  | body {d e es fs} : OneValue (.text "body") d e es fs → SchemaInBodies v w d e →
      SchemaInMethod (.map es) (.map fs)
  | response {k d e rs rs' es fs} : OneValue (.text "responses") (.map rs) (.map rs') es fs →
      OneValue k d e rs rs' → SchemaInResponse v w d e → SchemaInMethod (.map es) (.map fs)

inductive ValueOfPair : Datum → Datum → Prop
  | list (k) : ValueOfPair (.list [k, v]) (.list [k, w])
  | pair (k) : ValueOfPair (.pair k v) (.pair k w)

/-- The value of an entry of a group, however the entries are written. -/
inductive ValueOfGroup : Datum → Datum → Prop
  | map {k es fs} : OneValue k v w es fs → ValueOfGroup (.map es) (.map fs)
  | list {p q} (before after) : ValueOfPair v w p q →
      ValueOfGroup (.list (before ++ p :: after)) (.list (before ++ q :: after))
  | first {p q} (r) : ValueOfPair v w p q → ValueOfGroup (.pair p r) (.pair q r)
  | second {p q} (r) : ValueOfPair v w p q → ValueOfGroup (.pair r p) (.pair r q)

inductive SchemaInResource : Datum → Datum → Prop
  | method {k d e es fs} : isPath k = false → (method? k).isSome = true → OneValue k d e es fs →
      SchemaInMethod v w d e → SchemaInResource (.map es) (.map fs)
  | action {d e g h es fs} : OneValue (.text "actions") g h es fs → ValueOfGroup d e g h →
      SchemaInMethod v w d e → SchemaInResource (.map es) (.map fs)
  | path {k d e es fs} : isPath k = true → OneValue k d e es fs → SchemaInResource d e →
      SchemaInResource (.map es) (.map fs)
  | resource {d e g h es fs} : OneValue (.text "resources") g h es fs → ValueOfGroup d e g h →
      SchemaInResource d e → SchemaInResource (.map es) (.map fs)

inductive SchemaInRoot : Datum → Datum → Prop
  | declared {k ss ss' es fs} : OneValue (.text "schemas") (.map ss) (.map ss') es fs →
      OneValue k v w ss ss' → SchemaInRoot (.map es) (.map fs)
  | listed {k ss ss' es fs} (before after) :
      OneValue (.text "schemas") (.list (before ++ .map ss :: after))
        (.list (before ++ .map ss' :: after)) es fs →
      OneValue k v w ss ss' → SchemaInRoot (.map es) (.map fs)
  | path {k d e es fs} : isPath k = true → OneValue k d e es fs → SchemaInResource v w d e →
      SchemaInRoot (.map es) (.map fs)
  | resource {d e g h es fs} : OneValue (.text "resources") g h es fs → ValueOfGroup d e g h →
      SchemaInResource v w d e → SchemaInRoot (.map es) (.map fs)

end Places

section Groups

variable {S : Datum → Datum → Prop} {d e p q : Datum}

theorem ValueOfPair.pairAlike (h : ValueOfPair d e p q) (hde : S d e) : PairAlike S p q := by
  cases h with
  | list k => exact .list k hde
  | pair k => exact .pair k hde

theorem ValueOfGroup.groupAlike (h : ValueOfGroup d e p q) (refl : ∀ d, S d d) (hde : S d e) :
    GroupAlike S p q := by
  cases h with
  | map one => exact .map (one.alike refl hde)
  | list before after one =>
    have same (ds : List Datum) : List.Forall₂ (PairAlike S) ds ds :=
      List.forall₂_same.mpr fun d _ => .same d
    exact .list (List.rel_append (same before) (.cons (one.pairAlike hde) (same after)))
  | first r one => exact .pair (one.pairAlike hde) (.same r)
  | second r one => exact .pair (.same r) (one.pairAlike hde)

end Groups

/-- A schema is kept as a text, wherever it stands. -/
structure KeptAs (v : Datum) (s : String) : Prop where
  ofBody : schemaText v = .accepted (.text s)
  declared : ∀ k, namedSchema (k, v) = (textKey k).andThen fun key => .accepted (key, .text s)

theorem keptAs_text (s : String) : KeptAs (.text s) s :=
  ⟨rfl, fun _ => rfl⟩

/-- Two schemas are kept as texts that may stand for each other. -/
structure Interchange (T : String → String → Prop) (v w : Datum) : Prop where
  refl : ∀ s, T s s
  kept : ∃ s t, KeptAs v s ∧ KeptAs w t ∧ T s t

section Bodies

variable {T : String → String → Prop} {mediaType v w : Datum}

structure Body.Corresponds (T : String → String → Prop) (b c : Body) : Prop where
  schema : Option.Rel T b.schema c.schema
  sample : b.sample = c.sample

/-- Methods that differ only in schemas that may stand for each other. -/
abbrev Action.SameBut (T : String → String → Prop) : Action → Action → Prop :=
  Action.Corresponds (Body.Corresponds T)

theorem optionRel_refl (refl : ∀ s, T s s) (o : Option String) : Option.Rel T o o := by
  cases o with
  | none => exact .none
  | some s => exact .some (refl s)

theorem Body.Corresponds.refl (refl : ∀ s, T s s) (b : Body) : b.Corresponds T b :=
  ⟨optionRel_refl refl b.schema, rfl⟩

theorem Response.Corresponds.refl (refl : ∀ s, T s s) (r : Response) :
    r.Corresponds (Body.Corresponds T) r :=
  ⟨rfl, alike_refl (Body.Corresponds.refl refl) _⟩

theorem Action.SameBut.refl (refl : ∀ s, T s s) (a : Action) : a.SameBut T a :=
  ⟨rfl, rfl, rfl, alike_refl (Body.Corresponds.refl refl) _,
    alike_refl (Response.Corresponds.refl refl) _⟩

def readSchema (d : Datum) : Checked (Option String) :=
  (schemaText d).andThen (nullable text)

theorem Interchange.related_readSchema (swap : Interchange T v w) :
    Related (Option.Rel T) (readSchema v) (readSchema w) := by
  obtain ⟨s, t, hv, hw, hst⟩ := swap.kept
  rw [readSchema, hv.ofBody, readSchema, hw.ofBody]
  exact .accepted (.some hst)

theorem Body.related_of_schema (swap : Interchange T v w) {d e : Datum}
    (h : SchemaOfBody v w d e) :
    Related (Body.Corresponds T) (Body.read d) (Body.read e) := by
  cases h with
  | @schema es fs one =>
    have byKey : ByKey (Under "schema" fun d e =>
        Related (Option.Rel T) (readSchema d) (readSchema e)) es fs :=
      one.byKey (.refl fun _ => .refl (optionRel_refl swap.refl) _)
        (.ofHere swap.related_readSchema)
    have schema : Related (Option.Rel T) (field es "schema" "schema_" none readSchema)
        (field fs "schema" "schema_" none readSchema) := by
      refine .field byKey .none (fun _ _ k => k.here rfl) fun d e k => ?_
      rw [k.other (by decide)]
      exact .refl (optionRel_refl swap.refl) _
    have sample : Related Eq (field es "example" "example" .null anything)
        (field fs "example" "example" .null anything) :=
      .sameField byKey _ _ (fun _ _ k => k.other (by decide)) (fun _ _ k => k.other (by decide))
    refine .seq (.map ?_ schema) sample
    intro schema schema' hschema sample sample' hsample
    exact ⟨hschema, hsample⟩

theorem Body.related_readAll_of_schema (swap : Interchange T v w) {d e : Datum}
    (h : SchemaInBodies v w d e) :
    Related (Alike (Body.Corresponds T)) (Body.readAll mediaType d)
      (Body.readAll mediaType e) := by
  cases h with
  | @single es fs noSlash one =>
    have keys : Alike (fun _ _ => True) es fs := one.alike (fun _ => trivial) trivial
    obtain ⟨given, given'⟩ := one.ne_nil
    -- The keys are the same, so on both sides the whole map is one body of the default type.
    rw [Body.readAll_of_noSlash given noSlash,
      Body.readAll_of_noSlash given' (holdsSlash_eq keys ▸ noSlash)]
    refine .andThen (fun _ _ _ => ?_)
      (related_keyedByText (R := fun _ _ => True) (one.alike (fun _ => trivial) trivial))
    refine .andThen (R := Eq) ?_ (.refl (fun _ => rfl) _)
    rintro name _ rfl
    exact .values (.cons ⟨rfl, Body.related_of_schema swap (.schema one)⟩ .nil)
  | @listed k d e es fs slash one ofBody =>
    refine Body.related_readAll slash (one.alike
      (fun d => .refl (Body.Corresponds.refl swap.refl) _) ?_)
    cases ofBody with
    | schema inner => exact Body.related_of_schema swap (.schema inner)

theorem Response.related_of_schema (swap : Interchange T v w) {d e : Datum}
    (h : SchemaInResponse v w d e) :
    Related (Response.Corresponds (Body.Corresponds T)) (Response.read mediaType d)
      (Response.read mediaType e) := by
  cases h with
  | body one inside =>
    refine Response.related_read (one.byKey (.refl fun _ => ?_)
      (.ofHere (Body.related_readAll_of_schema swap inside)))
    exact .refl (alike_refl (Body.Corresponds.refl swap.refl)) _

theorem Action.related_of_schema (swap : Interchange T v w) {d e : Datum}
    (h : SchemaInMethod v w d e) :
    Related (Action.SameBut T) (Action.read mediaType d) (Action.read mediaType e) := by
  have sameValues (k : Scalar) (d : Datum) : InMethod mediaType (Body.Corresponds T) k d d :=
    .refl (Body.Corresponds.refl swap.refl) k d
  cases h with
  | body one inside =>
    exact Action.related_read (one.byKey sameValues
      (.ofBodies (Body.related_readAll_of_schema swap inside)))
  | response one inner inside =>
    refine Action.related_read (one.byKey sameValues (.ofResponses ?_))
    refine Response.related_readAll (inner.alike
      (fun d => .refl (Response.Corresponds.refl swap.refl) _) ?_)
    cases inside with
    | body body inBodies => exact Response.related_of_schema swap (.body body inBodies)

end Bodies

section Resources

variable {T : String → String → Prop} {R : Resource → Resource → Prop} {mediaType v w : Datum}

/-- A relation holds of all resources that differ only in schemas which may stand for each other:
of each with itself, and of two whose methods differ so if it holds of the resources below them. -/
structure Respects (T : String → String → Prop) (R : Resource → Resource → Prop) : Prop where
  refl : ∀ r, R r r
  built : ∀ displayName description uriParameters actions actions' children children',
    Alike (Action.SameBut T) actions actions' → Alike R children children' →
    R ⟨displayName, description, uriParameters, actions, children⟩
      ⟨displayName, description, uriParameters, actions', children'⟩

theorem SchemaInMethod.orEmpty {d e : Datum} (h : SchemaInMethod v w d e) :
    Raml.orEmpty d = d ∧ Raml.orEmpty e = e := by
  cases h <;> exact ⟨rfl, rfl⟩

/-- Resources that differ in a schema are read as related ones, however deep it stands. -/
theorem Resource.related_of_schema (swap : Interchange T v w) (respects : Respects T R)
    {d e : Datum} (h : SchemaInResource v w d e) : Resource.ReadAlike R mediaType d e := by
  have sameValues := InResource.refl (Resource.ReadAlike.refl respects.refl mediaType)
    (Action.ReadAlike.refl (Action.SameBut.refl swap.refl) mediaType)
  -- On the way down to the schema: two cases end at a method, two go on to a resource below.
  induction h with
  | method noPath method one inside =>
    refine Resource.related_ofEntries respects.built (one.byKey sameValues
      (.ofMethod noPath method ?_))
    rw [inside.orEmpty.1, inside.orEmpty.2]
    exact Action.related_of_schema swap inside
  | action one inGroup inside =>
    refine Resource.related_ofEntries respects.built (one.byKey sameValues (.ofActions ?_))
    have refl := Action.ReadAlike.refl (Action.SameBut.refl swap.refl) mediaType
    exact (inGroup.groupAlike refl (Action.related_of_schema swap inside)).related_looseEntries refl
  | path path one inside ih =>
    exact Resource.related_ofEntries respects.built (one.byKey sameValues
      (.ofPath path ih.orEmpty))
  | resource one inGroup inside ih =>
    refine Resource.related_ofEntries respects.built (one.byKey sameValues (.ofResources ?_))
    have refl := Resource.ReadAlike.refl respects.refl mediaType
    exact (inGroup.groupAlike refl ih).related_looseEntries refl

end Resources

section Declared

variable {T : String → String → Prop} {v w : Datum}

/-- Texts that may stand for each other, and any other value with itself. -/
inductive TextAlike (T : String → String → Prop) : Datum → Datum → Prop
  | same (d) : TextAlike T d d
  | text {s t} : T s t → TextAlike T (.text s) (.text t)

inductive MapAlike (T : String → String → Prop) : Datum → Datum → Prop
  | same (d) : MapAlike T d d
  | map {es fs} : Alike (TextAlike T) es fs → MapAlike T (.map es) (.map fs)

theorem TextAlike.related_text (refl : ∀ s, T s s) {d e : Datum} (h : TextAlike T d e) :
    Related T (Checked.text d) (Checked.text e) := by
  cases h with
  | same d => exact .refl refl _
  | text hst => exact .accepted hst

theorem MapAlike.related_entries (refl : ∀ s, T s s) {d e : Datum} (h : MapAlike T d e) :
    Related (Alike T) (entries Checked.text d) (entries Checked.text e) := by
  cases h with
  | same d => exact .refl (alike_refl refl) _
  | map alike =>
    exact .values (alike.imp fun p q same => ⟨same.1, same.2.related_text refl⟩)

theorem Interchange.related_schemaEntries (swap : Interchange T v w) {k : Scalar}
    {es fs : List (Scalar × Datum)} (one : OneValue k v w es fs) :
    Related (MapAlike T) (schemaEntries es) (schemaEntries fs) := by
  have hole (k : Scalar) : Related (Keyed (TextAlike T)) (namedSchema (k, v))
      (namedSchema (k, w)) := by
    obtain ⟨s, t, hv, hw, hst⟩ := swap.kept
    rw [hv.declared, hw.declared]
    refine .andThen ?_ (.refl (fun _ => rfl) (textKey k))
    rintro key _ rfl
    exact .accepted ⟨rfl, .text hst⟩
  -- Every other entry comes out as it is; only the one that differs is related by the texts kept.
  have each : List.Forall₂ (Related (Keyed (TextAlike T))) (es.map namedSchema)
      (fs.map namedSchema) := by
    cases one with
    | mk before after =>
      have same (ps : List (Scalar × Datum)) : List.Forall₂ (Related (Keyed (TextAlike T)))
          (ps.map namedSchema) (ps.map namedSchema) :=
        List.forall₂_same.mpr fun outcome _ => .refl (fun q => ⟨rfl, .same q.2⟩) outcome
      rw [List.map_append, List.map_append]
      exact List.rel_append (same before) (.cons (hole k) (same after))
  exact .map (fun ps qs alike => .map (alike_ofPairs alike)) (.inTurn each)

inductive ListAlike (T : String → String → Prop) : Datum → Datum → Prop
  | list {ds es} : List.Forall₂ (MapAlike T) ds es → ListAlike T (.list ds) (.list es)

theorem ListAlike.related_list {d e : Datum} (refl : ∀ s, T s s) (h : ListAlike T d e) :
    Related (List.Forall₂ (Alike T)) (Checked.list (entries Checked.text) d)
      (Checked.list (entries Checked.text) e) := by
  cases h with
  | list alike => exact .items (alike.imp fun _ _ same => same.related_entries refl)

theorem Interchange.related_declared (swap : Interchange T v w) {k : Scalar}
    {es fs : List (Scalar × Datum)} (one : OneValue k v w es fs) :
    Related (List.Forall₂ (Alike T)) (readSchemas (.map es)) (readSchemas (.map fs)) := by
  have shaped : Related (ListAlike T) (declarationList schemaEntries (.map es))
      (declarationList schemaEntries (.map fs)) :=
    .map (fun _ _ alike => .list (.cons alike .nil)) (swap.related_schemaEntries one)
  exact .andThen (fun _ _ alike => alike.related_list swap.refl) shaped

def schemaItem (item : Datum) : Checked Datum :=
  match item with
  | .map es => schemaEntries es
  | other => .accepted other

theorem declarationList_list (items : List Datum) :
    declarationList schemaEntries (.list items) =
      Checked.map .list (inTurn (items.map schemaItem)) := rfl

theorem Interchange.related_listed (swap : Interchange T v w) {k : Scalar}
    {es fs : List (Scalar × Datum)} (one : OneValue k v w es fs) (before after : List Datum) :
    Related (List.Forall₂ (Alike T)) (readSchemas (.list (before ++ .map es :: after)))
      (readSchemas (.list (before ++ .map fs :: after))) := by
  have same (items : List Datum) : List.Forall₂ (Related (MapAlike T)) (items.map schemaItem)
      (items.map schemaItem) :=
    List.forall₂_same.mpr fun outcome _ => .refl .same outcome
  have each : List.Forall₂ (Related (MapAlike T)) ((before ++ .map es :: after).map schemaItem)
      ((before ++ .map fs :: after).map schemaItem) := by
    rw [List.map_append, List.map_append]
    exact List.rel_append (same before) (.cons (swap.related_schemaEntries one) (same after))
  have shaped : Related (ListAlike T)
      (declarationList schemaEntries (.list (before ++ .map es :: after)))
      (declarationList schemaEntries (.list (before ++ .map fs :: after))) := by
    rw [declarationList_list, declarationList_list]
    exact .map (fun _ _ => .list) (.inTurn each)
  exact .andThen (fun _ _ alike => alike.related_list swap.refl) shaped

end Declared

section Root

variable {T : String → String → Prop} {R : Resource → Resource → Prop} {v w : Datum}

/-- Descriptions that differ in a schema are read as ones that correspond, or refused for the same
reasons. -/
theorem Root.related_of_schema (swap : Interchange T v w) (respects : Respects T R) {d e : Datum}
    (h : SchemaInRoot v w d e) :
    Related (Root.Corresponds T R) (Root.read d) (Root.read e) := by
  have sameValues (mediaType : Datum) (k : Scalar) (d : Datum) :
      InRoot (Resource.ReadAlike R mediaType) (fun d e =>
        Related (List.Forall₂ (Alike T)) (readSchemas d) (readSchemas e)) k d d :=
    .refl (.refl respects.refl mediaType) (readSchemas_refl swap.refl) k d
  cases h with
  | declared one inner =>
    exact Root.related_read (one.byKey (sameValues _) (.ofSchemas (swap.related_declared inner)))
  | listed before after one inner =>
    exact Root.related_read (one.byKey (sameValues _)
      (.ofSchemas (swap.related_listed inner before after)))
  | path path one inside =>
    exact Root.related_read (one.byKey (sameValues _)
      (.ofPath path (Resource.related_of_schema swap respects inside).orEmpty))
  | resource one inGroup inside =>
    refine Root.related_read (one.byKey (sameValues _) (.ofResources ?_))
    have refl (mediaType : Datum) := Resource.ReadAlike.refl respects.refl mediaType
    exact (inGroup.groupAlike (refl _)
      (Resource.related_of_schema swap respects inside)).related_looseEntries (refl _)

/-- The declared schemas are what is read of one value. -/
theorem Root.ensures_schemas (mediaType : Datum) (es : List (Scalar × Datum)) :
    Ensures (Root.ofEntries mediaType es) fun root =>
      field es "schemas" "schemas" [] readSchemas = .accepted root.schemas := by
  refine .andThen fun tops _ => ?_
  refine .seq ?_ (.any _)
  refine .seq ?_ (.any _)
  refine .seq ?_ (.itself _)
  iterate 6 refine .seq ?_ (.any _)
  refine .map (.of_forall ?_)
  intro title version _ baseUri _ protocols _ mediaType _ declared _ documentation _ schemas
    hschemas schemes _ resources _
  exact hschemas

end Root

end RamlBridge.Raml
