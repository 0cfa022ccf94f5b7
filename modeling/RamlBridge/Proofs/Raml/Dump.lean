import RamlBridge.Proofs.Raml.Filed
import RamlBridge.Proofs.Raml.Root
import RamlBridge.Proofs.Raml.Sources
import RamlBridge.Raml.Listing

/-!
The tree of a description as a value of a document: every field under its name, null where it is
absent. What was read once is read from it again, unchanged.
-/
namespace RamlBridge

namespace Datum

def ofOption {α : Type} (f : α → Datum) : Option α → Datum
  | some a => f a
  | none => .null

def ofNamed {α : Type} (f : α → Datum) (es : Entries α) : Datum :=
  .map (textKeyed (es.mapValues f))

def ofBool (b : Bool) : Datum := .scalar (.bool b)

def ofNat (n : Nat) : Datum := .scalar (.int n)

end Datum

def Number.dump : Number → Datum
  | .int n => .scalar (.int n)
  | .float x => .scalar (.float x)

namespace Raml

open Checked Datum

section Dump

def Parameter.dump (p : Parameter) : Datum :=
  .map [
    (.text "display_name", ofOption .text p.displayName),
    (.text "description", ofOption .text p.description),
    (.text "type", .text p.type.name),
    (.text "enum", ofOption .list p.choices),
    (.text "pattern", ofOption .text p.pattern),
    (.text "min_length", ofOption ofNat p.minLength),
    (.text "max_length", ofOption ofNat p.maxLength),
    (.text "minimum", ofOption Number.dump p.minimum),
    (.text "maximum", ofOption Number.dump p.maximum),
    (.text "example", p.sample),
    (.text "default", p.fallback),
    (.text "repeat", ofBool p.repeats),
    (.text "required", ofBool p.required)]

def Body.dump (b : Body) : Datum :=
  .map [(.text "schema_", ofOption .text b.schema), (.text "example", b.sample)]

def Response.dump (r : Response) : Datum :=
  .map [
    (.text "description", ofOption .text r.description),
    (.text "body", ofNamed Body.dump r.bodies)]

def Action.dump (a : Action) : Datum :=
  .map [
    (.text "description", ofOption .text a.description),
    (.text "headers", ofNamed Parameter.dump a.headers),
    (.text "query_parameters", ofNamed Parameter.dump a.queryParameters),
    (.text "body", ofNamed Body.dump a.bodies),
    (.text "responses", ofNamed Response.dump a.responses)]

mutual

def Resource.dump : Resource → Datum
  | ⟨displayName, description, uriParameters, actions, children⟩ =>
    .map [
      (.text "display_name", ofOption .text displayName),
      (.text "description", ofOption .text description),
      (.text "uri_parameters", ofNamed Parameter.dump uriParameters),
      (.text "actions", ofNamed Action.dump actions),
      (.text "resources", .map (dumpForest children))]

def dumpForest : List (String × Resource) → List (Scalar × Datum)
  | [] => []
  | (key, r) :: rest => (.text key, Resource.dump r) :: dumpForest rest

end

def SecurityScheme.dump (s : SecurityScheme) : Datum :=
  .map [
    (.text "type", ofOption .text s.type),
    (.text "description", ofOption .text s.description),
    (.text "described_by", ofOption (ofNamed id) s.describedBy),
    (.text "settings", ofNamed id s.settings)]

def Documentation.dump (d : Documentation) : Datum :=
  .map [(.text "title", .text d.title), (.text "content", .text d.content)]

/-- A description as a value, every field of it under its name. -/
def Root.dump (root : Root) : Datum :=
  .map [
    (.text "title", .text root.title),
    (.text "version", ofOption .text root.version),
    (.text "base_uri", ofOption .text root.baseUri),
    (.text "protocols", .list (root.protocols.map .text)),
    (.text "media_type", ofOption .text root.mediaType),
    (.text "base_uri_parameters", ofNamed Parameter.dump root.baseUriParameters),
    (.text "documentation", .list (root.documentation.map Documentation.dump)),
    (.text "schemas", .list (root.schemas.map (ofNamed .text))),
    (.text "security_schemes", .list (root.securitySchemes.map (ofNamed SecurityScheme.dump))),
    (.text "resources", .map (dumpForest root.resources))]

theorem dumpForest_eq (forest : List (String × Resource)) :
    dumpForest forest = textKeyed (Entries.mapValues Resource.dump forest) := by
  induction forest with
  | nil => rfl
  | cons p rest ih =>
    obtain ⟨key, r⟩ := p
    rw [dumpForest, ih]
    rfl

end Dump

section Leaves

variable {α : Type} {check : Datum → Checked α}

theorem nullable_ofOption {f : α → Datum} (given : ∀ a, f a ≠ .null)
    (h : ∀ a, check (f a) = .accepted a) (o : Option α) :
    nullable check (ofOption f o) = .accepted o := by
  cases o with
  | none => rfl
  | some a => exact nullable_of_accepted (given a) (h a)

theorem nullable_ofText (t : Option String) :
    nullable text (ofOption .text t) = .accepted t :=
  nullable_ofOption (f := .text) (fun _ => nofun) (fun _ => rfl) t

theorem nullable_ofNat (n : Option Nat) : nullable count (ofOption ofNat n) = .accepted n := by
  refine nullable_ofOption (f := ofNat) (fun _ => nofun) (fun n => ?_) n
  have natural : (0 : Int) ≤ n := Int.natCast_nonneg n
  simp [count, ofNat, integer, andThen, natural]

theorem nullable_dump (x : Option Number) :
    nullable Number.read (ofOption Number.dump x) = .accepted x := by
  refine nullable_ofOption (fun x => ?_) (fun x => ?_) x
  · cases x <;> exact nofun
  · cases x <;> rfl

theorem read_typeName (t : ParameterType) : ParameterType.read (.text t.name) = .accepted t := by
  cases t <;> rfl

theorem Parameter.read_dump (kind : ParameterKind) (p : Parameter) :
    Parameter.read kind p.dump = .accepted p := by
  obtain ⟨displayName, description, type, choices, pattern, minLength, maxLength, minimum, maximum,
    sample, fallback, repeats, required⟩ := p
  refine seq_accepted ?_ (field_of_given rfl rfl)
  refine seq_accepted ?_ (field_of_given rfl rfl)
  refine seq_accepted ?_ (field_of_given rfl rfl)
  refine seq_accepted ?_ (field_of_given rfl rfl)
  refine seq_accepted ?_ (field_of_given rfl (nullable_dump maximum))
  refine seq_accepted ?_ (field_of_given rfl (nullable_dump minimum))
  refine seq_accepted ?_ (field_of_given rfl (nullable_ofNat maxLength))
  refine seq_accepted ?_ (field_of_given rfl (nullable_ofNat minLength))
  refine seq_accepted ?_ (field_of_given rfl (nullable_ofText pattern))
  refine seq_accepted ?_ (field_of_given rfl
    (nullable_ofOption (f := .list) (fun _ => nofun) list_anything choices))
  refine seq_accepted ?_ (field_of_given rfl (read_typeName type))
  refine seq_accepted ?_ (field_of_given rfl (nullable_ofText description))
  exact map_accepted (field_of_given rfl (nullable_ofText displayName))

/-- Named maps are in shape already. -/
theorem keyedByText_ofNamed {β : Type} (change : Datum → Datum) (f : β → Datum)
    (kept : ∀ b, change (f b) = f b) {es : Entries β} (distinct : es.names.Nodup) :
    keyedByText change (textKeyed (es.mapValues f)) = .accepted (ofNamed f es) := by
  apply keyedByText_textKeyed
  · rwa [Entries.names_mapValues]
  · intro p hp
    obtain ⟨q, _, rfl⟩ := List.mem_map.mp hp
    exact kept q.2

theorem Parameter.readAll_dump (kind : ParameterKind) {declared : Entries Parameter}
    (distinct : declared.names.Nodup) :
    Parameter.readAll kind (ofNamed Parameter.dump declared) = .accepted declared := by
  have shaped : parameterMap (ofNamed Parameter.dump declared) =
      .accepted (ofNamed Parameter.dump declared) :=
    keyedByText_ofNamed firstDeclaration Parameter.dump (fun _ => rfl) distinct
  rw [Parameter.readAll, shaped]
  exact entries_accepted distinct fun p _ => Parameter.read_dump kind p.2

end Leaves

section Methods

variable {mediaType d : Datum}

/-- Bodies of which at least one names a media type, if there are any. -/
def ByMediaType (bodies : Entries Body) : Prop :=
  bodies = [] ∨ ∃ p ∈ bodies, '/' ∈ p.1.toList

theorem Body.read_dump (b : Body) : Body.read b.dump = .accepted b := by
  obtain ⟨schema, sample⟩ := b
  have hschema : (schemaText (ofOption .text schema)).andThen (nullable text) =
      .accepted schema := by
    cases schema <;> rfl
  refine seq_accepted ?_ (field_of_given rfl rfl)
  exact map_accepted (field_of_given rfl hschema)

theorem Body.readAll_dump {bodies : Entries Body} (distinct : bodies.names.Nodup)
    (named : ByMediaType bodies) :
    Body.readAll mediaType (ofNamed Body.dump bodies) = .accepted bodies := by
  rcases named with rfl | ⟨p, hp, slash⟩
  · rfl
  · have holds : holdsSlash (textKeyed (bodies.mapValues Body.dump)) = true := by
      apply List.any_eq_true.mpr
      refine ⟨(.text p.1, p.2.dump), ?_, decide_eq_true slash⟩
      exact List.mem_map_of_mem (List.mem_map_of_mem hp)
    rw [ofNamed, Body.readAll_of_slash holds,
      keyedByText_ofNamed orEmpty Body.dump (fun _ => rfl) distinct]
    exact entries_accepted distinct fun q _ => Body.read_dump q.2

theorem Response.read_dump {r : Response} (distinct : r.bodies.names.Nodup)
    (named : ByMediaType r.bodies) : Response.read mediaType r.dump = .accepted r := by
  obtain ⟨description, bodies⟩ := r
  refine seq_accepted ?_ (field_of_given rfl (Body.readAll_dump distinct named))
  exact map_accepted (field_of_given rfl (nullable_ofText description))

theorem Response.readAll_dump {responses : Entries Response} (distinct : responses.names.Nodup)
    (bodies : ∀ p ∈ responses, p.2.bodies.names.Nodup)
    (named : ∀ p ∈ responses, ByMediaType p.2.bodies) :
    Response.readAll mediaType (ofNamed Response.dump responses) = .accepted responses := by
  change (keyedByText orEmpty _).andThen (entries (Response.read mediaType)) = _
  rw [keyedByText_ofNamed orEmpty Response.dump (fun _ => rfl) distinct]
  exact entries_accepted distinct fun p hp => Response.read_dump (bodies p hp) (named p hp)

/-- All that a method declares stands under distinct names. -/
structure Action.Sound (action : Action) : Prop extends Action.Distinct action where
  responseBodies : ∀ p ∈ action.responses, p.2.bodies.names.Nodup

structure Action.ByMediaType (action : Action) : Prop where
  bodies : Raml.ByMediaType action.bodies
  responses : ∀ p ∈ action.responses, Raml.ByMediaType p.2.bodies

theorem Action.read_dump {a : Action} (sound : a.Sound) (named : a.ByMediaType) :
    Action.read mediaType a.dump = .accepted a := by
  obtain ⟨description, headers, queries, bodies, responses⟩ := a
  refine seq_accepted ?_ (field_of_given rfl
    (Response.readAll_dump sound.responses sound.responseBodies named.responses))
  refine seq_accepted ?_ (field_of_given rfl (Body.readAll_dump sound.bodies named.bodies))
  refine seq_accepted ?_ (field_of_given rfl (Parameter.readAll_dump .query sound.queryParameters))
  refine seq_accepted ?_ (field_of_given rfl (Parameter.readAll_dump .header sound.headers))
  exact map_accepted (field_of_given rfl (nullable_ofText description))

theorem Response.ensures_distinct (mediaType d : Datum) :
    Ensures (Response.read mediaType d) fun r => r.bodies.names.Nodup := by
  refine .andThen fun es _ => ?_
  refine .seq ?_ (.field (Q := fun bodies => bodies.names.Nodup) List.nodup_nil
    (Body.ensures_readAll mediaType))
  refine .map (.of_forall ?_)
  intro description bodies distinct
  exact distinct

theorem Action.ensures_sound (mediaType d : Datum) :
    Ensures (Action.read mediaType d) Action.Sound := by
  have responses : Ensures (Action.read mediaType d) fun a =>
      ∀ p ∈ a.responses, p.2.bodies.names.Nodup := by
    refine .andThen fun es _ => ?_
    refine .seq ?_ (.field (Q := fun responses : Entries Response => ∀ p ∈ responses,
      p.2.bodies.names.Nodup) (fun p hp => absurd hp List.not_mem_nil)
      fun d => .andThen fun _ _ => Ensures.values (Response.ensures_distinct mediaType) _)
    iterate 3 refine .seq ?_ (.any _)
    refine .map (.of_forall ?_)
    intro description headers _ queries _ bodies _ responses each
    exact each
  intro a accepted
  exact ⟨Action.ensures_distinct mediaType d a accepted, responses a accepted⟩

end Methods

section Resources

variable {mediaType : Datum}

structure Resource.Sound (r : Resource) : Prop where
  uriParameters : r.uriParameters.names.Nodup
  actions : r.actions.names.Nodup
  each : ∀ p ∈ r.actions, p.2.Sound
  children : (Entries.names r.children).Nodup

def Resource.ByMediaType (r : Resource) : Prop :=
  ∀ p ∈ r.actions, p.2.ByMediaType

theorem Resource.ensures_sound (mediaType : Datum) (es : List (Scalar × Datum)) :
    Ensures (Resource.ofEntries mediaType es) Resource.Sound := by
  rw [Resource.ofEntries_eq]
  refine .andThen fun parts _ => ?_
  refine .seq ?_ (.under (.entriesOf _))
  refine .seq ?_ (.under (Q := fun actions => actions.names.Nodup ∧ ∀ p ∈ actions, p.2.Sound) ?_)
  · refine .seq ?_ (.field (Q := fun declared => declared.names.Nodup) List.nodup_nil
      (Parameter.ensures_readAll .uri))
    refine .seq ?_ (.any _)
    refine .map (.of_forall ?_)
    intro displayName description _ uriParameters huri actions hactions children hchildren
    exact ⟨huri, hactions.1, hactions.2, hchildren⟩
  · intro actions accepted
    exact ⟨Ensures.entries _ _ actions accepted,
      Ensures.values (Action.ensures_sound mediaType) _ actions accepted⟩

theorem Resource.sound_of_read {d : Datum} {r : Resource}
    (h : Resource.read mediaType d = .accepted r) : r.Sound := by
  unfold Resource.read at h
  split at h
  · exact Resource.ensures_sound mediaType _ r h
  · cases h
    exact ⟨List.nodup_nil, List.nodup_nil, fun p hp => absurd hp List.not_mem_nil, List.nodup_nil⟩
  · cases h

theorem Resource.read_dump {r : Resource} (sound : r.Sound) (named : r.ByMediaType)
    (below : ∀ p ∈ r.children, Resource.read mediaType p.2.dump = .accepted p.2) :
    Resource.read mediaType r.dump = .accepted r := by
  obtain ⟨displayName, description, uriParameters, actions, children⟩ := r
  have parts : Parts.ofEntries [
      (.text "display_name", ofOption .text displayName),
      (.text "description", ofOption .text description),
      (.text "uri_parameters", ofNamed Parameter.dump uriParameters),
      (.text "actions", ofNamed Action.dump actions),
      (.text "resources", .map (dumpForest children))] =
      .accepted ⟨dumpForest children, textKeyed (actions.mapValues Action.dump), [
        (.text "display_name", ofOption .text displayName),
        (.text "description", ofOption .text description),
        (.text "uri_parameters", ofNamed Parameter.dump uriParameters)]⟩ := by
    rw [Parts.ofEntries_eq]
    rfl
  have hactions : entries (Action.read mediaType)
      (.map (textKeyed (actions.mapValues Action.dump))) = .accepted actions :=
    entries_accepted sound.actions fun p hp => Action.read_dump (sound.each p hp) (named p hp)
  have hchildren : entriesOf ((dumpForest children).map
      fun p => (p.1, Resource.read mediaType p.2)) = .accepted children := by
    rw [dumpForest_eq]
    exact entries_accepted sound.children below
  change Resource.ofEntries mediaType _ = _
  rw [Resource.ofEntries_eq, parts]
  refine seq_accepted ?_ (congrArg (under _) hchildren)
  refine seq_accepted ?_ (congrArg (under _) hactions)
  refine seq_accepted ?_ (field_of_given rfl (Parameter.readAll_dump .uri sound.uriParameters))
  refine seq_accepted ?_ (field_of_given rfl (nullable_ofText description))
  exact map_accepted (field_of_given rfl (nullable_ofText displayName))

/-- A forest is read from what it is written out as. -/
theorem read_dumpForest {forest : List (String × Resource)}
    (h : ∀ keys r, Leads forest keys r → r.Sound ∧ r.ByMediaType) :
    ∀ p ∈ forest, Resource.read mediaType p.2.dump = .accepted p.2 := by
  induction forest using forest_induction with
  | nil => exact fun p hp => absurd hp List.not_mem_nil
  | cons key r rest ihBelow ihRest =>
    have first : Leads ((key, r) :: rest) [key] r := .here List.mem_cons_self
    intro p hp
    rcases List.mem_cons.mp hp with rfl | hp
    · apply Resource.read_dump (h _ _ first).1 (h _ _ first).2
      exact ihBelow fun keys s leads => h _ _ (.deeper List.mem_cons_self leads)
    · exact ihRest (fun keys s leads => h _ _ (leads.cons (key, r))) p hp

end Resources

section Root

structure SecurityScheme.Sound (scheme : SecurityScheme) : Prop where
  describedBy : ∀ es, scheme.describedBy = some es → es.names.Nodup
  settings : scheme.settings.names.Nodup

theorem SecurityScheme.ensures_sound (d : Datum) :
    Ensures (SecurityScheme.read d) SecurityScheme.Sound := by
  refine .andThen fun es _ => ?_
  refine .seq ?_ (.field (Q := fun settings => settings.names.Nodup) List.nodup_nil
    fun d => Ensures.entries anything (orEmpty d))
  refine .seq ?_ (.field (Q := fun o : Option (Entries Datum) => ∀ es, o = some es →
    es.names.Nodup) (fun es same => nomatch same) (Ensures.nullable (Ensures.entries anything)))
  refine .seq ?_ (.any _)
  refine .map (.of_forall ?_)
  intro type description _ describedBy hdescribedBy settings hsettings
  exact ⟨hdescribedBy, hsettings⟩

theorem SecurityScheme.read_dump {scheme : SecurityScheme} (sound : scheme.Sound) :
    SecurityScheme.read scheme.dump = .accepted scheme := by
  obtain ⟨type, description, describedBy, settings⟩ := scheme
  have free {es : Entries Datum} (distinct : es.names.Nodup) :
      entries anything (ofNamed id es) = .accepted es :=
    entries_accepted distinct fun _ _ => rfl
  have hdescribedBy : nullable (entries anything) (ofOption (ofNamed id) describedBy) =
      .accepted describedBy := by
    cases describedBy with
    | none => rfl
    | some es => exact nullable_of_accepted nofun (free (sound.describedBy es rfl))
  refine seq_accepted ?_ (field_of_given rfl (free sound.settings))
  refine seq_accepted ?_ (field_of_given rfl hdescribedBy)
  refine seq_accepted ?_ (field_of_given rfl (nullable_ofText description))
  exact map_accepted (field_of_given rfl (nullable_ofText type))

structure Root.Sound (root : Root) : Prop where
  baseUriParameters : root.baseUriParameters.names.Nodup
  schemas : ∀ es ∈ root.schemas, es.names.Nodup
  securitySchemes : ∀ es ∈ root.securitySchemes, es.names.Nodup ∧ ∀ p ∈ es, p.2.Sound
  resources : root.resources.names.Nodup
  each : ∀ keys r, Leads root.resources keys r → r.Sound

theorem Root.sound_of_read {d : Datum} {root : Root} (accepted : Root.read d = .accepted root) :
    root.Sound := by
  obtain ⟨es, _, _, hroot⟩ := Root.read_eq accepted
  have schemas (d : Datum) : Ensures (readSchemas d) fun declared =>
      ∀ es ∈ declared, es.names.Nodup :=
    .andThen fun _ _ => .list (Ensures.entries text) _
  have schemes (d : Datum) : Ensures (readSchemes d) fun declared =>
      ∀ es ∈ declared, es.names.Nodup ∧ ∀ p ∈ es, p.2.Sound := by
    refine .andThen fun _ _ => .list (fun d es accepted => ?_) _
    exact ⟨Ensures.entries SecurityScheme.read d es accepted,
      Ensures.values SecurityScheme.ensures_sound d es accepted⟩
  have lists : Ensures (Root.ofEntries (mediaTypeOf d) es) fun root =>
      (∀ es ∈ root.schemas, es.names.Nodup) ∧
      (∀ es ∈ root.securitySchemes, es.names.Nodup ∧ ∀ p ∈ es, p.2.Sound) ∧
      root.resources.names.Nodup := by
    refine .andThen fun tops _ => ?_
    refine .seq ?_ (.under (.entriesOf _))
    refine .seq ?_ (.field (Q := fun declared : List (Entries SecurityScheme) =>
      ∀ es ∈ declared, es.names.Nodup ∧ ∀ p ∈ es, p.2.Sound)
      (fun _ h => absurd h List.not_mem_nil) schemes)
    refine .seq ?_ (.field (Q := fun declared : List (Entries String) =>
      ∀ es ∈ declared, es.names.Nodup) (fun _ h => absurd h List.not_mem_nil) schemas)
    iterate 6 refine .seq ?_ (.any _)
    refine .map (.of_forall ?_)
    intro title version _ baseUri _ protocols _ mediaType _ parameters _ documentation _ schemas
      hschemas schemes hschemes resources hresources
    exact ⟨hschemas, hschemes, hresources⟩
  obtain ⟨hschemas, hschemes, hresources⟩ := lists root hroot
  refine ⟨Root.nodup_baseUriParameters accepted, hschemas, hschemes, hresources, ?_⟩
  intro keys r leads
  obtain ⟨tops, _, read⟩ := Root.ensures_resources _ es root hroot
  obtain ⟨value, _, hr⟩ := source_of_leads leads read
  exact Resource.sound_of_read hr

/-- Declarations that are in shape are taken as they are. -/
theorem declarationList_kept {shape : List (Scalar × Datum) → Checked Datum} {α : Type}
    {f : α → List (Scalar × Datum)} {xs : List α}
    (h : ∀ x ∈ xs, shape (f x) = .accepted (.map (f x))) :
    declarationList shape (.list (xs.map fun x => .map (f x))) =
      .accepted (.list (xs.map fun x => .map (f x))) := by
  have each : inTurn (xs.map fun x => shape (f x)) = .accepted (xs.map fun x => .map (f x)) := by
    rw [List.map_congr_left h, inTurn_accepted]
  rw [declarationList, List.map_map]
  exact congrArg (Checked.map Datum.list) each

theorem readSchemas_dump {schemas : List (Entries String)}
    (distinct : ∀ es ∈ schemas, es.names.Nodup) :
    readSchemas (.list (schemas.map (ofNamed .text))) = .accepted schemas := by
  have shaped : declarationList schemaEntries (.list (schemas.map (ofNamed .text))) =
      .accepted (.list (schemas.map (ofNamed .text))) := by
    refine declarationList_kept fun es hes => ?_
    have named : (textKeyed (es.mapValues .text)).map namedSchema =
        (textKeyed (es.mapValues .text)).map fun p => .accepted p := by
      simp only [textKeyed, Entries.mapValues, List.map_map]
      rfl
    have same : ofPairs (textKeyed (es.mapValues .text)) = textKeyed (es.mapValues .text) := by
      rw [ofPairs_textKeyed, Entries.ofList_of_nodup]
      rw [Entries.names_mapValues]
      exact distinct es hes
    rw [schemaEntries, named, inTurn_accepted, List.map_id']
    exact congrArg (fun ps => Checked.accepted (Datum.map ps)) same
  rw [readSchemas, shaped]
  exact list_accepted fun es hes => entries_accepted (distinct es hes) fun _ _ => rfl

theorem readSchemes_dump {schemes : List (Entries SecurityScheme)}
    (sound : ∀ es ∈ schemes, es.names.Nodup ∧ ∀ p ∈ es, p.2.Sound) :
    readSchemes (.list (schemes.map (ofNamed SecurityScheme.dump))) = .accepted schemes := by
  have shaped : declarationList schemeEntries
      (.list (schemes.map (ofNamed SecurityScheme.dump))) =
      .accepted (.list (schemes.map (ofNamed SecurityScheme.dump))) := by
    refine declarationList_kept fun es hes => ?_
    exact keyedByText_ofNamed orEmpty SecurityScheme.dump (fun _ => rfl) (sound es hes).1
  rw [readSchemes, shaped]
  exact list_accepted fun es hes => entries_accepted (sound es hes).1 fun p hp =>
    SecurityScheme.read_dump ((sound es hes).2 p hp)

theorem Documentation.read_dump (item : Documentation) :
    Documentation.read item.dump = .accepted item := rfl

/-- A description whose bodies name media types is read again from what was read of it. -/
theorem read_rootDump {d : Datum} {root : Root} (accepted : Root.read d = .accepted root)
    (named : ∀ keys r, Leads root.resources keys r → r.ByMediaType) :
    Root.read root.dump = .accepted root := by
  have sound := Root.sound_of_read accepted
  obtain ⟨title, version, baseUri, protocols, mediaType, parameters, documentation, schemas,
    schemes, resources⟩ := root
  have tops (es : List (Scalar × Datum)) (paths : pathsOf es = [])
      (grouped : group es "resources" = .map (dumpForest resources)) :
      topResources es = .accepted (dumpForest resources) := by
    rw [topResources_eq, paths, grouped]
    rfl
  have hversion : (versionText (ofOption .text version)).andThen (nullable text) =
      .accepted version := by
    cases version <;> rfl
  have below (value : Datum) : entriesOf ((dumpForest resources).map
      fun p => (p.1, Resource.read value p.2)) = .accepted resources := by
    rw [dumpForest_eq]
    refine entries_accepted sound.resources (read_dumpForest fun keys r leads => ?_)
    exact ⟨sound.each keys r leads, named keys r leads⟩
  change Root.ofEntries _ _ = _
  rw [Root.ofEntries, tops _ rfl rfl]
  refine seq_accepted ?_ (congrArg (under _) (below _))
  refine seq_accepted ?_ (field_of_given rfl (readSchemes_dump sound.securitySchemes))
  refine seq_accepted ?_ (field_of_given rfl (readSchemas_dump sound.schemas))
  refine seq_accepted ?_ (field_of_given rfl
    (list_accepted fun item _ => Documentation.read_dump item))
  refine seq_accepted ?_ (field_of_given rfl
    (Parameter.readAll_dump .uri sound.baseUriParameters))
  refine seq_accepted ?_ (field_of_given rfl (nullable_ofText mediaType))
  refine seq_accepted ?_ (field_of_given rfl (list_accepted fun _ _ => rfl))
  refine seq_accepted ?_ (field_of_given rfl (nullable_ofText baseUri))
  refine seq_accepted ?_ (field_of_given rfl hversion)
  exact map_accepted (field_of_given rfl rfl)

/-- A method whose body names no media type in the document, as it is read. -/
def postPet : Action := ⟨none, [], [], [("text/xml", ⟨some "Pet", .null⟩)], []⟩

/-- The body is filed under the media type of the document once, and stays there. -/
theorem read_rootDump_postPet : ∃ root,
    Root.read (petsApi "text/xml" [(.text "POST",
      .map [(.text "body", .map [(.text "schema", .text "Pet")])])]) = .accepted root ∧
    root.resources = [("/pets", ⟨none, none, [], [("post", postPet)], []⟩)] ∧
    (∀ keys r, Leads root.resources keys r → r.ByMediaType) ∧
    Root.read root.dump = .accepted root := by
  have resource : Resource.read (.text "text/xml") (.map [(.text "POST",
      .map [(.text "body", .map [(.text "schema", .text "Pet")])])]) =
      .accepted ⟨none, none, [], [("post", postPet)], []⟩ := by
    change Resource.ofEntries _ _ = _
    rw [Resource.ofEntries_eq]
    rfl
  have named : ∀ keys r, Leads [("/pets", ⟨none, none, [], [("post", postPet)], []⟩)] keys r →
      r.ByMediaType := by
    intro keys r leads
    cases leads with
    | here hmem =>
      cases List.mem_singleton.mp hmem
      intro p hp
      cases List.mem_singleton.mp hp
      constructor
      · exact Or.inr ⟨_, List.mem_cons_self, by decide⟩
      · exact fun q hq => absurd hq List.not_mem_nil
    | deeper hmem leads =>
      cases List.mem_singleton.mp hmem
      exact absurd rfl leads.forest_ne_nil
  have accepted := read_petsApi resource
  exact ⟨_, accepted, rfl, named, read_rootDump accepted named⟩

end Root

end Raml

end RamlBridge
