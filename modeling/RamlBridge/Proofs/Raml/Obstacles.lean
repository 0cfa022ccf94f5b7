import RamlBridge.Proofs.Outcome
import RamlBridge.Proofs.Raml.Sources
import RamlBridge.Proofs.Validation.Stopped
import RamlBridge.Proofs.Validation.TextKeys

/-!
What the reading of a description is stopped by: a group of resources or methods that is no map
and cannot be taken for one, a media type that cannot be a key, or a schema that is not JSON.
-/
namespace RamlBridge

namespace Datum

def members : Datum → List Datum
  | .list items => items
  | .pair a b => [a, b]
  | .map es => es.map Prod.snd
  | .scalar _ | .set _ => []

inductive Part (d : Datum) : Datum → Prop
  | itself : Part d d
  | member {x y : Datum} : Part d x → y ∈ x.members → Part d y

/-- A part of a value, or what reading puts in its place where nothing else is written. -/
def Stems (d x : Datum) : Prop :=
  d.Part x ∨ x = .map [] ∨ ∃ s, x = .scalar s

variable {d x y : Datum} {es ps : List (Scalar × Datum)} {k : Scalar}

theorem stems_scalar (s : Scalar) : d.Stems (.scalar s) := .inr (.inr ⟨s, rfl⟩)

theorem stems_empty : d.Stems (.map []) := .inr (.inl rfl)

theorem Stems.member (h : d.Stems x) (hy : y ∈ x.members) : d.Stems y := by
  rcases h with part | rfl | ⟨s, rfl⟩
  · exact .inl (.member part hy)
  · cases hy
  · cases hy

theorem Stems.value (h : d.Stems (.map es)) (hp : (k, y) ∈ es) : d.Stems y :=
  h.member (List.mem_map_of_mem (f := Prod.snd) hp)

theorem Stems.orEmpty (h : d.Stems x) : d.Stems (Raml.orEmpty x) := by
  unfold Raml.orEmpty
  split
  · exact stems_empty
  · exact h

theorem mem_of_lookup? {name : String} (h : lookup? es name = some y) : (.text name, y) ∈ es := by
  induction es with
  | nil => cases h
  | cons q rest ih =>
    obtain ⟨k, v⟩ := q
    unfold lookup? at h
    split at h
    · next same =>
      cases h
      cases same
      exact List.mem_cons_self
    · exact List.mem_cons_of_mem _ (ih h)

/-- A field stands under its key or under its name. -/
theorem mem_of_field? {key name found : String} (h : Checked.field? es key name = some (found, y)) :
    (.text found, y) ∈ es ∧ found ∈ [key, name] := by
  unfold Checked.field? at h
  split at h
  · next present =>
    cases h
    exact ⟨mem_of_lookup? present, List.mem_cons_self⟩
  · obtain ⟨v, present, same⟩ := Option.map_eq_some_iff.mp h
    cases same
    exact ⟨mem_of_lookup? present, List.mem_cons_of_mem _ List.mem_cons_self⟩

end Datum

namespace Raml

open Checked Datum

/-- The maps of declarations that a value consists of: itself, or the maps of a list. -/
inductive Declares : Datum → List (Scalar × Datum) → Prop
  | map {es} : Declares (.map es) es
  | item {items es} : .map es ∈ items → Declares (.list items) es

/-- What in a value stops its being read as a description. -/
inductive Hinders (d : Datum) : Obstacle → Prop
  | group {es name o} : d.Part (.map es) → name ∈ ["resources", "actions"] →
      looseEntries (group es name) = .stopped o → Hinders d o
  | mediaType : (mediaTypeOf d).key? = none → Hinders d .unhashableKey
  | bodySchema {es name x} : d.Part (.map es) → (.text name, x) ∈ es →
      name ∈ ["schema", "schema_"] → x.json = .error .notJson → Hinders d .notJson
  | declaredSchema {top v es k x} : d = .map top → (.text "schemas", v) ∈ top → Declares v es →
      (k, x) ∈ es → x.json = .error .notJson → Hinders d .notJson

variable {d x mediaType : Datum} {es : List (Scalar × Datum)} {P : Obstacle → Prop}

section Keys

theorem stopsOnly_textKey (k : Scalar) : StopsOnly (textKey k) P := by
  unfold textKey
  split
  · exact .accepted _
  · exact .fault _

theorem stopsOnly_keyedByText (change : Datum → Datum) (es : List (Scalar × Datum)) :
    StopsOnly (keyedByText change es) P := by
  refine .map (.inTurn fun x hx => ?_)
  obtain ⟨p, _, rfl⟩ := List.mem_map.mp hx
  exact .map (stopsOnly_textKey p.1)

/-- A map that is keyed by texts holds what it held before, changed. -/
theorem source_of_keyedByText {change : Datum → Datum} {es : List (Scalar × Datum)} {keyed : Datum}
    (h : keyedByText change es = .accepted keyed) :
    ∃ fs : Entries Datum, keyed = .map (textKeyed fs) ∧ ∀ q ∈ fs, ∃ p ∈ es, q.2 = change p.2 := by
  rw [keyedByText_eq] at h
  split at h
  · cases h
    refine ⟨_, rfl, fun q hq => ?_⟩
    obtain ⟨p, hp, rfl⟩ := List.mem_map.mp (Entries.mem_ofList hq)
    exact ⟨p, hp, rfl⟩
  · cases h

end Keys

section Parameters

theorem stopsOnly_parameterType (x : Datum) : StopsOnly (ParameterType.read x) P := by
  unfold ParameterType.read
  apply StopsOnly.encodable
  split
  · exact .accepted _
  · exact .fault _

theorem stopsOnly_realNumber (x : Datum) : StopsOnly (realNumber x) P := by
  unfold realNumber
  split
  · exact .accepted _
  · exact .accepted _
  · exact .accepted _
  · split
    · apply StopsOnly.encodable
      split
      · exact .accepted _
      · exact .fault _
    · exact .fault _
  · exact .fault _

theorem stopsOnly_number (x : Datum) : StopsOnly (Number.read x) P := by
  unfold Number.read
  split
  · exact .accepted _
  · split
    · exact .accepted _
    · next o h => exact .stopped (StopsOnly.integer x o h)
    · split
      · exact .accepted _
      · next o h => exact .stopped (stopsOnly_realNumber x o h)
      · exact .refused _

theorem stopsOnly_parameter (kind : ParameterKind) (x : Datum) :
    StopsOnly (Parameter.read kind x) P := by
  refine .andThen (.fields _ x) fun es _ => ?_
  have texts (k n : String) : StopsOnly (field es k n none (nullable text)) P :=
    .field fun _ v _ => .nullable (.text v)
  have counts (k n : String) : StopsOnly (field es k n none (nullable count)) P :=
    .field fun _ v _ => .nullable (.count v)
  have numbers (k n : String) : StopsOnly (field es k n none (nullable Number.read)) P :=
    .field fun _ v _ => .nullable (stopsOnly_number v)
  have values (k n : String) : StopsOnly (field es k n .null anything) P :=
    .field fun _ v _ => .accepted v
  have flags (k n : String) (absent : Bool) : StopsOnly (field es k n absent boolean) P :=
    .field fun _ v _ => .boolean v
  have types : StopsOnly (field es "type" "type" .string ParameterType.read) P :=
    .field fun _ v _ => stopsOnly_parameterType v
  have choices : StopsOnly (field es "enum" "enum" none (nullable (list anything))) P :=
    .field fun _ v _ => .nullable (.list fun _ _ x _ => .accepted x)
  refine .seq ?_ (flags _ _ _)
  refine .seq ?_ (flags _ _ _)
  refine .seq ?_ (values _ _)
  refine .seq ?_ (values _ _)
  refine .seq ?_ (numbers _ _)
  refine .seq ?_ (numbers _ _)
  refine .seq ?_ (counts _ _)
  refine .seq ?_ (counts _ _)
  refine .seq ?_ (texts _ _)
  refine .seq ?_ choices
  refine .seq ?_ types
  refine .seq ?_ (texts _ _)
  exact .map (texts _ _)

theorem stopsOnly_parameters (kind : ParameterKind) (x : Datum) :
    StopsOnly (Parameter.readAll kind x) P := by
  refine .andThen ?_ fun _ _ => .entries fun _ _ p _ => stopsOnly_parameter kind p.2
  unfold parameterMap
  split
  · exact stopsOnly_keyedByText _ _
  · exact .accepted _

end Parameters

section Bodies

theorem stopsOnly_jsonText (known : x.json = .error .notJson → P .notJson) :
    StopsOnly (jsonText x) P := by
  unfold jsonText
  split
  · exact .accepted _
  · next h =>
    -- Only a value that is no JSON stops; one that cannot be written is a fault.
    refine .stopped (known ?_)
    rw [Datum.jsonText] at h
    cases read : x.json with
    | error fault =>
      rw [read] at h
      cases h
      rfl
    | ok v =>
      rw [read, ok_bind] at h
      split at h <;> cases h
  · exact .fault _

theorem stopsOnly_schemaText (known : x.json = .error .notJson → P .notJson) :
    StopsOnly (schemaText x) P := by
  unfold schemaText
  split
  · exact .map (stopsOnly_jsonText known)
  · exact .map (stopsOnly_jsonText known)
  · exact .accepted _

theorem fields_eq {model : String} (h : fields model x = .accepted es) : x = .map es := by
  unfold fields at h
  split at h
  · cases h
    rfl
  · cases h

theorem stopsOnly_body (hx : d.Stems x) : StopsOnly (Body.read x) (Hinders d) := by
  refine .andThen (.fields _ x) fun es hes => ?_
  refine .seq (.map (.field fun found v present => ?_)) (.field fun _ v _ => .accepted v)
  refine .andThen (stopsOnly_schemaText fun missing => ?_) fun t _ => .nullable (.text t)
  obtain ⟨hv, hfound⟩ := mem_of_field? present
  rw [fields_eq hes] at hx
  rcases hx with part | empty | ⟨s, scalar⟩
  · exact .bodySchema part hv hfound missing
  · cases empty
    cases hv
  · cases scalar

/-- A field of a value that is read as a model stems from where that value does. -/
theorem stems_field {model key name found : String} {v : Datum} (hx : d.Stems x)
    (hes : fields model x = .accepted es) (present : field? es key name = some (found, v)) :
    d.Stems v := by
  rw [fields_eq hes] at hx
  exact hx.value (mem_of_field? present).1

theorem stems_keyedByText (hx : d.Stems (.map es)) {fs : List (Scalar × Datum)}
    (h : keyedByText orEmpty es = .accepted (.map fs)) : ∀ p ∈ fs, d.Stems p.2 := by
  obtain ⟨named, same, sources⟩ := source_of_keyedByText h
  cases same
  intro q hq
  obtain ⟨r, hr, rfl⟩ := List.mem_map.mp hq
  obtain ⟨p, hp, value⟩ := sources r hr
  show d.Stems r.2
  rw [value]
  exact (hx.value hp).orEmpty

theorem stems_bodyMap (hx : d.Stems x) {fs : List (Scalar × Datum)}
    (h : bodyMap mediaType x = .accepted (.map fs)) : ∀ p ∈ fs, d.Stems p.2 := by
  have given : d.Stems (orEmpty x) := hx.orEmpty
  unfold bodyMap at h
  split at h
  · cases h
    simp
  · next es _ whole =>
    rw [whole] at given
    obtain ⟨keyed, named, h⟩ := andThen_eq_accepted h
    split at h
    · cases h
      exact stems_keyedByText given named
    · obtain ⟨key, _, same⟩ := map_eq_accepted h
      cases same
      exact List.forall_mem_singleton.mpr given
  · next noMap => exact absurd (Checked.accepted.inj h) (noMap fs)

theorem stopsOnly_bodies (known : StopsOnly (bodyKey mediaType) (Hinders d)) (hx : d.Stems x) :
    StopsOnly (Body.readAll mediaType x) (Hinders d) := by
  refine .andThen ?_ fun bodies hbodies => .entries fun fs same p hp => stopsOnly_body ?_
  · unfold bodyMap
    split
    · exact .accepted _
    · refine .andThen (stopsOnly_keyedByText _ _) fun keyed _ => ?_
      split
      · exact .accepted _
      · exact .map known
    · exact .accepted _
  · subst same
    exact stems_bodyMap hx hbodies p hp

theorem stopsOnly_response (known : StopsOnly (bodyKey mediaType) (Hinders d)) (hx : d.Stems x) :
    StopsOnly (Response.read mediaType x) (Hinders d) := by
  refine .andThen (.fields _ x) fun es hes => ?_
  refine .seq (.map (.field fun _ v _ => .nullable (.text v))) ?_
  exact .field fun _ v present => stopsOnly_bodies known (stems_field hx hes present)

theorem stopsOnly_responses (known : StopsOnly (bodyKey mediaType) (Hinders d)) (hx : d.Stems x) :
    StopsOnly (Response.readAll mediaType x) (Hinders d) := by
  have given : d.Stems (orEmpty x) := hx.orEmpty
  refine .andThen ?_ fun responses hresponses =>
    .entries fun fs same p hp => stopsOnly_response known ?_
  · unfold responseMap
    split
    · exact stopsOnly_keyedByText _ _
    · exact .accepted _
  · subst same
    unfold responseMap at hresponses
    split at hresponses
    · next es whole =>
      rw [whole] at given
      exact stems_keyedByText given hresponses p hp
    · next noMap => exact absurd (Checked.accepted.inj hresponses) (noMap fs)

theorem stopsOnly_action (known : StopsOnly (bodyKey mediaType) (Hinders d)) (hx : d.Stems x) :
    StopsOnly (Action.read mediaType x) (Hinders d) := by
  refine .andThen (.fields _ x) fun es hes => ?_
  refine .seq ?_ (.field fun _ v present =>
    stopsOnly_responses known (stems_field hx hes present))
  refine .seq ?_ (.field fun _ v present => stopsOnly_bodies known (stems_field hx hes present))
  refine .seq ?_ (.field fun _ v _ => stopsOnly_parameters _ v)
  refine .seq ?_ (.field fun _ v _ => stopsOnly_parameters _ v)
  exact .map (.field fun _ v _ => .nullable (.text v))

end Bodies

section Groups

theorem stems_pairParts {parts : List Datum} (hx : d.Stems x) (h : pairParts? x = some parts) :
    ∀ y ∈ parts, d.Stems y := by
  intro y hy
  cases x with
  | list items =>
    cases h
    exact hx.member hy
  | pair a b =>
    cases h
    exact hx.member hy
  | set members =>
    cases h
    obtain ⟨s, _, rfl⟩ := List.mem_map.mp hy
    exact stems_scalar s
  | map es =>
    cases h
    obtain ⟨p, _, rfl⟩ := List.mem_map.mp hy
    exact stems_scalar p.1
  | scalar s =>
    obtain ⟨t, rfl⟩ := scalar_pairParts h hy
    exact stems_scalar t

theorem stems_pairEntry {index : Nat} {p : Scalar × Datum} (hx : d.Stems x)
    (h : pairEntry index x = .accepted p) : d.Stems p.2 := by
  unfold pairEntry at h
  split at h
  · next first value pair =>
    split at h
    · cases h
      exact stems_pairParts hx pair _ (List.mem_cons_of_mem _ List.mem_cons_self)
    · cases h
  · cases h
  · cases h

theorem stems_pairEntries {parts : List Datum} (hparts : ∀ y ∈ parts, d.Stems y) {index : Nat} :
    Ensures (pairEntries index parts) fun ps => ∀ p ∈ ps, d.Stems p.2 := by
  induction parts generalizing index with
  | nil =>
    intro ps h
    cases h
    simp
  | cons y rest ih =>
    obtain ⟨first, later⟩ := List.forall_mem_cons.mp hparts
    refine .andThen fun p hp => .map fun ps hps => ?_
    exact List.forall_mem_cons.mpr ⟨stems_pairEntry first hp, ih later ps hps⟩

theorem stems_looseEntries (hx : d.Stems x) :
    Ensures (looseEntries x) fun ps => ∀ p ∈ ps, d.Stems p.2 := by
  have given : d.Stems (orEmpty x) := hx.orEmpty
  unfold looseEntries
  split
  · next es whole =>
    rw [whole] at given
    intro ps h p hp
    cases h
    exact given.value hp
  · intro ps h
    cases h
  · intro ps h
    cases h
  · intro ps h
    cases h
  · split
    · next parts hparts =>
      refine .map fun ps hps => forall_ofPairs ?_
      exact stems_pairEntries (stems_pairParts given hparts) ps hps
    · intro ps h
      cases h

theorem stems_group (hx : d.Stems (.map es)) (name : String) : d.Stems (group es name) := by
  unfold group
  cases present : lookup? es name with
  | none => exact stems_scalar .null
  | some v => exact hx.value (mem_of_lookup? present)

theorem stopsOnly_group (hx : d.Stems (.map es)) {name : String}
    (hname : name ∈ ["resources", "actions"]) :
    StopsOnly (looseEntries (group es name)) (Hinders d) := by
  rcases hx with part | empty | ⟨s, scalar⟩
  · intro o h
    exact .group part hname h
  · cases empty
    exact .accepted []
  · cases scalar

/-- The parts of a resource, each of which stems from the document. -/
structure Parts.Stem (d : Datum) (parts : Parts) : Prop where
  resources : ∀ p ∈ parts.resources, d.Stems p.2
  actions : ∀ p ∈ parts.actions, d.Stems p.2

theorem Parts.Stem.add {parts : Parts} (h : parts.Stem d) {p : Scalar × Datum}
    (hp : d.Stems p.2) : (parts.add p).Stem d := by
  unfold Parts.add
  split
  · exact h
  · split
    · exact ⟨forall_putKey h.resources hp.orEmpty, h.actions⟩
    · split
      · exact ⟨h.resources, forall_putKey h.actions hp.orEmpty⟩
      · exact ⟨h.resources, h.actions⟩

theorem Parts.stem_foldl {ps : List (Scalar × Datum)} (hps : ∀ p ∈ ps, d.Stems p.2)
    {start : Parts} (h : start.Stem d) : (ps.foldl Parts.add start).Stem d := by
  induction ps generalizing start with
  | nil => exact h
  | cons p rest ih =>
    obtain ⟨first, later⟩ := List.forall_mem_cons.mp hps
    exact ih later (h.add first)

theorem Parts.stem_ofEntries (hx : d.Stems (.map es)) :
    Ensures (Parts.ofEntries es) (Parts.Stem d) := by
  refine .andThen fun resources hresources => .map fun actions hactions => ?_
  refine Parts.stem_foldl (fun p hp => hx.value hp) ⟨?_, ?_⟩
  · exact stems_looseEntries (stems_group hx _) resources hresources
  · exact stems_looseEntries (stems_group hx _) actions hactions

theorem Parts.stopsOnly_ofEntries (hx : d.Stems (.map es)) :
    StopsOnly (Parts.ofEntries es) (Hinders d) := by
  refine .andThen (stopsOnly_group hx (by simp)) fun resources _ => ?_
  exact .map (stopsOnly_group hx (by simp))

end Groups

section Resources

theorem stopsOnly_resourceEntries {es : List (Scalar × Datum)}
    (known : StopsOnly (bodyKey mediaType) (Hinders d)) (hx : d.Stems (.map es)) :
    StopsOnly (Resource.ofEntries mediaType es) (Hinders d) := by
  rw [Resource.ofEntries_eq]
  refine .andThen (Parts.stopsOnly_ofEntries hx) fun parts hparts => ?_
  obtain ⟨resources, actions⟩ := Parts.stem_ofEntries hx parts hparts
  refine .seq ?_ (.under (.entriesOf ?_))
  · refine .seq ?_ (.under (.entries fun fs same p hp => stopsOnly_action known ?_))
    · refine .seq ?_ (.field fun _ v _ => stopsOnly_parameters _ v)
      refine .seq ?_ (.field fun _ v _ => .nullable (.text v))
      exact .map (.field fun _ v _ => .nullable (.text v))
    · cases same
      exact actions p hp
  · intro q hq
    obtain ⟨p, hp, rfl⟩ := List.mem_map.mp hq
    dsimp only
    cases below : p.2 with
    | map sub =>
      -- the resources below are read from fewer entries
      have smaller : sizeOf sub < sizeOf es := mapsBelow_parts hparts p hp sub below
      have stems : d.Stems (.map sub) := below ▸ resources p hp
      exact stopsOnly_resourceEntries known stems
    | scalar s =>
      unfold Resource.read
      split
      · next same => cases same
      · exact .accepted _
      · exact .fault _
    | list | pair | set => exact .fault _
termination_by sizeOf es

theorem stopsOnly_resource (known : StopsOnly (bodyKey mediaType) (Hinders d))
    (hx : d.Stems x) : StopsOnly (Resource.read mediaType x) (Hinders d) := by
  unfold Resource.read
  split
  · exact stopsOnly_resourceEntries known hx
  · exact .accepted _
  · exact .fault _

end Resources

section Root

theorem stopsOnly_schemaEntries (known : ∀ p ∈ es, p.2.json = .error .notJson → P .notJson) :
    StopsOnly (schemaEntries es) P := by
  refine .map (.inTurn ?_)
  intro outcome houtcome
  obtain ⟨p, hp, rfl⟩ := List.mem_map.mp houtcome
  refine .andThen (stopsOnly_textKey p.1) fun key _ => ?_
  split
  · exact .accepted _
  · exact .map (stopsOnly_jsonText (known p hp))

theorem stopsOnly_declarations {shape : List (Scalar × Datum) → Checked Datum}
    (shapes : ∀ es, Declares x es → StopsOnly (shape es) P) :
    StopsOnly (declarationList shape x) P := by
  unfold declarationList
  split
  · exact .accepted _
  · exact .map (shapes _ .map)
  · next items =>
    refine .map (.inTurn ?_)
    intro outcome houtcome
    obtain ⟨item, hitem, rfl⟩ := List.mem_map.mp houtcome
    split
    · exact shapes _ (.item hitem)
    · exact .accepted _
  · exact .accepted _

theorem stopsOnly_documentation (x : Datum) : StopsOnly (Documentation.read x) P := by
  refine .andThen (.fields _ x) fun es _ => ?_
  refine .seq ?_ (.field fun _ v _ => .text v)
  exact .map (.field fun _ v _ => .text v)

theorem stopsOnly_scheme (x : Datum) : StopsOnly (SecurityScheme.read x) P := by
  refine .andThen (.fields _ x) fun es _ => ?_
  refine .seq ?_ (.field fun _ v _ => .entries fun _ _ p _ => .accepted p.2)
  refine .seq ?_ (.field fun _ v _ => .nullable (.entries fun _ _ p _ => .accepted p.2))
  refine .seq ?_ (.field fun _ v _ => .nullable (.text v))
  exact .map (.field fun _ v _ => .nullable (.text v))

theorem stems_topResources (hx : d.Stems (.map es)) :
    Ensures (topResources es) fun tops => ∀ p ∈ tops, d.Stems p.2 := by
  refine .map fun start hstart => ?_
  have grouped := stems_looseEntries (stems_group hx _) start hstart
  have paths : ∀ p ∈ es.filter fun p => isPath p.1, d.Stems p.2 := by
    intro p hp
    exact hx.value (List.mem_filter.mp hp).1
  generalize (es.filter fun p => isPath p.1) = tops at paths
  clear hstart
  induction tops generalizing start with
  | nil => exact grouped
  | cons p rest ih =>
    obtain ⟨first, later⟩ := List.forall_mem_cons.mp paths
    exact ih _ (forall_putKey grouped first.orEmpty) later

theorem stopsOnly_bodyKey (d : Datum) : StopsOnly (bodyKey (mediaTypeOf d)) (Hinders d) := by
  unfold bodyKey
  split
  · split
    · exact stopsOnly_textKey _
    · next h => exact .stopped (.mediaType h)
  · exact .accepted _

theorem stopsOnly_versionText (x : Datum) : StopsOnly (versionText x) P := by
  unfold versionText
  repeat' split
  · exact .accepted _
  · exact .accepted _
  · exact .accepted _
  · exact .fault _

theorem stopsOnly_rootEntries (known : StopsOnly (bodyKey mediaType) (Hinders d))
    (whole : es = [] ∨ d = .map es) : StopsOnly (Root.ofEntries mediaType es) (Hinders d) := by
  have stems : d.Stems (.map es) := by
    rcases whole with rfl | rfl
    · exact stems_empty
    · exact .inl .itself
  have plain {α : Type} {check : Datum → Checked α} {k n : String} {absent : α}
      (h : ∀ v, StopsOnly (check v) (Hinders d)) :
      StopsOnly (field es k n absent check) (Hinders d) :=
    .field fun _ v _ => h v
  refine .andThen (.map (stopsOnly_group stems (by simp))) fun tops htops => ?_
  refine .seq ?_ (.under (.entriesOf ?_))
  · refine .seq ?_ (plain fun v => .andThen
      (stopsOnly_declarations fun _ _ => stopsOnly_keyedByText _ _)
      fun _ _ => .list fun _ _ _ _ => .entries fun _ _ p _ => stopsOnly_scheme p.2)
    refine .seq ?_ (.field fun _ v present => .andThen (stopsOnly_declarations fun fs hfs => ?_)
      fun _ _ => .list fun _ _ _ _ => .entries fun _ _ p _ => .text p.2)
    · refine .seq ?_ (plain fun v => .list fun _ _ x _ => stopsOnly_documentation x)
      refine .seq ?_ (plain fun v => stopsOnly_parameters _ v)
      refine .seq ?_ (plain fun v => .nullable (.text v))
      refine .seq ?_ (plain fun v => .list fun _ _ x _ => .text x)
      refine .seq ?_ (plain fun v => .nullable (.text v))
      refine .seq ?_ (plain fun v => .andThen (stopsOnly_versionText v) fun _ _ =>
        .nullable (.text _))
      exact .map (plain fun v => .text _)
    · obtain ⟨hv, hfound⟩ := mem_of_field? present
      refine stopsOnly_schemaEntries fun p hp missing => ?_
      rcases whole with rfl | top
      · cases hv
      · simp only [List.mem_cons, List.not_mem_nil, or_false, or_self] at hfound
        exact .declaredSchema top (hfound ▸ hv) hfs hp missing
  · intro q hq
    obtain ⟨p, hp, rfl⟩ := List.mem_map.mp hq
    exact stopsOnly_resource known (stems_topResources stems tops htops p hp)

/-- The reading of a description is stopped by nothing but what stands in the description. -/
theorem Root.stopsOnly_read (d : Datum) : StopsOnly (Root.read d) (Hinders d) := by
  have known := stopsOnly_bodyKey d
  unfold Root.read
  split
  · exact stopsOnly_rootEntries known (.inr rfl)
  · exact stopsOnly_rootEntries known (.inl rfl)
  · exact .fault _

end Root

end Raml

end RamlBridge
