import Mathlib.Data.Finset.Card
import RamlBridge.Proofs.Raml.Filed
import RamlBridge.Proofs.Raml.Sources

/-!
Two shapes of a description. Resources may stand under their paths and methods under their names,
or both in groups of their own; a description in the first shape is read as the same description
in the second.
-/
namespace RamlBridge.Raml

open Checked Datum

section Shapes

mutual

/-- A resource in the explicit shape: the resources below it and its methods in two groups, and
so at every depth. -/
def explicitResource : Datum → Datum
  | .map es => .map (ownEntries es ++
      [(.text "resources", .map (ofPairs (explicitPaths es))),
        (.text "actions", .map (ofPairs (textKeyed (methodsOf es))))])
  | .scalar .null => .map []
  | d => d

def explicitPaths : List (Scalar × Datum) → List (Scalar × Datum)
  | [] => []
  | (k, d) :: rest =>
    if isPath k then (k, explicitResource d) :: explicitPaths rest else explicitPaths rest

end

/-- A description in the explicit shape. Methods are no entries of the root. -/
def explicit : Datum → Datum
  | .map es => .map ((es.filter fun p => !isPath p.1) ++
      [(.text "resources", .map (ofPairs (explicitPaths es)))])
  | d => d

mutual

/-- Whether no group is declared, neither in a resource nor in those below it. -/
def isUngrouped : Datum → Bool
  | .map es => areUngrouped es
  | _ => true

def areUngrouped : List (Scalar × Datum) → Bool
  | [] => true
  | (k, d) :: rest => !isGroup k && (!isPath k || isUngrouped d) && areUngrouped rest

end

end Shapes

section Ungrouped

variable {es : List (Scalar × Datum)}

theorem areUngrouped_cons {p : Scalar × Datum} {rest : List (Scalar × Datum)} :
    areUngrouped (p :: rest) = true ↔
      isGroup p.1 = false ∧ (isPath p.1 = true → isUngrouped p.2 = true) ∧
        areUngrouped rest = true := by
  cases h : isPath p.1 <;> simp [areUngrouped, h, and_assoc]

theorem noGroup_of_ungrouped (h : areUngrouped es = true) : ∀ p ∈ es, isGroup p.1 = false := by
  induction es with
  | nil => exact fun p hp => absurd hp List.not_mem_nil
  | cons q rest ih =>
    obtain ⟨first, _, later⟩ := areUngrouped_cons.mp h
    exact List.forall_mem_cons.mpr ⟨first, ih later⟩

theorem isUngrouped_of_mem (h : areUngrouped es = true) {k : Scalar} {d : Datum}
    (hp : (k, d) ∈ es) (path : isPath k = true) : isUngrouped d = true := by
  induction es with
  | nil => cases hp
  | cons q rest ih =>
    obtain ⟨_, inside, later⟩ := areUngrouped_cons.mp h
    rcases List.mem_cons.mp hp with rfl | hp
    · exact inside path
    · exact ih later hp

theorem lookup?_of_noGroup (h : ∀ p ∈ es, isGroup p.1 = false) {name : String}
    (inGroup : isGroup (.text name) = true) : lookup? es name = none := by
  apply lookup?_eq_none
  intro p hp same
  have noGroup := h p hp
  rw [same, inGroup] at noGroup
  cases noGroup

theorem group_of_ungrouped (h : areUngrouped es = true) {name : String}
    (inGroup : isGroup (.text name) = true) : group es name = .null := by
  rw [group, lookup?_of_noGroup (noGroup_of_ungrouped h) inGroup]
  rfl

/-- Without groups, the parts of a resource are its own entries alone. -/
theorem Parts.ofEntries_of_ungrouped (h : areUngrouped es = true) :
    Parts.ofEntries es = .accepted ⟨ofPairs (textKeyed (pathsOf es)),
      ofPairs (textKeyed (methodsOf es)), ownEntries es⟩ := by
  rw [Parts.ofEntries_eq, group_of_ungrouped h (by decide), group_of_ungrouped h (by decide)]
  rfl

theorem topResources_of_ungrouped (h : areUngrouped es = true) :
    topResources es = .accepted (ofPairs (textKeyed (pathsOf es))) := by
  rw [topResources_eq, group_of_ungrouped h (by decide)]
  rfl

end Ungrouped

section Explicit

variable {mediaType : Datum} {es : List (Scalar × Datum)}

theorem isOwn_iff {k : Scalar} :
    isOwn k = true ↔ isGroup k = false ∧ isPath k = false ∧ method? k = none := by
  simp [isOwn, and_assoc]

/-- The entries of a resource in the explicit shape: its own ones, and two groups. -/
def grouped (own : List (Scalar × Datum)) (resources actions : Datum) : List (Scalar × Datum) :=
  own ++ [(.text "resources", resources), (.text "actions", actions)]

section Grouped

variable {own : List (Scalar × Datum)} {resources actions : Datum}

theorem group_grouped (h : ∀ p ∈ own, isOwn p.1 = true) {name : String}
    (inGroup : isGroup (.text name) = true) :
    group (grouped own resources actions) name =
      group [(.text "resources", resources), (.text "actions", actions)] name := by
  have absent : lookup? own name = none :=
    lookup?_of_noGroup (fun p hp => (isOwn_iff.mp (h p hp)).1) inGroup
  rw [group, grouped, lookup?_append, absent, Option.none_or]
  rfl

theorem pathsOf_grouped (h : ∀ p ∈ own, isOwn p.1 = true) :
    pathsOf (grouped own resources actions) = [] := by
  apply pathsOf_eq_nil
  refine List.forall_mem_append.mpr ⟨?_, ?_⟩
  · exact fun p hp => (isOwn_iff.mp (h p hp)).2.1
  · exact List.forall_mem_cons.mpr ⟨rfl, List.forall_mem_singleton.mpr rfl⟩

theorem methodsOf_grouped (h : ∀ p ∈ own, isOwn p.1 = true) :
    methodsOf (grouped own resources actions) = [] := by
  apply methodsOf_eq_nil
  refine List.forall_mem_append.mpr ⟨?_, ?_⟩
  · exact fun p hp => (isOwn_iff.mp (h p hp)).2.2
  · exact List.forall_mem_cons.mpr ⟨noMethod_of_isGroup rfl,
      List.forall_mem_singleton.mpr (noMethod_of_isGroup rfl)⟩

theorem ownEntries_grouped (h : ∀ p ∈ own, isOwn p.1 = true) :
    ownEntries (grouped own resources actions) = own := by
  have none : ownEntries [(.text "resources", resources), (.text "actions", actions)] = [] := rfl
  have all : ownEntries own = own := List.filter_eq_self.mpr h
  rw [grouped, ownEntries, List.filter_append]
  exact (congrArg₂ _ all none).trans (List.append_nil own)

theorem Parts.ofEntries_grouped (h : ∀ p ∈ own, isOwn p.1 = true)
    (resources actions : List (Scalar × Datum)) :
    Parts.ofEntries (grouped own (.map resources) (.map actions)) =
      .accepted ⟨resources, actions, own⟩ := by
  rw [Parts.ofEntries_eq, group_grouped h (by decide), group_grouped h (by decide),
    pathsOf_grouped h, methodsOf_grouped h, ownEntries_grouped h]
  rfl

end Grouped

theorem isOwn_of_mem_ownEntries {p : Scalar × Datum} (h : p ∈ ownEntries es) :
    isOwn p.1 = true :=
  (List.mem_filter.mp h).2

-- By recursion on the value, one theorem for a resource and one for the paths in its map.
mutual

theorem read_explicitResource (mediaType : Datum) : ∀ d, isUngrouped d = true →
    Resource.read mediaType (explicitResource d) = Resource.read mediaType d
  | .map es, h => by
    have below := entriesOf_congr (alike_ofPairs (alike_explicitPaths mediaType es h))
    change Resource.ofEntries mediaType (grouped (ownEntries es) _ _) =
      Resource.ofEntries mediaType es
    rw [Resource.ofEntries_eq, Resource.ofEntries_eq, Parts.ofEntries_of_ungrouped h,
      Parts.ofEntries_grouped fun p => isOwn_of_mem_ownEntries]
    simp only [andThen]
    rw [below]
  | .scalar s, _ => by
    cases s with
    | null => exact Resource.read_orEmpty mediaType .null
    | bool | int | float | text | bytes | date | clock | moment | pair => rfl
  | .list _, _ => rfl
  | .pair _ _, _ => rfl
  | .set _, _ => rfl

theorem alike_explicitPaths (mediaType : Datum) : ∀ es, areUngrouped es = true →
    Alike (fun d e => Resource.read mediaType d = Resource.read mediaType e) (explicitPaths es)
      (textKeyed (pathsOf es))
  | [], _ => .nil
  | (k, d) :: rest, h => by
    obtain ⟨_, inside, later⟩ := areUngrouped_cons.mp h
    rw [pathsOf_cons]
    by_cases path : isPath k = true
    · obtain ⟨name, rfl, hname⟩ := path?_of_isPath path
      have first : Resource.read mediaType (explicitResource d) =
          Resource.read mediaType (orEmpty d) :=
        (read_explicitResource mediaType d (inside path)).trans
          (Resource.read_orEmpty mediaType d).symm
      simp only [explicitPaths, if_pos path, hname]
      exact .cons ⟨rfl, first⟩ (alike_explicitPaths mediaType rest later)
    · have noPath : path? k = none := path?_eq_none (Bool.not_eq_true _ ▸ path)
      simp only [explicitPaths, if_neg path, noPath]
      exact alike_explicitPaths mediaType rest later

end

theorem topResources_explicit (h : ∀ p ∈ es, isGroup p.1 = false) (paths : List (Scalar × Datum)) :
    topResources ((es.filter fun p => !isPath p.1) ++ [(.text "resources", .map paths)]) =
      .accepted paths := by
  have absent : lookup? (es.filter fun p => !isPath p.1) "resources" = none :=
    lookup?_of_noGroup (fun p hp => h p (List.mem_of_mem_filter hp)) (by decide)
  have noPath : pathsOf ((es.filter fun p => !isPath p.1) ++
      [(.text "resources", .map paths)]) = [] := by
    apply pathsOf_eq_nil
    refine List.forall_mem_append.mpr ⟨?_, ?_⟩
    · intro p hp
      simpa using (List.mem_filter.mp hp).2
    · exact List.forall_mem_singleton.mpr rfl
  rw [topResources_eq, noPath, group, lookup?_append, absent]
  rfl

theorem lookup?_explicit {name : String} (noPath : isPath (.text name) = false)
    (noGroup : "resources" ≠ name) (resources : Datum) :
    lookup? ((es.filter fun p => !isPath p.1) ++ [(.text "resources", resources)]) name =
      lookup? es name := by
  have kept : (!isPath (.text name)) = true := by rw [noPath]; rfl
  have apart : lookup? [(.text "resources", resources)] name = none :=
    lookup?_eq_none (List.forall_mem_singleton.mpr fun same => noGroup (Scalar.text.inj same))
  rw [lookup?_append, lookup?_filter (fun k => !isPath k) kept, apart, Option.or_none]

/-- The explicit shape of a description is read as the description, or refused like it. -/
theorem Root.read_explicitShape (d : Datum) (h : isUngrouped d = true) :
    Root.read (explicit d) = Root.read d := by
  cases d with
  | scalar | list | pair | set => rfl
  | map es =>
    let fs := (es.filter fun p => !isPath p.1) ++
      [(.text "resources", .map (ofPairs (explicitPaths es)))]
    have lookup {name : String} (noPath : isPath (.text name) = false)
        (noGroup : "resources" ≠ name) : lookup? fs name = lookup? es name :=
      lookup?_explicit noPath noGroup _
    have names : ∀ name ∈ Root.plainNames, lookup? fs name = lookup? es name := by
      intro name known
      have apart : ∀ other ∈ Root.plainNames, isPath (.text other) = false ∧
        "resources" ≠ other := by decide
      exact lookup (apart name known).1 (apart name known).2
    have mediaType : group fs "mediaType" = group es "mediaType" := by
      rw [group, lookup (by decide) (by decide)]
      rfl
    change Root.ofEntries (group fs "mediaType") fs = Root.ofEntries (group es "mediaType") es
    rw [mediaType]
    apply Root.ofEntries_congr names
    · exact field_congr (lookup (by decide) (by decide)) (lookup (by decide) (by decide))
    · exact field_congr (lookup (by decide) (by decide)) (lookup (by decide) (by decide))
    · rw [topResources_explicit (noGroup_of_ungrouped h), topResources_of_ungrouped h]
      exact .accepted (entriesOf_congr (alike_ofPairs (alike_explicitPaths _ es h)))

end Explicit

section Names

variable {mediaType d x : Datum} {es : List (Scalar × Datum)}

def entriesIn : Datum → List (Scalar × Datum)
  | .map es => es
  | _ => []

def pathNames (d : Datum) : List String := (pathsOf (entriesIn d)).names

def methodNames (d : Datum) : List String := (methodsOf (entriesIn d)).names

/-- A value stands below another one under a sequence of paths. -/
inductive StandsAt : Datum → List String → Datum → Prop
  | here {d path x} : (.text path, x) ∈ entriesIn d → isPath (.text path) = true →
      StandsAt d [path] x
  | deeper {d path x paths y} : (.text path, x) ∈ entriesIn d → isPath (.text path) = true →
      StandsAt x paths y → StandsAt d (path :: paths) y

theorem names_entries_ofPairs {α : Type} (check : Datum → Checked α) (es : Entries Datum) :
    Ensures (entries check (.map (ofPairs (textKeyed es)))) fun read =>
      read.names = firstOccurrences es.names := by
  rw [ofPairs_textKeyed]
  intro read accepted
  rw [Ensures.names check _ read accepted, Entries.names_ofList]
  exact firstOccurrences_of_nodup (nodup_firstOccurrences _)

theorem Resource.names_of_read {r : Resource} (h : isUngrouped d = true)
    (read : Resource.read mediaType d = .accepted r) :
    Entries.names r.children = firstOccurrences (pathNames d) ∧
      r.actions.names = firstOccurrences (methodNames d) := by
  cases d with
  | map es =>
    obtain ⟨parts, hparts, hactions, hchildren⟩ := Resource.ensures_ofEntries mediaType es r read
    rw [Parts.ofEntries_of_ungrouped h] at hparts
    cases hparts
    constructor
    · exact names_entries_ofPairs (Resource.read mediaType) (pathsOf es) r.children hchildren
    · exact names_entries_ofPairs (Action.read mediaType) (methodsOf es) r.actions hactions
  | scalar s =>
    cases s with
    | null => cases read; exact ⟨rfl, rfl⟩
    | bool | int | float | text | bytes | date | clock | moment | pair => cases read
  | list | pair | set => cases read

theorem mem_of_mem_pathsOf {name : String} (h : (name, x) ∈ pathsOf es) :
    isPath (.text name) = true ∧ ∃ y, (.text name, y) ∈ es ∧ x = orEmpty y := by
  obtain ⟨⟨k, y⟩, hp, found⟩ := List.mem_filterMap.mp h
  by_cases path : isPath k = true
  · obtain ⟨n, rfl, hn⟩ := path?_of_isPath path
    simp only [hn, Option.map_some, Option.some.injEq, Prod.mk.injEq] at found
    obtain ⟨rfl, rfl⟩ := found
    exact ⟨path, y, hp, rfl⟩
  · rw [path?_eq_none (Bool.not_eq_true _ ▸ path)] at found
    cases found

/-- A resource that is read from a value below paths. -/
theorem source_of_path {forest : Entries Resource}
    (h : entriesOf ((ofPairs (textKeyed (pathsOf es))).map
      fun p => (p.1, Resource.read mediaType p.2)) = .accepted forest)
    {key : String} {r : Resource} (hmem : (key, r) ∈ forest) :
    isPath (.text key) = true ∧
      ∃ y, (.text key, y) ∈ es ∧ Resource.read mediaType y = .accepted r := by
  rw [ofPairs_textKeyed] at h
  obtain ⟨k, x, hp, hkey, hread⟩ := source_of_entriesOf h hmem
  obtain ⟨⟨name, x'⟩, hx, same⟩ := List.mem_map.mp hp
  cases same
  have named : name = key := accepted.inj hkey
  subst named
  obtain ⟨path, y, hy, rfl⟩ := mem_of_mem_pathsOf (Entries.mem_ofList hx)
  rw [Resource.read_orEmpty] at hread
  exact ⟨path, y, hy, hread⟩

theorem isUngrouped_of_entry (h : isUngrouped d = true) {k : Scalar}
    (hp : (k, x) ∈ entriesIn d) (path : isPath k = true) : isUngrouped x = true := by
  cases d with
  | map es => exact isUngrouped_of_mem h hp path
  | scalar | list | pair | set => cases hp

/-- Every resource of a forest is read from the value that stands under its paths. -/
theorem standsAt_of_leads {forest : Entries Resource} {keys : List String} {r : Resource}
    (leads : Leads forest keys r) (h : isUngrouped d = true)
    (read : entriesOf ((ofPairs (textKeyed (pathsOf (entriesIn d)))).map
      fun p => (p.1, Resource.read mediaType p.2)) = .accepted forest) :
    ∃ x, StandsAt d keys x ∧ isUngrouped x = true ∧
      Resource.read mediaType x = .accepted r := by
  induction leads generalizing d with
  | here hmem =>
    obtain ⟨path, y, hy, hread⟩ := source_of_path read hmem
    exact ⟨y, .here hy path, isUngrouped_of_entry h hy path, hread⟩
  | deeper hmem hs ih =>
    obtain ⟨path, y, hy, hread⟩ := source_of_path read hmem
    have inside : isUngrouped y = true := isUngrouped_of_entry h hy path
    obtain ⟨es, parts, rfl, hparts, _, hchildren⟩ :=
      Resource.map_of_read hread (Or.inr hs.forest_ne_nil)
    rw [Parts.ofEntries_of_ungrouped inside] at hparts
    cases hparts
    obtain ⟨x, stands, ungrouped, hx⟩ := ih inside hchildren
    exact ⟨x, .deeper hy path stands, ungrouped, hx⟩

theorem length_firstOccurrences (xs : List String) :
    (firstOccurrences xs).length = xs.toFinset.card := by
  have same : (firstOccurrences xs).toFinset = xs.toFinset := by
    ext name
    simp only [List.mem_toFinset, mem_firstOccurrences]
  rw [← same, List.toFinset_card_of_nodup (nodup_firstOccurrences xs)]

/-- What is read of a description without groups: it is read as its explicit shape is, and every
map of it that stands under paths becomes a resource, whose children are the paths among its keys
and whose actions are the methods that its keys name, each once and in the order of the keys. -/
theorem read_explicit {d : Datum} (h : isUngrouped d = true) :
    Root.read (explicit d) = Root.read d ∧
    ∀ root, Root.read d = .accepted root →
      root.resources.names = firstOccurrences (pathNames d) ∧
      ∀ keys r, Leads root.resources keys r → ∃ x, StandsAt d keys x ∧
        Entries.names r.children = firstOccurrences (pathNames x) ∧
        r.actions.names = firstOccurrences (methodNames x) ∧
        r.actions.length = (methodNames x).toFinset.card := by
  refine ⟨Root.read_explicitShape d h, ?_⟩
  intro root accepted
  obtain ⟨es, hes, _, hroot⟩ := Root.read_eq accepted
  have inside : entriesIn d = es ∧ areUngrouped es = true := by
    cases d with
    | map fs => cases hes; exact ⟨rfl, h⟩
    | scalar s =>
      cases s with
      | null => cases hes; exact ⟨rfl, rfl⟩
      | bool | int | float | text | bytes | date | clock | moment | pair => cases hes
    | list | pair | set => cases hes
  obtain ⟨tops, htops, hresources⟩ := Root.ensures_resources _ es root hroot
  rw [topResources_of_ungrouped inside.2] at htops
  cases htops
  rw [← inside.1] at hresources
  constructor
  · exact names_entries_ofPairs (Resource.read (mediaTypeOf d)) _ root.resources hresources
  · intro keys r leads
    obtain ⟨x, stands, ungrouped, read⟩ := standsAt_of_leads leads h hresources
    obtain ⟨children, actions⟩ := Resource.names_of_read ungrouped read
    refine ⟨x, stands, children, actions, ?_⟩
    rw [← length_firstOccurrences, ← actions]
    exact (List.length_map Prod.fst).symm

/-- A description of a resource that names one method twice, in capital letters first. -/
def repeatedMethod : Datum :=
  petsApi "text/xml" [(.text "GET", .null), (.text "/{id}", .null),
    (.text "get", .map [(.text "description", .text "List")])]

def listPets : Action := ⟨some "List", [], [], [], []⟩

/-- The resource has one action, as the second declaration says, and one child. -/
theorem read_explicit_repeatedMethod : isUngrouped repeatedMethod = true ∧
    explicit repeatedMethod = .map [(.text "mediaType", .text "text/xml"),
      (.text "resources", .map [(.text "/pets", .map
        [(.text "resources", .map [(.text "/{id}", .map [])]),
          (.text "actions", .map
            [(.text "get", .map [(.text "description", .text "List")])])])])] ∧
    Root.read (explicit repeatedMethod) = Root.read repeatedMethod ∧
    ∃ root x, Root.read repeatedMethod = .accepted root ∧
      Leads root.resources ["/pets"]
        ⟨none, none, [], [("get", listPets)], [("/{id}", Resource.empty)]⟩ ∧
      StandsAt repeatedMethod ["/pets"] x ∧ ["/{id}"] = firstOccurrences (pathNames x) ∧
      ["get"] = firstOccurrences (methodNames x) ∧ 1 = (methodNames x).toFinset.card := by
  have ungrouped : isUngrouped repeatedMethod = true := by decide
  obtain ⟨same, names⟩ := read_explicit ungrouped
  have read : Resource.read (.text "text/xml") (.map [(.text "GET", .null), (.text "/{id}", .null),
      (.text "get", .map [(.text "description", .text "List")])]) =
      .accepted ⟨none, none, [], [("get", listPets)], [("/{id}", Resource.empty)]⟩ := by
    change Resource.ofEntries _ _ = _
    rw [Resource.ofEntries_eq, Parts.ofEntries_of_ungrouped (by decide)]
    change _ <*> under _ (entriesOf [(.text "/{id}", Resource.read _ (orEmpty .null))]) = _
    rw [Resource.read_orEmpty]
    rfl
  have accepted := read_petsApi read
  obtain ⟨x, stands, children, actions, count⟩ :=
    (names _ accepted).2 _ _ (.here List.mem_cons_self)
  exact ⟨ungrouped, by rfl, same, _, x, accepted, .here List.mem_cons_self, stands, children,
    actions, count⟩

end Names

end RamlBridge.Raml
