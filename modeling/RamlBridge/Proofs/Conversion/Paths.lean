import RamlBridge.Conversion.Paths
import RamlBridge.Proofs.Conversion.Report
import RamlBridge.Proofs.Entries
import RamlBridge.Proofs.Raml.Places

/-!
The paths of a forest. Going through the forest comes to the same as setting the entry of every
place in pre-order, so that a path stands where its URI first comes and is what its last place
makes of it.
-/
namespace RamlBridge.Conversion

open Raml (Place places placesOf)

/-- The scope at the end of a way down: every resource on it overrides the parameters of those
above. -/
def Scope.along (root : Scope) (way : List (String × Raml.Resource)) : Scope :=
  way.foldl (fun scope q => scope.extend q.2.uriParameters) root

theorem Scope.parameters_along (root : Scope) (way : List (String × Raml.Resource)) :
    (root.along way).parameters =
      root.parameters.putAll (way.flatMap fun q => q.2.uriParameters) := by
  induction way generalizing root with
  | nil => rfl
  | cons q rest ih =>
    rw [List.flatMap_cons, Entries.putAll_append]
    exact ih (root.extend q.2.uriParameters)

theorem mapOperations_eq (registry : Registry) (scope : Scope) (actions : Entries Raml.Action) :
    mapOperations registry scope actions =
      actions.mapM fun p => (mapOperation registry scope p.2).map (Text.lower p.1, ·) := by
  induction actions with
  | nil => rfl
  | cons p rest ih =>
    obtain ⟨method, action⟩ := p
    rw [mapM_cons_eq, mapOperations, ih]
    cases mapOperation registry scope action with
    | error s => rfl
    | ok operation =>
      cases rest.mapM fun p => (mapOperation registry scope p.2).map (Text.lower p.1, ·) <;> rfl

/-- The entry that a place gives, in a forest that stands below a URI. -/
def pathEntry (registry : Registry) (hoistedPrefix uri : String) (scope : Scope) (p : Place) :
    Except Stop (String × Swagger.PathItem) :=
  (mapActions registry (scope.along p.way) p.resource.actions).map fun item =>
    (hoistedPrefix ++ (uri ++ p.uri), item)

theorem pathEntry_top (registry : Registry) (hoistedPrefix uri key : String) (scope : Scope)
    (r : Raml.Resource) :
    pathEntry registry hoistedPrefix uri scope ⟨[], key, r⟩ =
      (mapActions registry (scope.extend r.uriParameters) r.actions).map fun item =>
        (hoistedPrefix ++ (uri ++ key), item) := by
  rw [pathEntry, Place.uri_top]
  rfl

theorem pathEntry_comp_below (registry : Registry) (hoistedPrefix uri key : String)
    (scope : Scope) (r : Raml.Resource) :
    pathEntry registry hoistedPrefix uri scope ∘ Place.below key r =
      pathEntry registry hoistedPrefix (uri ++ key) (scope.extend r.uriParameters) := by
  funext p
  have full : uri ++ (key ++ p.uri) = uri ++ key ++ p.uri := String.append_assoc.symm
  rw [Function.comp_apply, pathEntry, pathEntry, Place.uri_below, full]
  rfl

/-- One resource is gone through before the resources below it. -/
theorem visit_outcome (registry : Registry) (hoistedPrefix uri : String) (scope : Scope)
    (paths : Entries Swagger.PathItem) (r : Raml.Resource) :
    (visit registry hoistedPrefix uri scope paths r).outcome =
      mapActions registry (scope.extend r.uriParameters) r.actions >>= fun item =>
        (visitAll registry hoistedPrefix uri (scope.extend r.uriParameters)
          (paths.put (hoistedPrefix ++ uri) item) r.children).outcome := by
  obtain ⟨displayName, description, uriParameters, actions, children⟩ := r
  simp only [visit, Report.outcome_bind, Report.outcome_warnIf, Report.outcome_ofExcept, ok_bind]

/-- Going through a forest sets the entries of its places in pre-order, up to the first that
cannot be made. -/
theorem visitAll_outcome (registry : Registry) (hoistedPrefix uri : String) (scope : Scope)
    (paths : Entries Swagger.PathItem) (forest : List (String × Raml.Resource)) :
    (visitAll registry hoistedPrefix uri scope paths forest).outcome =
      ((places forest).mapM (pathEntry registry hoistedPrefix uri scope)).map paths.putAll := by
  induction forest using Raml.forest_induction generalizing uri scope paths with
  | nil => rfl
  | cons key r rest ihBelow ihRest =>
    simp only [visitAll, Report.outcome_bind, visit_outcome, ihBelow, ihRest, Raml.places_cons,
      Raml.placesOf_eq, List.mapM_append, List.mapM_map, pathEntry_comp_below, List.cons_append,
      mapM_cons_eq, pathEntry_top]
    cases mapActions registry (scope.extend r.uriParameters) r.actions with
    | error s => rfl
    | ok item =>
      simp only [ok_bind, map_ok]
      cases (places r.children).mapM (pathEntry registry hoistedPrefix (uri ++ key)
          (scope.extend r.uriParameters)) with
      | error s => rfl
      | ok inside =>
        cases (places rest).mapM (pathEntry registry hoistedPrefix uri scope) with
        | error s => rfl
        | ok after =>
          simp only [ok_bind, map_ok]
          change Except.ok _ = Except.ok (Entries.putAll _ (inside ++ after))
          rw [Entries.putAll_append]

/-- The paths of a forest are the entries of its places in pre-order, each set in turn. -/
theorem mapPaths_outcome (registry : Registry) (hoistedPrefix : String) (root : Scope)
    (resources : Entries Raml.Resource) :
    (mapPaths registry hoistedPrefix root resources).outcome =
      ((places resources).mapM fun p =>
        (mapActions registry (root.along p.way) p.resource.actions).map
          (hoistedPrefix ++ p.uri, ·)).map Entries.ofList := by
  have top : pathEntry registry hoistedPrefix "" root = fun p =>
      (mapActions registry (root.along p.way) p.resource.actions).map
        (hoistedPrefix ++ p.uri, ·) := by
    funext p
    rw [pathEntry, String.empty_append]
  rw [← top]
  exact visitAll_outcome registry hoistedPrefix "" root [] resources

section Paths

variable {registry : Registry} {hoistedPrefix : String} {root scope : Scope}
  {resources : Entries Raml.Resource} {paths : Entries Swagger.PathItem}
  {actions : Entries Raml.Action} {item : Swagger.PathItem}

theorem names_mapPaths
    (h : (mapPaths registry hoistedPrefix root resources).outcome = .ok paths) :
    paths.names = firstOccurrences ((places resources).map fun p => hoistedPrefix ++ p.uri) := by
  rw [mapPaths_outcome] at h
  obtain ⟨entries, hentries, rfl⟩ := map_eq_ok h
  rw [Entries.names_ofList]
  exact congrArg firstOccurrences (names_of_mapM hentries)

/-- The last place under a URI makes the path item. -/
theorem find?_mapPaths
    (h : (mapPaths registry hoistedPrefix root resources).outcome = .ok paths)
    {before after : List Place} {p : Place} (split : places resources = before ++ p :: after)
    (last : ∀ q ∈ after, q.uri ≠ p.uri) :
    ∃ item, mapActions registry (root.along p.way) p.resource.actions = .ok item ∧
      paths.find? (hoistedPrefix ++ p.uri) = some item := by
  rw [mapPaths_outcome] at h
  obtain ⟨entries, hentries, rfl⟩ := map_eq_ok h
  exact find?_of_mapM hentries split fun q hq same =>
    last q hq (String.append_right_inj _ |>.mp same)

/-- A path item is that of the last place under its path. -/
theorem source_of_mapPaths
    (h : (mapPaths registry hoistedPrefix root resources).outcome = .ok paths) {path : String}
    (found : paths.find? path = some item) :
    ∃ p, Entries.last? ((places resources).map fun p => (hoistedPrefix ++ p.uri, p)) path =
        some p ∧
      mapActions registry (root.along p.way) p.resource.actions = .ok item := by
  rw [mapPaths_outcome] at h
  obtain ⟨entries, hentries, rfl⟩ := map_eq_ok h
  exact source_of_find? hentries found

theorem names_mapActions (h : mapActions registry scope actions = .ok item) :
    item.names = firstOccurrences (actions.names.map Text.lower) := by
  rw [mapActions, mapOperations_eq] at h
  obtain ⟨operations, hoperations, rfl⟩ := map_eq_ok h
  rw [Entries.names_ofList, names_of_mapM hoperations, Entries.names, List.map_map]
  rfl

/-- An operation is that of the last action whose method is the same in lower case. -/
theorem source_of_mapActions (h : mapActions registry scope actions = .ok item) {method : String}
    {operation : Swagger.Operation} (found : item.find? method = some operation) :
    ∃ action, Entries.last? (actions.map fun q => (Text.lower q.1, q)) method = some action ∧
      mapOperation registry scope action.2 = .ok operation := by
  rw [mapActions, mapOperations_eq] at h
  obtain ⟨operations, hoperations, rfl⟩ := map_eq_ok h
  exact source_of_find? hoperations found

theorem source_of_mem_mapPaths
    (h : (mapPaths registry hoistedPrefix root resources).outcome = .ok paths)
    {q : String × Swagger.PathItem} (hq : q ∈ paths) :
    ∃ p ∈ places resources,
      mapActions registry (root.along p.way) p.resource.actions = .ok q.2 := by
  rw [mapPaths_outcome] at h
  obtain ⟨entries, hentries, rfl⟩ := map_eq_ok h
  obtain ⟨p, hp, made⟩ := source_of_mapM hentries (Entries.mem_ofList hq)
  obtain ⟨item, hitem, rfl⟩ := map_eq_ok made
  exact ⟨p, hp, hitem⟩

theorem source_of_mem_mapActions (h : mapActions registry scope actions = .ok item)
    {q : String × Swagger.Operation} (hq : q ∈ item) :
    ∃ a ∈ actions, mapOperation registry scope a.2 = .ok q.2 := by
  rw [mapActions, mapOperations_eq] at h
  obtain ⟨operations, hoperations, rfl⟩ := map_eq_ok h
  obtain ⟨a, ha, made⟩ := source_of_mapM hoperations (Entries.mem_ofList hq)
  obtain ⟨operation, hoperation, rfl⟩ := map_eq_ok made
  exact ⟨a, ha, hoperation⟩

/-- The paths of a forest: the keys are the full URIs of its addresses, in the order in which they
first come, and under each of them stand the operations of the last resource there, each seeing
the parameters that are declared on the way down to it. -/
theorem entries_mapPaths
    (h : (mapPaths registry hoistedPrefix root resources).outcome = .ok paths) :
    (∀ path, path ∈ paths.names ↔ ∃ address r, Raml.Leads resources address r ∧
      path = hoistedPrefix ++ String.join address) ∧
    paths.names = firstOccurrences ((places resources).map fun p => hoistedPrefix ++ p.uri) ∧
    ∀ before p after, places resources = before ++ p :: after → (∀ q ∈ after, q.uri ≠ p.uri) →
      ∃ item, paths.find? (hoistedPrefix ++ p.uri) = some item ∧
        item.names = firstOccurrences (p.resource.actions.names.map Text.lower) ∧
        ∀ method operation, item.find? method = some operation →
          ∃ action, Entries.last? (p.resource.actions.map fun q => (Text.lower q.1, q)) method =
              some action ∧
            mapOperation registry (root.along p.way) action.2 = .ok operation := by
  refine ⟨fun path => ?_, names_mapPaths h, fun before p after split last => ?_⟩
  · rw [names_mapPaths h, mem_firstOccurrences, List.mem_map]
    constructor
    · rintro ⟨p, hp, rfl⟩
      exact ⟨p.keys, p.resource, Raml.leads_of_mem_places hp, rfl⟩
    · rintro ⟨address, r, leads, rfl⟩
      obtain ⟨p, hp, rfl, _⟩ := Raml.mem_places_of_leads leads
      exact ⟨p, hp, rfl⟩
  · obtain ⟨item, hitem, found⟩ := find?_mapPaths h split last
    exact ⟨item, found, names_mapActions hitem, fun method operation => source_of_mapActions hitem⟩

def answering (method : String) : Raml.Resource :=
  ⟨none, none, [], [(method, ⟨none, [], [], [], []⟩)], []⟩

/-- A resource below "/a" and one beside it meet at one path. -/
def meetingForest : Entries Raml.Resource :=
  [("/a", ⟨none, none, [("x", .plain true)], [], [("/b", answering "get")]⟩),
    ("/c", ⟨none, none, [], [], []⟩),
    ("/a/b", answering "PUT")]

/-- The path at which two resources meet stands where the first of them does, and answers what the
last of them answers. -/
theorem entries_mapPaths_meeting :
    ∃ paths, (mapPaths .empty "/v" ⟨[("v", .plain true)]⟩ meetingForest).outcome = .ok paths ∧
      paths.names = ["/v/a", "/v/a/b", "/v/c"] ∧
      ∃ item, paths.find? "/v/a/b" = some item ∧ item.names = ["put"] := by
  have run : (mapPaths .empty "/v" ⟨[("v", .plain true)]⟩ meetingForest).outcome = .ok _ := rfl
  refine ⟨_, run, ?_⟩
  obtain ⟨_, names, entry⟩ := entries_mapPaths run
  obtain ⟨item, found, methods, _⟩ :=
    entry ((places meetingForest).take 3) ⟨[], "/a/b", answering "PUT"⟩ [] rfl (by simp)
  exact ⟨names, item, found, methods⟩

end Paths

end RamlBridge.Conversion
