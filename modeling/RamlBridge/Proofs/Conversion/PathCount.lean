import Mathlib.Data.List.Nodup
import RamlBridge.Proofs.Conversion.Paths

/-!
The number of paths. Going through a forest warns of a path whenever it was set before, so that
every resource gives a path or a warning.
-/
namespace RamlBridge.Conversion

open Raml (Place places resourceCount)

section Warnings

variable {registry : Registry}

/-- The paths of the resources of a forest that stands below a URI, in pre-order. -/
def pathKeys (hoistedPrefix uri : String) (forest : List (String × Raml.Resource)) : List String :=
  (places forest).map fun p => hoistedPrefix ++ (uri ++ p.uri)

theorem pathKeys_cons (hoistedPrefix uri key : String) (r : Raml.Resource)
    (rest : List (String × Raml.Resource)) :
    pathKeys hoistedPrefix uri ((key, r) :: rest) =
      (hoistedPrefix ++ (uri ++ key)) ::
        (pathKeys hoistedPrefix (uri ++ key) r.children ++ pathKeys hoistedPrefix uri rest) := by
  have below (p : Place) : uri ++ (p.below key r).uri = uri ++ key ++ p.uri := by
    rw [Place.uri_below, String.append_assoc]
  simp only [pathKeys, Raml.places_cons, Raml.placesOf_eq, List.map_cons, List.map_append,
    List.map_map, Function.comp_def, below, Place.uri_top, List.cons_append]

theorem names_visitAll {hoistedPrefix uri : String} {scope : Scope}
    {paths made : Entries Swagger.PathItem} {forest : List (String × Raml.Resource)}
    (h : (visitAll registry hoistedPrefix uri scope paths forest).outcome = .ok made) :
    made.names = (pathKeys hoistedPrefix uri forest).foldl addNew paths.names := by
  rw [visitAll_outcome] at h
  obtain ⟨entries, hentries, rfl⟩ := map_eq_ok h
  rw [Entries.names_putAll, names_of_mapM hentries]
  rfl

/-- A resource warns of its own path before the resources below it warn of theirs. -/
theorem visit_warnings {hoistedPrefix uri : String} {scope : Scope}
    {paths : Entries Swagger.PathItem} {r : Raml.Resource} {item : Swagger.PathItem}
    (h : mapActions registry (scope.extend r.uriParameters) r.actions = .ok item) :
    (visit registry hoistedPrefix uri scope paths r).warnings =
      (if hoistedPrefix ++ uri ∈ paths.names then [.repeatedPath (hoistedPrefix ++ uri)] else []) ++
        (visitAll registry hoistedPrefix uri (scope.extend r.uriParameters)
          (paths.put (hoistedPrefix ++ uri) item) r.children).warnings := by
  obtain ⟨displayName, description, uriParameters, actions, children⟩ := r
  have warned : (Report.warnIf (paths.contains (hoistedPrefix ++ uri))
      (.repeatedPath (hoistedPrefix ++ uri))).outcome = .ok () := rfl
  have made : (Report.ofExcept (mapActions registry (scope.extend uriParameters) actions)).outcome =
      .ok item := h
  rw [visit, Report.warnings_bind warned, Report.warnings_bind made]
  simp only [Report.warnIf, Entries.contains_iff, Report.ofExcept, List.nil_append]

/-- The warnings of a forest are of the paths that were set before. -/
theorem visitAll_warnings {hoistedPrefix uri : String} {scope : Scope}
    {paths made : Entries Swagger.PathItem} {forest : List (String × Raml.Resource)}
    (h : (visitAll registry hoistedPrefix uri scope paths forest).outcome = .ok made) :
    (visitAll registry hoistedPrefix uri scope paths forest).warnings =
      (repeatsAfter paths.names (pathKeys hoistedPrefix uri forest)).map .repeatedPath := by
  induction forest using Raml.forest_induction generalizing uri scope paths made with
  | nil => rfl
  | cons key r rest ihBelow ihRest =>
    rw [visitAll, Report.outcome_bind] at h
    obtain ⟨between, hfirst, hrest⟩ := bind_eq_ok h
    have first := hfirst
    rw [visit_outcome] at first
    obtain ⟨item, hitem, hbelow⟩ := bind_eq_ok first
    -- What was set when the rest is gone through are the paths of the resource and of those below.
    have seen : between.names =
        (pathKeys hoistedPrefix (uri ++ key) r.children).foldl addNew
          (addNew paths.names (hoistedPrefix ++ (uri ++ key))) := by
      rw [names_visitAll hbelow, Entries.names_put]
    rw [visitAll, Report.warnings_bind hfirst, visit_warnings hitem, ihBelow hbelow, ihRest hrest,
      Entries.names_put, seen, pathKeys_cons, repeatsAfter, repeatsAfter_append, List.map_append,
      List.map_append, apply_ite (List.map Warning.repeatedPath), List.append_assoc]
    rfl

end Warnings

section Count

variable {registry : Registry} {hoistedPrefix : String} {root : Scope}
  {resources : Entries Raml.Resource} {paths : Entries Swagger.PathItem}

theorem pathKeys_nodup_iff :
    (pathKeys hoistedPrefix "" resources).Nodup ↔ ((places resources).map Place.uri).Nodup := by
  have prefixed : pathKeys hoistedPrefix "" resources =
      ((places resources).map Place.uri).map (hoistedPrefix ++ ·) := by
    simp only [pathKeys, List.map_map, Function.comp_def, String.empty_append]
  rw [prefixed]
  exact List.nodup_map_iff fun _ _ same => String.append_right_inj _ |>.mp same

/-- Every resource gives a path, or a warning that its path was set before. So there are as many
paths as resources if and only if there is no warning, which is if and only if no two resources
have the same full URI. -/
theorem length_mapPaths
    (h : (mapPaths registry hoistedPrefix root resources).outcome = .ok paths) :
    (∀ w ∈ (mapPaths registry hoistedPrefix root resources).warnings,
      ∃ path, w = .repeatedPath path) ∧
    paths.length + (mapPaths registry hoistedPrefix root resources).warnings.length =
      resourceCount resources ∧
    (paths.length = resourceCount resources ↔
      (mapPaths registry hoistedPrefix root resources).warnings = []) ∧
    ((mapPaths registry hoistedPrefix root resources).warnings = [] ↔
      ((places resources).map Place.uri).Nodup) := by
  have names := names_visitAll h
  have warnings := visitAll_warnings h
  change (mapPaths registry hoistedPrefix root resources).warnings =
    (repeatsAfter [] (pathKeys hoistedPrefix "" resources)).map .repeatedPath at warnings
  have total : paths.length + (mapPaths registry hoistedPrefix root resources).warnings.length =
      resourceCount resources := by
    have size : paths.length = (firstOccurrences (pathKeys hoistedPrefix "" resources)).length := by
      rw [firstOccurrences_eq_foldl, ← List.length_map Prod.fst]
      exact congrArg List.length names
    rw [size, warnings, List.length_map, length_repeats, pathKeys, List.length_map,
      Raml.length_places]
  refine ⟨?_, total, ?_, ?_⟩
  · intro w hw
    rw [warnings] at hw
    obtain ⟨path, _, rfl⟩ := List.mem_map.mp hw
    exact ⟨path, rfl⟩
  · rw [← total, ← List.length_eq_zero_iff]
    omega
  · rw [warnings, List.map_eq_nil_iff, repeats_eq_nil_iff, pathKeys_nodup_iff]

/-- Of four resources two meet at one path, and one warning is given. -/
theorem length_mapPaths_meeting :
    ∃ paths, (mapPaths .empty "/v" ⟨[("v", .plain true)]⟩ meetingForest).outcome = .ok paths ∧
      paths.length = 3 ∧ resourceCount meetingForest = 4 ∧
      (mapPaths .empty "/v" ⟨[("v", .plain true)]⟩ meetingForest).warnings.length = 1 ∧
      ¬ ((places meetingForest).map Place.uri).Nodup := by
  have run : (mapPaths .empty "/v" ⟨[("v", .plain true)]⟩ meetingForest).outcome = .ok _ := rfl
  obtain ⟨_, total, _, distinct⟩ := length_mapPaths run
  have one : (mapPaths .empty "/v" ⟨[("v", .plain true)]⟩ meetingForest).warnings.length = 1 := by
    rw [show resourceCount meetingForest = 4 from rfl] at total
    exact Nat.add_left_cancel (n := 3) total
  refine ⟨_, run, rfl, rfl, one, ?_⟩
  rw [← distinct]
  intro none
  rw [none] at one
  cases one

end Count

end RamlBridge.Conversion
