import Mathlib.Algebra.Ring.Nat
import Mathlib.Data.List.Nodup
import Mathlib.Data.List.Pairwise
import RamlBridge.Proofs.Conversion.Grants

/-!
The definitions of several security schemes under one another. A definition is lost to a later one
exactly where the name of one scheme is that of another with a flow behind it.
-/
namespace RamlBridge.Conversion

open Swagger (Flow SecurityDefinition)

/-- The definitions that a scheme gives; none if it is refused. -/
def definitionsOf (p : String × Raml.SecurityScheme) : Entries SecurityDefinition :=
  (mapScheme p.1 p.2).outcome.toOption.getD []

/-- A scheme is defined under its own name: it is a basic one, or it lists a single grant, which
is known. -/
def IsBare (scheme : Raml.SecurityScheme) : Prop :=
  scheme.type = some "Basic Authentication" ∨
    scheme.type = some "OAuth 2.0" ∧ isSingle scheme.settings = true ∧
      flowsOf scheme.settings ≠ []

/-- A scheme that lists several grants is defined under its name with this flow behind it. -/
def IsSuffixed (scheme : Raml.SecurityScheme) (flow : Flow) : Prop :=
  scheme.type = some "OAuth 2.0" ∧ isSingle scheme.settings = false ∧
    flow ∈ flowsOf scheme.settings

/-- No scheme is defined under its own name where that is the name of another with one of its
flows. -/
def KeysApart (schemes : Entries Raml.SecurityScheme) : Prop :=
  ∀ p ∈ schemes, IsBare p.2 → ∀ q ∈ schemes, ∀ flow, IsSuffixed q.2 flow →
    p.1 ≠ q.1 ++ "_" ++ flow.name

section Keys

/-- The flows end in different letters, so that a key tells its flow and the name before it. -/
theorem suffixed_injective {a b : String} {f g : Flow}
    (h : a ++ "_" ++ f.name = b ++ "_" ++ g.name) : a = b := by
  have ends (s : String) (flow : Flow) :
      (s ++ flow.name).toList.getLast? = flow.name.toList.getLast? := by
    rw [String.toList_append]
    cases flow <;> exact List.getLast?_append_of_ne_nil _ (by decide)
  have last : f.name.toList.getLast? = g.name.toList.getLast? := by
    rw [← ends (a ++ "_") f, ← ends (b ++ "_") g, h]
  have same : f = g := by
    cases f <;> cases g <;> first | rfl | exact absurd last (by decide)
  subst same
  exact String.append_left_inj _ |>.mp (String.append_left_inj _ |>.mp h)

def schemeKeys (name : String) (scheme : Raml.SecurityScheme) : List String :=
  if scheme.type = some "Basic Authentication" then [name]
  else if scheme.type = some "OAuth 2.0" then
    (flowsOf scheme.settings).map (flowKey name (isSingle scheme.settings))
  else []

theorem names_of_mapScheme {name : String} {scheme : Raml.SecurityScheme}
    {definitions : Entries SecurityDefinition}
    (made : (mapScheme name scheme).outcome = .ok definitions) :
    definitions.names = schemeKeys name scheme := by
  unfold schemeKeys
  by_cases basic : scheme.type = some "Basic Authentication"
  · rw [mapScheme, if_pos basic] at made
    cases made
    rw [if_pos basic]
    rfl
  · rw [if_neg basic]
    by_cases oauth2 : scheme.type = some "OAuth 2.0"
    · rw [mapScheme_of_oauth2 name oauth2] at made
      obtain ⟨_, rfl⟩ := mapOAuth2_eq_ok made
      rw [if_pos oauth2, flowEntries, Entries.names, List.map_map]
      rfl
    · rw [mapScheme, if_neg basic, if_neg oauth2] at made
      cases made
      rw [if_neg oauth2]
      rfl

theorem nodup_schemeKeys (name : String) (scheme : Raml.SecurityScheme) :
    (schemeKeys name scheme).Nodup := by
  unfold schemeKeys
  split
  · exact List.pairwise_singleton _ _
  · split
    · exact nodup_flowKeys name scheme.settings
    · exact List.nodup_nil

theorem mem_schemeKeys {name key : String} {scheme : Raml.SecurityScheme} :
    key ∈ schemeKeys name scheme ↔
      (IsBare scheme ∧ key = name) ∨ ∃ flow, IsSuffixed scheme flow ∧
        key = name ++ "_" ++ flow.name := by
  unfold schemeKeys IsBare IsSuffixed
  by_cases basic : scheme.type = some "Basic Authentication"
  · simp [basic]
  · by_cases oauth2 : scheme.type = some "OAuth 2.0"
    · cases single : isSingle scheme.settings with
      | true =>
        have listed : (∃ flow, flow ∈ flowsOf scheme.settings) ↔ flowsOf scheme.settings ≠ [] :=
          ⟨fun ⟨flow, h⟩ => List.ne_nil_of_mem h, List.exists_mem_of_ne_nil _⟩
        simp [oauth2, flowKey, listed, @eq_comm _ name]
      | false => simp [oauth2, flowKey, @eq_comm _ _ key]
    · simp [basic, oauth2]

end Keys

/-- Schemes of different names have different keys if and only if they are kept apart. -/
theorem nodup_flatMap_schemeKeys {schemes : Entries Raml.SecurityScheme}
    (distinct : schemes.names.Nodup) :
    (schemes.flatMap fun p => schemeKeys p.1 p.2).Nodup ↔ KeysApart schemes := by
  rw [List.nodup_flatMap]
  constructor
  · rintro ⟨_, disjoint⟩ p hp bare q hq flow suffixed same
    have other : p ≠ q := by
      rintro rfl
      have lengths := congrArg String.length same
      have one : "_".length = 1 := rfl
      rw [String.length_append, String.length_append, one] at lengths
      omega
    have symmetric : Std.Symm (Function.onFun List.Disjoint
        fun p : String × Raml.SecurityScheme => schemeKeys p.1 p.2) :=
      ⟨fun a b h => List.disjoint_symm h⟩
    have apart := disjoint.forall hp hq other
    exact apart (mem_schemeKeys.mpr (Or.inl ⟨bare, rfl⟩))
      (mem_schemeKeys.mpr (Or.inr ⟨flow, suffixed, same⟩))
  · intro apart
    refine ⟨fun p _ => nodup_schemeKeys p.1 p.2, ?_⟩
    have names := List.pairwise_map.mp distinct
    refine names.imp_of_mem ?_
    -- A key that both have is bare in both, suffixed in both, or bare in one; only the last can be.
    intro p q hp hq other key inFirst inSecond
    rcases mem_schemeKeys.mp inFirst with ⟨bare, rfl⟩ | ⟨flow, suffixed, rfl⟩
    · rcases mem_schemeKeys.mp inSecond with ⟨_, same⟩ | ⟨flow, suffixed, same⟩
      · exact other same
      · exact apart p hp bare q hq flow suffixed same
    · rcases mem_schemeKeys.mp inSecond with ⟨bare, same⟩ | ⟨flow', _, same⟩
      · exact apart q hq bare p hp flow suffixed same.symm
      · exact other (suffixed_injective same)

section Lost

variable {schemes : List (Entries Raml.SecurityScheme)}
  {definitions : Entries SecurityDefinition}

/-- The definitions of a list of schemes are those of each scheme, set one after the other. -/
theorem mapSchemes_eq_ok (h : (mapSchemes schemes).outcome = .ok definitions) :
    (∀ p ∈ schemes.flatten, (mapScheme p.1 p.2).outcome = .ok (definitionsOf p)) ∧
      definitions = Entries.ofList (schemes.flatten.flatMap definitionsOf) := by
  rw [mapSchemes, mapEachScheme_outcome] at h
  obtain ⟨made, hmade, rfl⟩ := map_eq_ok h
  have step (p : String × Raml.SecurityScheme) (ds : Entries SecurityDefinition)
      (hds : (mapScheme p.1 p.2).outcome = .ok ds) : ds = definitionsOf p := by
    rw [definitionsOf, hds]
    rfl
  constructor
  · intro p hp
    obtain ⟨ds, hds⟩ := ok_of_mapM hmade p hp
    rw [hds, step p ds hds]
  · have listed := map_of_mapM step hmade
    rw [List.map_id'] at listed
    rw [List.flatMap_def, ← listed, Entries.ofList, Entries.putAll, List.foldl_flatten]
    rfl

/-- Of schemes of different names no definition is lost if and only if no scheme is defined under
its own name where that is the name of another one with a flow behind it. -/
theorem mapSchemes_keeps_iff (distinct : (Entries.names schemes.flatten).Nodup)
    (h : (mapSchemes schemes).outcome = .ok definitions) :
    (∀ p ∈ schemes.flatten, (mapScheme p.1 p.2).outcome = .ok (definitionsOf p)) ∧
      (((∀ p ∈ schemes.flatten, ∀ d ∈ definitionsOf p, definitions.find? d.1 = some d.2) ∧
          definitions.length = (schemes.flatten.map fun p => (definitionsOf p).length).sum) ↔
        KeysApart schemes.flatten) := by
  obtain ⟨each, rfl⟩ := mapSchemes_eq_ok h
  refine ⟨each, ?_⟩
  have keys : Entries.names (schemes.flatten.flatMap definitionsOf) =
      schemes.flatten.flatMap fun p => schemeKeys p.1 p.2 := by
    rw [Entries.names, List.map_flatMap]
    apply List.flatMap_congr
    intro p hp
    exact names_of_mapScheme (each p hp)
  rw [← nodup_flatMap_schemeKeys distinct, ← keys]
  constructor
  · rintro ⟨_, total⟩
    apply nodup_of_length_firstOccurrences
    rw [← Entries.names_ofList, Entries.names, Entries.names, List.length_map, List.length_map,
      List.length_flatMap]
    exact total
  · intro apart
    rw [Entries.ofList_of_nodup apart]
    refine ⟨?_, List.length_flatMap⟩
    intro p hp d hd
    exact Entries.find?_of_mem apart (List.mem_flatMap.mpr ⟨p, hp, hd⟩)

def codeAndToken : Raml.SecurityScheme :=
  ⟨some "OAuth 2.0", none, none,
    [("authorizationGrants", .list [.text "code", .text "token"]),
      ("authorizationUri", .text "http://h/a"), ("accessTokenUri", .text "http://h/t")]⟩

def basicScheme : Raml.SecurityScheme :=
  ⟨some "Basic Authentication", none, none, []⟩

def twoSchemes (basicName : String) : List (Entries Raml.SecurityScheme) :=
  [[("a", codeAndToken), (basicName, basicScheme)]]

/-- Under a name of its own the basic scheme takes nothing from the other one. -/
theorem mapSchemes_keeps_iff_two :
    ∃ definitions, (mapSchemes (twoSchemes "b")).outcome = .ok definitions ∧
      definitions.length = 3 := by
  have distinct : (Entries.names (twoSchemes "b").flatten).Nodup := by decide
  have made : (mapSchemes (twoSchemes "b")).outcome = .ok _ := rfl
  have apart : KeysApart (twoSchemes "b").flatten := by
    have listed : (twoSchemes "b").flatten = [("a", codeAndToken), ("b", basicScheme)] := rfl
    rw [listed]
    intro p hp bare q hq flow suffixed
    simp only [List.mem_cons, List.not_mem_nil, or_false] at hp hq
    rcases hp with rfl | rfl
    · rcases bare with basic | ⟨_, single, _⟩
      · exact absurd basic (by decide)
      · cases single
    · rcases hq with rfl | rfl
      · cases flow <;> decide
      · exact absurd suffixed.1 (by decide)
  obtain ⟨_, keeps⟩ := mapSchemes_keeps_iff distinct made
  exact ⟨_, made, (keeps.mpr apart).2⟩

/-- Under the name of one of its flows it takes the place of a definition of the other one. -/
theorem mapSchemes_loses :
    (Entries.names (twoSchemes "a_accessCode").flatten).Nodup ∧
      ∃ definitions ofFirst ofSecond lost,
        (mapSchemes (twoSchemes "a_accessCode")).outcome = .ok definitions ∧
        (mapScheme "a" codeAndToken).outcome = .ok ofFirst ∧
        (mapScheme "a_accessCode" basicScheme).outcome = .ok ofSecond ∧
        ("a_accessCode", lost) ∈ ofFirst ∧ definitions.find? "a_accessCode" ≠ some lost ∧
        definitions.length < ofFirst.length + ofSecond.length := by
  refine ⟨by decide, _, _, _, flowDefinition codeAndToken .accessCode, rfl, rfl, rfl,
    List.mem_cons_self, ?_, by decide⟩
  intro same
  cases same

end Lost

end RamlBridge.Conversion
