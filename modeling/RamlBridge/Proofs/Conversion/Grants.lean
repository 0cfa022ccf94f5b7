import Mathlib.Data.List.Nodup
import RamlBridge.Proofs.Conversion.Security
import RamlBridge.Proofs.Decimal.Digits
import RamlBridge.Raml.Declaration

/-!
The definitions of an OAuth 2.0 scheme: one for every distinct grant that is known, and a warning
for every other one. A setting that one of these grants needs and that is not set stops them all,
and so does one, a grant or a scope without a text.
-/
namespace RamlBridge.Conversion

open Swagger (Flow SecurityDefinition)

def grantsOf (settings : Entries Datum) : List Datum :=
  asList (settings.find? "authorizationGrants")

/-- The texts of the grants that settings list, up to the first that has none. -/
def grantTexts (settings : Entries Datum) : List String :=
  leadingTexts (grantsOf settings)

def scopesOf (settings : Entries Datum) : Entries String :=
  Entries.ofList ((leadingTexts (asList (settings.find? "scopes"))).map fun t => (t, ""))

def cameBefore (grants : List String) (p : String × Nat) : Bool :=
  Text.lower p.1 ∈ (grants.take p.2).map Text.lower

def newGrants (grants : List String) : List String :=
  (grants.zipIdx.filter fun p => !cameBefore grants p).map Prod.fst

def repeatedGrants (grants : List String) : List String :=
  (grants.zipIdx.filter (cameBefore grants)).map Prod.fst

section Distinct

/-- What was seen are the grants before the list, so that a grant is dropped if it came before in
the whole. -/
theorem distinctGrants_after (scheme : String) {seen before : List String}
    (same : ∀ g, g ∈ seen ↔ g ∈ before.map Text.lower) (grants : List String) :
    distinctGrants scheme seen grants =
      (((grants.zipIdx before.length).filter fun p => !cameBefore (before ++ grants) p).map
          Prod.fst,
        (((grants.zipIdx before.length).filter (cameBefore (before ++ grants))).map Prod.fst).map
          (.repeatedGrant · scheme)) := by
  induction grants generalizing seen before with
  | nil => rfl
  | cons grant rest ih =>
    have here : cameBefore (before ++ grant :: rest) (grant, before.length) =
        decide (Text.lower grant ∈ seen) := by
      rw [cameBefore, List.take_left]
      exact decide_eq_decide.mpr (same _).symm
    have shifted : before ++ grant :: rest = (before ++ [grant]) ++ rest := by
      rw [List.append_assoc, List.singleton_append]
    have next : before.length + 1 = (before ++ [grant]).length := by
      rw [List.length_append, List.length_singleton]
    rw [List.zipIdx_cons, next]
    by_cases known : Text.lower grant ∈ seen
    · have seen' : ∀ g, g ∈ seen ↔ g ∈ (before ++ [grant]).map Text.lower := by
        intro g
        rw [List.map_append, List.mem_append, ← same g]
        simp only [List.map_cons, List.map_nil, List.mem_singleton]
        exact ⟨Or.inl, fun h => h.elim id fun e => e ▸ known⟩
      rw [distinctGrants, if_pos known, ih seen', List.filter_cons, List.filter_cons, here,
        decide_eq_true known, shifted]
      rfl
    · have seen' : ∀ g, g ∈ Text.lower grant :: seen ↔ g ∈ (before ++ [grant]).map Text.lower := by
        intro g
        rw [List.map_append, List.mem_append, ← same g, List.mem_cons, or_comm]
        simp only [List.map_cons, List.map_nil, List.mem_singleton]
      rw [distinctGrants, if_neg known, ih seen', List.filter_cons, List.filter_cons, here,
        decide_eq_false known, shifted]
      rfl

theorem distinctGrants_eq (scheme : String) (grants : List String) :
    distinctGrants scheme [] grants =
      (newGrants grants, (repeatedGrants grants).map (.repeatedGrant · scheme)) := by
  have none : ∀ g, g ∈ [] ↔ g ∈ ([] : List String).map Text.lower := fun _ => Iff.rfl
  exact distinctGrants_after scheme none grants

/-- Every grant is new or repeated. -/
theorem length_newGrants (grants : List String) :
    (newGrants grants).length + (repeatedGrants grants).length = grants.length := by
  have split := List.length_eq_countP_add_countP (cameBefore grants) (l := grants.zipIdx)
  rw [List.countP_eq_length_filter, List.countP_eq_length_filter, List.length_zipIdx] at split
  simp only [newGrants, repeatedGrants, List.length_map]
  simp only [Bool.not_eq_true, Bool.decide_eq_false] at split
  omega

theorem nodup_distinctGrants (scheme : String) (seen grants : List String) :
    ((distinctGrants scheme seen grants).1.map Text.lower).Nodup ∧
      ∀ g ∈ (distinctGrants scheme seen grants).1, Text.lower g ∉ seen := by
  induction grants generalizing seen with
  | nil => exact ⟨List.nodup_nil, fun g hg => absurd hg List.not_mem_nil⟩
  | cons grant rest ih =>
    by_cases known : Text.lower grant ∈ seen
    · rw [distinctGrants, if_pos known]
      exact ih seen
    · rw [distinctGrants, if_neg known]
      obtain ⟨distinct, apart⟩ := ih (Text.lower grant :: seen)
      constructor
      · refine List.nodup_cons.mpr ⟨?_, distinct⟩
        intro hmem
        obtain ⟨g, hg, same⟩ := List.mem_map.mp hmem
        exact apart g hg (same ▸ List.mem_cons_self)
      · intro g hg
        rcases List.mem_cons.mp hg with rfl | later
        · exact known
        · exact fun hseen => apart g later (List.mem_cons_of_mem _ hseen)

/-- No two new grants have the same name in lower case. -/
theorem nodup_newGrants (grants : List String) : ((newGrants grants).map Text.lower).Nodup := by
  have distinct := (nodup_distinctGrants "" [] grants).1
  rwa [distinctGrants_eq] at distinct

end Distinct

def flowOf? (grant : String) : Option Flow :=
  (grantFlow? (Text.lower grant)).map GrantFlow.flow

def unknownGrants (grants : List String) : List String :=
  grants.filter fun grant => (flowOf? grant).isNone

/-- The settings that a flow needs, in the order in which they are looked up. -/
def neededSettings : Flow → List String
  | .accessCode => ["authorizationUri", "accessTokenUri"]
  | .implicit => ["authorizationUri"]
  | .password | .application => ["accessTokenUri"]

section Flows

def grantOf : Flow → String
  | .accessCode => "code"
  | .implicit => "token"
  | .password => "owner"
  | .application => "credentials"

/-- A grant is known by its flow, which also says what it needs. -/
theorem grantFlow?_eq_some {grant : String} {f : GrantFlow} (h : grantFlow? grant = some f) :
    grant = grantOf f.flow ∧
      f.needsAuthorizationUri = decide (f.flow = .accessCode ∨ f.flow = .implicit) ∧
      f.needsTokenUri = decide (f.flow ≠ .implicit) := by
  unfold grantFlow? at h
  split at h
  · cases h
    decide
  · cases h
    decide
  · cases h
    decide
  · cases h
    decide
  · cases h

/-- Every grant is known or unknown. -/
theorem length_flows (grants : List String) :
    (grants.filterMap flowOf?).length + (unknownGrants grants).length = grants.length := by
  induction grants with
  | nil => rfl
  | cons grant rest ih =>
    simp only [unknownGrants] at ih ⊢
    cases flow : flowOf? grant with
    | none =>
      simp only [List.filterMap_cons, List.filter_cons, flow, Option.isNone_none, if_true,
        List.length_cons]
      omega
    | some f =>
      simp only [List.filterMap_cons, List.filter_cons, flow, Option.isNone_some,
        Bool.false_eq_true, if_false, List.length_cons]
      omega

theorem name_injective {f g : Flow} (h : f.name = g.name) : f = g := by
  cases f <;> cases g <;> first | rfl | exact absurd h (by decide)

/-- Grants of different names in lower case have different flows. -/
theorem nodup_flows {grants : List String} (distinct : (grants.map Text.lower).Nodup) :
    (grants.filterMap flowOf?).Nodup := by
  have listed : grants.filterMap flowOf? =
      (grants.map Text.lower).filterMap fun g => (grantFlow? g).map GrantFlow.flow := by
    rw [List.filterMap_map]
    rfl
  rw [listed]
  apply distinct.filterMap
  intro g h flow hg hh
  obtain ⟨f, known, rfl⟩ := Option.map_eq_some_iff.mp hg
  obtain ⟨f', known', same⟩ := Option.map_eq_some_iff.mp hh
  rw [(grantFlow?_eq_some known).1, (grantFlow?_eq_some known').1, same]

end Flows

def trimmedSetting (settings : Entries Datum) (key : String) : String :=
  Text.unquoted ((settingText? settings key).getD "")

/-- The definition of one flow of a scheme. The flow tells which of the two addresses it has. -/
def flowDefinition (scheme : Raml.SecurityScheme) (flow : Flow) : SecurityDefinition :=
  .oauth2 scheme.description flow
    (if flow = .accessCode ∨ flow = .implicit then
      some (trimmedSetting scheme.settings "authorizationUri") else none)
    (if flow ≠ .implicit then some (trimmedSetting scheme.settings "accessTokenUri") else none)
    (scopesOf scheme.settings)

/-- What a setting stops with that is needed: it is not set, or it has no text. -/
def settingStop? (name : String) (settings : Entries Datum) (key : String) : Option Stop :=
  if isSet settings key then
    if (settingText? settings key).isSome then none else some .integerTooLong
  else some (missingSetting name key)

/-- What the first of the settings that a flow needs stops with. -/
def flowStop? (name : String) (settings : Entries Datum) (flow : Flow) : Option Stop :=
  (neededSettings flow).findSome? (settingStop? name settings)

/-- The key of a flow: the name of the scheme, and the flow too unless the grant is the only one. -/
def flowKey (name : String) (single : Bool) (flow : Flow) : String :=
  if single then name else name ++ "_" ++ flow.name

def flowEntries (name : String) (scheme : Raml.SecurityScheme) (single : Bool)
    (flows : List Flow) : Entries SecurityDefinition :=
  flows.map fun flow => (flowKey name single flow, flowDefinition scheme flow)

section Definitions

variable {name : String} {scheme : Raml.SecurityScheme}

theorem setting_eq_stop (name : String) (settings : Entries Datum) (key : String) :
    setting name settings key =
      match settingStop? name settings key with
      | some stop => .error stop
      | none => .ok (trimmedSetting settings key) := by
  rw [setting_eq, settingStop?, trimmedSetting]
  cases isSet settings key with
  | false => rfl
  | true => cases settingText? settings key <;> rfl

theorem settingIf_eq (needed : Bool) (name : String) (settings : Entries Datum) (key : String) :
    settingIf needed name settings key =
      if needed then
        match settingStop? name settings key with
        | some stop => .error stop
        | none => .ok (some (trimmedSetting settings key))
      else .ok none := by
  rw [settingIf, setting_eq_stop]
  cases needed with
  | false => rfl
  | true => cases settingStop? name settings key <;> rfl

/-- A grant stops at the first setting that it needs and that does not give its text. -/
theorem grantDefinition_eq {grant : String} {f : GrantFlow} (known : grantFlow? grant = some f) :
    grantDefinition name scheme (scopesOf scheme.settings) f =
      match flowStop? name scheme.settings f.flow with
      | some stop => .error stop
      | none => .ok (flowDefinition scheme f.flow) := by
  obtain ⟨-, authorization, token⟩ := grantFlow?_eq_some known
  simp only [grantDefinition, settingIf_eq, authorization, token, flowStop?, flowDefinition]
  cases f.flow <;> cases first : settingStop? name scheme.settings "authorizationUri" <;>
    cases second : settingStop? name scheme.settings "accessTokenUri" <;>
      simp [neededSettings, first, second]

/-- The grants stop at the first setting that does not give its text; otherwise each known one sets
its definition. -/
theorem grantDefinitions_outcome (single : Bool) (definitions : Entries SecurityDefinition)
    (grants : List String) :
    (grantDefinitions name scheme (scopesOf scheme.settings) single definitions grants).outcome =
      match (grants.filterMap flowOf?).findSome? (flowStop? name scheme.settings) with
      | some stop => .error stop
      | none => .ok (definitions.putAll
          (flowEntries name scheme single (grants.filterMap flowOf?))) := by
  induction grants generalizing definitions with
  | nil => rfl
  | cons grant rest ih =>
    cases known : grantFlow? (Text.lower grant) with
    | none =>
      have unknown : flowOf? grant = none := by rw [flowOf?, known]; rfl
      simp only [grantDefinitions, known, Report.outcome_bind, Report.outcome_warnIf, ok_bind,
        List.filterMap_cons, unknown]
      exact ih definitions
    | some f =>
      have flow : flowOf? grant = some f.flow := by rw [flowOf?, known]; rfl
      simp only [grantDefinitions, known, Report.outcome_bind, Report.outcome_ofExcept,
        grantDefinition_eq known, List.filterMap_cons, flow, List.findSome?_cons]
      cases flowStop? name scheme.settings f.flow with
      | some stop => rfl
      | none => exact ih _

/-- Every unknown grant is warned about once all settings give their texts. -/
theorem grantDefinitions_warnings (name : String) (single : Bool)
    (definitions : Entries SecurityDefinition) {grants : List String}
    (complete : (grants.filterMap flowOf?).findSome? (flowStop? name scheme.settings) = none) :
    (grantDefinitions name scheme (scopesOf scheme.settings) single definitions grants).warnings =
      (unknownGrants grants).map (.unknownGrant · name) := by
  induction grants generalizing definitions with
  | nil => rfl
  | cons grant rest ih =>
    cases known : grantFlow? (Text.lower grant) with
    | none =>
      have unknown : flowOf? grant = none := by rw [flowOf?, known]; rfl
      rw [List.filterMap_cons, unknown] at complete
      have warned : unknownGrants (grant :: rest) = grant :: unknownGrants rest :=
        List.filter_cons_of_pos (by rw [unknown]; rfl)
      rw [grantDefinitions, known, warned, List.map_cons]
      exact congrArg (Warning.unknownGrant grant name :: ·) (ih definitions complete)
    | some f =>
      have flow : flowOf? grant = some f.flow := by rw [flowOf?, known]; rfl
      simp only [List.filterMap_cons, flow, List.findSome?_eq_none_iff, List.forall_mem_cons]
        at complete
      have passed : unknownGrants (grant :: rest) = unknownGrants rest :=
        List.filter_cons_of_neg (by rw [flow]; simp)
      have made : (Report.ofExcept (grantDefinition name scheme (scopesOf scheme.settings)
          f)).outcome = .ok (flowDefinition scheme f.flow) := by
        rw [Report.outcome_ofExcept, grantDefinition_eq known, complete.1]
      rw [grantDefinitions, known, passed]
      exact (Report.warnings_bind made _).trans (ih _ (List.findSome?_eq_none_iff.mpr complete.2))

end Definitions

section Scheme

variable {scheme : Raml.SecurityScheme}

/-- The flows of the grants of a scheme that are known, each grant once. -/
def flowsOf (settings : Entries Datum) : List Flow :=
  (newGrants (grantTexts settings)).filterMap flowOf?

def isSingle (settings : Entries Datum) : Bool :=
  (newGrants (grantTexts settings)).length == 1

theorem nodup_flowKeys (name : String) (settings : Entries Datum) :
    ((flowsOf settings).map (flowKey name (isSingle settings))).Nodup := by
  have distinct := nodup_flows (nodup_newGrants (grantTexts settings))
  cases single : isSingle settings with
  | true =>
    have one : (newGrants (grantTexts settings)).length = 1 := by simpa [isSingle] using single
    have few : (flowsOf settings).length ≤ 1 :=
      one ▸ List.length_filterMap_le _ _
    cases flows : flowsOf settings with
    | nil => exact List.nodup_nil
    | cons flow rest =>
      rw [flows, List.length_cons] at few
      have none : rest = [] := List.length_eq_zero_iff.mp (by omega)
      rw [none]
      exact List.pairwise_singleton _ _
  | false =>
    apply distinct.map
    intro f g same
    simp only [flowKey, Bool.false_eq_true, if_false] at same
    exact name_injective ((String.append_right_inj _).mp same)

theorem nodup_names_flowEntries (name : String) (scheme : Raml.SecurityScheme) :
    (flowEntries name scheme (isSingle scheme.settings)
      (flowsOf scheme.settings)).names.Nodup := by
  rw [flowEntries, Entries.names, List.map_map]
  exact nodup_flowKeys name scheme.settings

/-- What has to hold of a scheme so that its grants are defined. -/
structure IsMapped (name : String) (settings : Entries Datum) : Prop where
  listed : grantsOf settings ≠ []
  grants : haveTexts (grantsOf settings) = true
  scopes : haveTexts (asList (settings.find? "scopes")) = true
  complete : (flowsOf settings).findSome? (flowStop? name settings) = none

/-- The distinct grants are gone through behind the warnings about the others. -/
theorem mapOAuth2_of_texts (name : String) {scheme : Raml.SecurityScheme}
    (listed : grantsOf scheme.settings ≠ []) (grants : haveTexts (grantsOf scheme.settings) = true)
    (scopes : haveTexts (asList (scheme.settings.find? "scopes")) = true) :
    mapOAuth2 name scheme =
      ((⟨.ok (), (repeatedGrants (grantTexts scheme.settings)).map (.repeatedGrant · name)⟩ :
          Report Unit) >>= fun _ =>
        grantDefinitions name scheme (scopesOf scheme.settings) (isSingle scheme.settings) []
          (newGrants (grantTexts scheme.settings))) := by
  have entries : scopeEntries scheme.settings = .ok (scopesOf scheme.settings) := by
    rw [scopeEntries, texts_eq, if_pos scopes]
    rfl
  unfold mapOAuth2
  split
  · next none => exact absurd none listed
  · rw [distinctGrants_eq, ← grantsOf, texts_eq, if_pos grants, entries]
    rfl

theorem mapOAuth2_outcome (name : String) (scheme : Raml.SecurityScheme) :
    (mapOAuth2 name scheme).outcome =
      if grantsOf scheme.settings = [] then
        .error (.failure (.securityScheme name "'authorizationGrants' must not be empty"))
      else if haveTexts (grantsOf scheme.settings) ∧
          haveTexts (asList (scheme.settings.find? "scopes")) then
        match (flowsOf scheme.settings).findSome? (flowStop? name scheme.settings) with
        | some stop => .error stop
        | none => .ok (flowEntries name scheme (isSingle scheme.settings)
            (flowsOf scheme.settings))
      else .error .integerTooLong := by
  by_cases listed : grantsOf scheme.settings = []
  · rw [grantsOf] at listed
    rw [grantsOf, if_pos listed, mapOAuth2, listed]
    rfl
  rw [if_neg listed]
  by_cases texts : haveTexts (grantsOf scheme.settings) = true ∧
      haveTexts (asList (scheme.settings.find? "scopes")) = true
  · have merged := Entries.ofList_of_nodup (nodup_names_flowEntries name scheme)
    rw [if_pos texts, mapOAuth2_of_texts name listed texts.1 texts.2, Report.outcome_bind, ok_bind,
      grantDefinitions_outcome]
    -- Each definition is put over those before it; under different keys that appends it.
    rw [Entries.ofList, flowsOf] at merged
    rw [merged]
    rfl
  · rw [if_neg texts]
    unfold mapOAuth2
    split
    · next none => exact absurd none listed
    · simp only [Report.outcome_bind, Report.outcome_ofExcept, ok_bind, texts_eq, scopeEntries]
      rw [← grantsOf]
      cases grants : haveTexts (grantsOf scheme.settings) with
      | false => rfl
      | true =>
        cases scopes : haveTexts (asList (scheme.settings.find? "scopes")) with
        | false => rfl
        | true => exact absurd ⟨grants, scopes⟩ texts

theorem mapOAuth2_eq_ok {name : String} {definitions : Entries SecurityDefinition}
    (h : (mapOAuth2 name scheme).outcome = .ok definitions) :
    IsMapped name scheme.settings ∧
      definitions =
        flowEntries name scheme (isSingle scheme.settings) (flowsOf scheme.settings) := by
  rw [mapOAuth2_outcome] at h
  split at h
  · cases h
  · next listed =>
    split at h
    · next texts =>
      split at h
      · cases h
      · next complete =>
        cases h
        exact ⟨⟨listed, texts.1, texts.2, complete⟩, rfl⟩
    · cases h

theorem mapOAuth2_warnings {name : String} (mapped : IsMapped name scheme.settings) :
    (mapOAuth2 name scheme).warnings =
      (repeatedGrants (grantTexts scheme.settings)).map (.repeatedGrant · name) ++
        (unknownGrants (newGrants (grantTexts scheme.settings))).map (.unknownGrant · name) := by
  have passed := grantDefinitions_warnings name (isSingle scheme.settings) [] mapped.complete
  rw [mapOAuth2_of_texts name mapped.listed mapped.grants mapped.scopes]
  exact (Report.warnings_bind rfl _).trans (congrArg _ passed)

theorem mapScheme_of_oauth2 (name : String) (oauth2 : scheme.type = some "OAuth 2.0") :
    mapScheme name scheme = mapOAuth2 name scheme := by
  have other : ¬ scheme.type = some "Basic Authentication" := by
    rw [oauth2]
    decide
  rw [mapScheme, if_neg other, if_pos oauth2]

def missingFor (settings : Entries Datum) (flow : Flow) : Option String :=
  (neededSettings flow).find? fun key => !isSet settings key

/-- All that a scheme lists or sets has a text: no integer in it has too many digits. -/
structure HasTexts (settings : Entries Datum) : Prop where
  grants : haveTexts (grantsOf settings) = true
  scopes : haveTexts (asList (settings.find? "scopes")) = true
  setting : ∀ key ∈ ["authorizationUri", "accessTokenUri"], (settingText? settings key).isSome

/-- Where all has a text, a flow stops at the first setting that is missing. -/
theorem HasTexts.flowStop?_eq {settings : Entries Datum} (texts : HasTexts settings)
    (name : String) (flow : Flow) :
    flowStop? name settings flow = (missingFor settings flow).map (missingSetting name) := by
  have first := texts.setting "authorizationUri" (by decide)
  have second := texts.setting "accessTokenUri" (by decide)
  cases flow <;> cases authorization : isSet settings "authorizationUri" <;>
    cases token : isSet settings "accessTokenUri" <;>
      simp [flowStop?, missingFor, neededSettings, settingStop?, first, second, authorization,
        token]

theorem HasTexts.mapOAuth2_outcome (texts : HasTexts scheme.settings) (name : String) :
    (mapOAuth2 name scheme).outcome =
      if grantsOf scheme.settings = [] then
        .error (.failure (.securityScheme name "'authorizationGrants' must not be empty"))
      else
        match (flowsOf scheme.settings).findSome? (missingFor scheme.settings) with
        | some key => .error (missingSetting name key)
        | none => .ok (flowEntries name scheme (isSingle scheme.settings)
            (flowsOf scheme.settings)) := by
  have both := And.intro texts.grants texts.scopes
  have stops : (flowsOf scheme.settings).findSome? (flowStop? name scheme.settings) =
      ((flowsOf scheme.settings).findSome? (missingFor scheme.settings)).map
        (missingSetting name) := by
    rw [funext (texts.flowStop?_eq name), List.map_findSome?]
    rfl
  rw [Conversion.mapOAuth2_outcome, if_pos both, stops]
  cases (flowsOf scheme.settings).findSome? (missingFor scheme.settings) <;> rfl

/-- The texts of the grants are those of all of them. -/
theorem map_grantTexts {ds : List Datum} (texts : haveTexts ds = true) :
    (leadingTexts ds).map some = ds.map Datum.plainText := by
  induction ds with
  | nil => rfl
  | cons d rest ih =>
    rw [haveTexts, List.all_cons, Bool.and_eq_true, ← haveTexts] at texts
    obtain ⟨t, shown⟩ := Option.isSome_iff_exists.mp texts.1
    rw [leadingTexts, List.map_cons, shown, List.map_cons, ih texts.2]

/-- A setting is missing if and only if some distinct grant that is known needs it. -/
theorem findSome?_missingFor_ne_none {settings : Entries Datum} :
    (flowsOf settings).findSome? (missingFor settings) ≠ none ↔
      ∃ grant ∈ newGrants (grantTexts settings), ∃ flow, flowOf? grant = some flow ∧
        ∃ key ∈ neededSettings flow, isSet settings key = false := by
  simp only [ne_eq, List.findSome?_eq_none_iff, flowsOf, List.mem_filterMap, missingFor,
    List.find?_eq_none, Bool.not_eq_true', Classical.not_forall, Classical.not_not]
  constructor
  · rintro ⟨flow, ⟨grant, hgrant, known⟩, key, needed, missing⟩
    exact ⟨grant, hgrant, flow, known, key, needed, missing⟩
  · rintro ⟨grant, hgrant, flow, known, key, needed, missing⟩
    exact ⟨flow, ⟨grant, hgrant, known⟩, key, needed, missing⟩

/-- Where all that a scheme of OAuth 2.0 lists and sets has a text, it is refused if and only if it
lists no grant, or if a known one of its distinct grants needs a setting that is not set; the
refusal names the first such setting. Otherwise it gives one definition for each known one of the
distinct grants, in order and under different keys, and every grant that it lists is defined or
warned about. -/
theorem mapScheme_oauth2 (name : String) (oauth2 : scheme.type = some "OAuth 2.0")
    (texts : HasTexts scheme.settings) :
    (grantTexts scheme.settings).map some = (grantsOf scheme.settings).map Datum.plainText ∧
    ((∃ stop, (mapScheme name scheme).outcome = .error stop) ↔
      grantTexts scheme.settings = [] ∨
        ∃ grant ∈ newGrants (grantTexts scheme.settings), ∃ flow, flowOf? grant = some flow ∧
          ∃ key ∈ neededSettings flow, isSet scheme.settings key = false) ∧
    (grantTexts scheme.settings = [] → (mapScheme name scheme).outcome =
      .error (.failure (.securityScheme name "'authorizationGrants' must not be empty"))) ∧
    (∀ key, (flowsOf scheme.settings).findSome? (missingFor scheme.settings) = some key →
      (mapScheme name scheme).outcome =
        .error (.failure (.securityScheme name ("missing '" ++ key ++ "' setting")))) ∧
    ∀ definitions, (mapScheme name scheme).outcome = .ok definitions →
      definitions = (flowsOf scheme.settings).map (fun flow =>
        (if (newGrants (grantTexts scheme.settings)).length = 1 then name
          else name ++ "_" ++ flow.name, flowDefinition scheme flow)) ∧
      definitions.names.Nodup ∧
      (mapScheme name scheme).warnings =
        (repeatedGrants (grantTexts scheme.settings)).map (.repeatedGrant · name) ++
          (unknownGrants (newGrants (grantTexts scheme.settings))).map (.unknownGrant · name) ∧
      definitions.length + (repeatedGrants (grantTexts scheme.settings)).length +
          (unknownGrants (newGrants (grantTexts scheme.settings))).length =
        (grantTexts scheme.settings).length := by
  have shown := map_grantTexts texts.grants
  have listed_iff : grantTexts scheme.settings = [] ↔ grantsOf scheme.settings = [] := by
    rw [← List.map_eq_nil_iff (f := some), grantTexts, shown, List.map_eq_nil_iff]
  rw [mapScheme_of_oauth2 name oauth2, texts.mapOAuth2_outcome, ← findSome?_missingFor_ne_none,
    listed_iff]
  refine ⟨shown, ?refused, ?unlisted, ?missing, ?mapped⟩
  case refused =>
    by_cases listed : grantsOf scheme.settings = []
    · exact ⟨fun _ => Or.inl listed, fun _ => ⟨_, by rw [if_pos listed]⟩⟩
    · rw [if_neg listed]
      cases (flowsOf scheme.settings).findSome? (missingFor scheme.settings) with
      | some key => exact ⟨fun _ => Or.inr (Option.some_ne_none key), fun _ => ⟨_, rfl⟩⟩
      | none =>
        constructor
        · rintro ⟨stop, stopped⟩
          cases stopped
        · exact fun h => absurd rfl (h.resolve_left listed)
  case unlisted =>
    intro none
    rw [if_pos none]
  case missing =>
    intro key missing
    have listed : grantsOf scheme.settings ≠ [] := by
      intro none
      rw [flowsOf, grantTexts, none] at missing
      cases missing
    rw [if_neg listed, missing]
    rfl
  case mapped =>
    intro definitions made
    rw [← texts.mapOAuth2_outcome] at made
    obtain ⟨mapped, rfl⟩ := mapOAuth2_eq_ok made
    have known := length_flows (newGrants (grantTexts scheme.settings))
    have new := length_newGrants (grantTexts scheme.settings)
    refine ⟨?_, ?_, mapOAuth2_warnings mapped, ?_⟩
    · simp only [flowEntries, flowKey, isSingle, beq_iff_eq]
    · exact nodup_names_flowEntries name scheme
    · rw [flowEntries, List.length_map, flowsOf]
      omega

/-- A scheme that lists one grant twice and one that is unknown. -/
def listingScheme (authorizationUri : Datum) : Raml.SecurityScheme :=
  ⟨some "OAuth 2.0", none, none,
    [("authorizationGrants", .list [.text "Code", .text "x", .text "TOKEN", .text "code"]),
      ("authorizationUri", authorizationUri), ("accessTokenUri", .text "t")]⟩

theorem hasTexts_listingScheme {uri : Datum} (shown : uri.plainText.isSome = true) :
    HasTexts (listingScheme uri).settings := by
  refine ⟨rfl, rfl, ?_⟩
  intro key hkey
  rcases List.mem_cons.mp hkey with rfl | later
  · exact shown
  · rw [List.mem_singleton.mp later]
    rfl

/-- Two of four grants are defined, and the other two are warned about; without the address of
the authorization the first of them stops the scheme. -/
theorem mapScheme_oauth2_listing :
    (∃ definitions, (mapScheme "o" (listingScheme (.text "'a'"))).outcome = .ok definitions ∧
      definitions = [
        ("o_accessCode", .oauth2 none .accessCode (some "a") (some "t") []),
        ("o_implicit", .oauth2 none .implicit (some "a") none [])] ∧
      (mapScheme "o" (listingScheme (.text "'a'"))).warnings =
        [.repeatedGrant "code" "o", .unknownGrant "x" "o"]) ∧
    (mapScheme "o" (listingScheme .null)).outcome =
      .error (.failure (.securityScheme "o" "missing 'authorizationUri' setting")) := by
  constructor
  · obtain ⟨_, _, _, _, mapped⟩ :=
      @mapScheme_oauth2 (listingScheme (.text "'a'")) "o" rfl (hasTexts_listingScheme rfl)
    have made : (mapScheme "o" (listingScheme (.text "'a'"))).outcome = .ok _ := rfl
    obtain ⟨listed, _, warned, _⟩ := mapped _ made
    exact ⟨_, made, listed.trans rfl, warned.trans rfl⟩
  · obtain ⟨_, _, _, stops, _⟩ :=
      @mapScheme_oauth2 (listingScheme .null) "o" rfl (hasTexts_listingScheme rfl)
    exact stops "authorizationUri" rfl

/-- A scheme whose only grant is an integer that is too long to be written. -/
def overlongScheme : Raml.SecurityScheme :=
  ⟨some "OAuth 2.0", none, none,
    [("authorizationGrants", .list [.scalar (.int Decimal.overlong)])]⟩

/-- It is read, and it lists a grant that is none of the known ones. Still it is neither defined nor
refused. -/
theorem mapScheme_overlongScheme :
    Raml.SecurityScheme.read (.map [(.text "type", .text "OAuth 2.0"), (.text "settings", .map
      [(.text "authorizationGrants", .list [.scalar (.int Decimal.overlong)])])]) =
        .accepted overlongScheme ∧
      (mapScheme "a" overlongScheme).outcome = .error .integerTooLong := by
  have unshown : haveTexts (grantsOf overlongScheme.settings) = false := by
    have grants : grantsOf overlongScheme.settings = [.scalar (.int Decimal.overlong)] := rfl
    have grant : (Datum.scalar (.int Decimal.overlong)).plainText = none :=
      Decimal.integerText?_overlong
    rw [grants, haveTexts, List.all_cons, grant]
    rfl
  refine ⟨rfl, ?_⟩
  rw [mapScheme_of_oauth2 "a" rfl, mapOAuth2_outcome, unshown]
  rfl

end Scheme

end RamlBridge.Conversion
