import RamlBridge.Proofs.Conversion.Offences

/-!
Which security schemes can be mapped: one of OAuth 2.0 has to list a grant, and to set what its
grants need. All that it lists, and what it sets, has to have a text.
-/
namespace RamlBridge.Conversion

def isSet (settings : Entries Datum) (key : String) : Bool :=
  match settings.find? key with
  | none | some (.scalar .null) => false
  | some _ => true

def haveTexts (ds : List Datum) : Bool :=
  ds.all fun d => d.plainText.isSome

def settingText? (settings : Entries Datum) (key : String) : Option String :=
  ((settings.find? key).getD .null).plainText

def settingOffences (name : String) (settings : Entries Datum) (key : String) : List Offence :=
  if isSet settings key then blameUnless (settingText? settings key).isSome (.number name)
  else [.scheme name]

/-- The offences of a grant, in whatever case: those of the settings that its flow needs. -/
def grantOffences (name : String) (settings : Entries Datum) (grant : String) : List Offence :=
  match grantFlow? (Text.lower grant) with
  | none => []
  | some f =>
    (if f.needsAuthorizationUri then settingOffences name settings "authorizationUri" else []) ++
      (if f.needsTokenUri then settingOffences name settings "accessTokenUri" else [])

/-- The offences of a scheme: an OAuth 2.0 one has to list a grant, its grants and its scopes need
texts, and so do the settings that the distinct ones of its grants need. -/
def schemeOffences (name : String) (scheme : Raml.SecurityScheme) : List Offence :=
  if scheme.type = some "OAuth 2.0" then
    match asList (scheme.settings.find? "authorizationGrants") with
    | [] => [.scheme name]
    | grants =>
      blameUnless (haveTexts grants) (.number name) ++
        (blameUnless (haveTexts (asList (scheme.settings.find? "scopes"))) (.number name) ++
          (distinctGrants name [] (leadingTexts grants)).1.flatMap
            (grantOffences name scheme.settings))
  else []

theorem texts_eq (ds : List Datum) :
    texts ds = if haveTexts ds then .ok (leadingTexts ds) else .error .integerTooLong := by
  have listed :
      ds.mapM Datum.plainText = if haveTexts ds then some (leadingTexts ds) else none := by
    induction ds with
    | nil => rfl
    | cons d rest ih =>
      rw [List.mapM_cons, haveTexts, List.all_cons, leadingTexts]
      cases d.plainText with
      | none => rfl
      | some t =>
        simp only [Option.isSome_some, Bool.true_and]
        rw [← haveTexts, ih]
        cases haveTexts rest <;> rfl
  rw [texts, listed]
  cases haveTexts ds <;> rfl

/-- Where all values have texts, these are all of their texts. -/
theorem mem_leadingTexts {ds : List Datum} (h : haveTexts ds = true) {t : String} :
    t ∈ leadingTexts ds ↔ ∃ d ∈ ds, d.plainText = some t := by
  induction ds with
  | nil => simp [leadingTexts]
  | cons d rest ih =>
    rw [haveTexts, List.all_cons, Bool.and_eq_true, ← haveTexts] at h
    obtain ⟨u, shown⟩ := Option.isSome_iff_exists.mp h.1
    rw [leadingTexts, shown]
    simp [ih h.2, shown, eq_comm]

theorem blames_texts (name : String) (ds : List Datum) :
    Blames TellsApart (texts ds) (blameUnless (haveTexts ds) (.number name)) := by
  rw [texts_eq]
  cases haveTexts ds with
  | true => exact .ok _
  | false => exact .error (.number name)

def missingSetting (name key : String) : Stop :=
  .failure (.securityScheme name ("missing '" ++ key ++ "' setting"))

theorem setting_eq (name : String) (settings : Entries Datum) (key : String) :
    setting name settings key =
      if isSet settings key then
        match settingText? settings key with
        | some t => .ok (Text.unquoted t)
        | none => .error .integerTooLong
      else .error (missingSetting name key) := by
  unfold setting isSet settingText?
  rcases settings.find? key with _ | d
  · rfl
  · cases d with
    | scalar s => cases s <;> rfl
    | _ => rfl

theorem blames_setting (name : String) (settings : Entries Datum) (key : String) :
    Blames TellsApart (setting name settings key) (settingOffences name settings key) := by
  rw [setting_eq, settingOffences]
  cases isSet settings key with
  | false => exact .error (.scheme name _)
  | true =>
    cases settingText? settings key with
    | some t => exact .ok _
    | none => exact .error (.number name)

theorem blames_settingIf (needed : Bool) (name : String) (settings : Entries Datum) (key : String) :
    Blames TellsApart (settingIf needed name settings key)
      (if needed then settingOffences name settings key else []) := by
  cases needed with
  | false => exact .ok none
  | true => exact (blames_setting name settings key).map some

theorem blames_grantDefinition {name grant : String} {scheme : Raml.SecurityScheme}
    {f : GrantFlow} (flow : grantFlow? (Text.lower grant) = some f) (scopes : Entries String) :
    Blames TellsApart (grantDefinition name scheme scopes f)
      (grantOffences name scheme.settings grant) := by
  rw [grantOffences, flow]
  refine (blames_settingIf _ name scheme.settings _).bind fun authorizationUri _ => ?_
  rw [← List.append_nil (if f.needsTokenUri then _ else _)]
  exact (blames_settingIf _ name scheme.settings _).bind fun tokenUri _ => .ok _

/-- The grants of a scheme stop at the first that needs what is not set. -/
theorem blames_grantDefinitions (name : String) (scheme : Raml.SecurityScheme)
    (scopes : Entries String) (single : Bool) (definitions : Entries Swagger.SecurityDefinition)
    (grants : List String) :
    Blames TellsApart (grantDefinitions name scheme scopes single definitions grants).outcome
      (grants.flatMap (grantOffences name scheme.settings)) := by
  induction grants generalizing definitions with
  | nil => exact .ok definitions
  | cons grant rest ih =>
    rw [List.flatMap_cons]
    cases flow : grantFlow? (Text.lower grant) with
    | none =>
      have nothing : grantOffences name scheme.settings grant = [] := by
        rw [grantOffences, flow]
      simp only [grantDefinitions, flow, Report.outcome_bind, Report.outcome_warnIf, ok_bind,
        nothing, List.nil_append]
      exact ih definitions
    | some f =>
      simp only [grantDefinitions, flow, Report.outcome_bind, Report.outcome_ofExcept]
      exact (blames_grantDefinition flow scopes).bind fun definition _ => ih _

/-- A grant that is dropped has the name of one that is kept. -/
theorem forall_distinctGrants (scheme : String) (good : String → Prop) {seen : List String}
    (hseen : ∀ g ∈ seen, good g) (grants : List String) :
    (∀ g ∈ (distinctGrants scheme seen grants).1, good (Text.lower g)) ↔
      ∀ g ∈ grants, good (Text.lower g) := by
  induction grants generalizing seen with
  | nil => rfl
  | cons grant rest ih =>
    by_cases known : Text.lower grant ∈ seen
    · simp only [distinctGrants, if_pos known, List.forall_mem_cons, ih hseen, hseen _ known,
        true_and]
    · simp only [distinctGrants, if_neg known, List.forall_mem_cons]
      refine and_congr_right fun first => ih ?_
      exact List.forall_mem_cons.mpr ⟨first, hseen⟩

theorem blames_mapOAuth2 {name : String} {scheme : Raml.SecurityScheme}
    (oauth2 : scheme.type = some "OAuth 2.0") :
    Blames TellsApart (mapOAuth2 name scheme).outcome (schemeOffences name scheme) := by
  rw [schemeOffences, if_pos oauth2, mapOAuth2]
  cases asList (scheme.settings.find? "authorizationGrants") with
  | nil => exact .error (.scheme name _)
  | cons grant rest =>
    simp only [Report.outcome_bind, Report.outcome_ofExcept, ok_bind]
    refine (blames_texts name _).bind fun _ _ => ?_
    refine ((blames_texts name _).map _).bind fun scopes _ => ?_
    exact blames_grantDefinitions name scheme scopes _ [] _

theorem blames_mapScheme (name : String) (scheme : Raml.SecurityScheme) :
    Blames TellsApart (mapScheme name scheme).outcome (schemeOffences name scheme) := by
  unfold mapScheme
  by_cases basic : scheme.type = some "Basic Authentication"
  · have other : schemeOffences name scheme = [] := by
      rw [schemeOffences, if_neg (by rw [basic]; decide)]
    rw [if_pos basic, other]
    exact .ok _
  · by_cases oauth2 : scheme.type = some "OAuth 2.0"
    · rw [if_neg basic, if_pos oauth2]
      exact blames_mapOAuth2 oauth2
    · rw [if_neg basic, if_neg oauth2, schemeOffences, if_neg oauth2]
      exact .ok []

theorem mapEachScheme_outcome (definitions : Entries Swagger.SecurityDefinition)
    (schemes : List (String × Raml.SecurityScheme)) :
    (mapEachScheme definitions schemes).outcome =
      (schemes.mapM fun p => (mapScheme p.1 p.2).outcome).map fun made =>
        made.foldl Entries.putAll definitions := by
  induction schemes generalizing definitions with
  | nil => rfl
  | cons p rest ih =>
    obtain ⟨name, scheme⟩ := p
    rw [mapM_cons_eq]
    simp only [mapEachScheme, Report.outcome_bind, ih]
    cases (mapScheme name scheme).outcome with
    | error s => rfl
    | ok more =>
      simp only [ok_bind]
      cases rest.mapM fun p => (mapScheme p.1 p.2).outcome <;> rfl

theorem blames_mapSchemes (schemes : List (Entries Raml.SecurityScheme)) :
    Blames TellsApart (mapSchemes schemes).outcome
      (schemes.flatten.flatMap fun p => schemeOffences p.1 p.2) := by
  rw [mapSchemes, mapEachScheme_outcome]
  exact (Blames.mapM fun p _ => blames_mapScheme p.1 p.2).map _

end RamlBridge.Conversion
