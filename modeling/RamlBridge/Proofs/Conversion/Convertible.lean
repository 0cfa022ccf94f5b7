import RamlBridge.Proofs.Conversion.FixedBaseUri
import RamlBridge.Proofs.Conversion.Grants
import RamlBridge.Proofs.Conversion.Listing
import RamlBridge.Proofs.Json.RoundTrip
import RamlBridge.Raml.Document

/-!
Which descriptions can be converted, and at what the conversion of any other one stops.
-/
namespace RamlBridge.Conversion

open Raml (places)

/-- The offences of a description in the order in which they are found: those of the declared
schemas, of the resources, and of the security schemes. -/
def offences (root : Raml.Root) : List Offence :=
  root.schemas.flatten.flatMap (fun p => textOffences p.2) ++
    (forestOffences (Entries.names root.schemas.flatten) root.resources ++
      root.securitySchemes.flatten.flatMap fun p => schemeOffences p.1 p.2)

/-- The first schema among bodies, if there is one, is declared or is the text of an object. -/
def Usable (declared : List String) (bodies : Entries Raml.Body) : Prop :=
  ∀ text, IsFirstSchema bodies text →
    text ∈ declared ∨ ∃ members, Json.parse text = .ok (.object members)

/-- The settings of an OAuth 2.0 scheme list a grant, and set the addresses that any of the grants
needs, in whatever case it is written, to something that is not null. -/
structure Granted (settings : Entries Datum) : Prop where
  lists : grantsOf settings ≠ []
  authorization : ∀ d ∈ grantsOf settings, ∀ grant, d.plainText = some grant →
    Text.lower grant ∈ ["code", "token"] →
      ∃ uri, settings.find? "authorizationUri" = some uri ∧ uri ≠ .null
  token : ∀ d ∈ grantsOf settings, ∀ grant, d.plainText = some grant →
    Text.lower grant ∈ ["code", "owner", "credentials"] →
      ∃ uri, settings.find? "accessTokenUri" = some uri ∧ uri ≠ .null

/-- A description can be converted: every declared schema is an object, every schema in use is an
object or a declared name, and every OAuth 2.0 scheme has what its grants need. -/
structure Convertible (root : Raml.Root) : Prop where
  declared : ∀ p ∈ root.schemas.flatten, ∃ members, Json.parse p.2 = .ok (.object members)
  request : ∀ keys r, Raml.Leads root.resources keys r → ∀ a ∈ r.actions,
    Usable (Entries.names root.schemas.flatten) a.2.bodies
  responses : ∀ keys r, Raml.Leads root.resources keys r → ∀ a ∈ r.actions, ∀ q ∈ a.2.responses,
    Usable (Entries.names root.schemas.flatten) q.2.bodies
  granted : ∀ p ∈ root.securitySchemes.flatten, p.2.type = some "OAuth 2.0" →
    Granted p.2.settings

section NoOffences

theorem textOffences_eq_nil {text : String} :
    textOffences text = [] ↔ ∃ members, Json.parse text = .ok (.object members) := by
  rw [textOffences, blameUnless_eq_nil, isObject_iff]

theorem bodyOffences_eq_nil {declared : List String} {bodies : Entries Raml.Body} :
    bodyOffences declared bodies = [] ↔ Usable declared bodies := by
  simp only [bodyOffences, Usable, ← firstSchema_eq_some_iff]
  cases Registry.firstSchema bodies with
  | none => exact ⟨fun _ _ nothing => (Option.some_ne_none _ nothing.symm).elim, fun _ => rfl⟩
  | some text =>
    by_cases h : text ∈ declared
    · simp only [if_pos h, true_iff]
      rintro _ ⟨⟩
      exact Or.inl h
    · simp only [if_neg h, textOffences_eq_nil]
      constructor
      · rintro object _ ⟨⟩
        exact Or.inr object
      · intro usable
        exact (usable text rfl).resolve_left h

theorem actionOffences_eq_nil {declared : List String} {action : Raml.Action} :
    actionOffences declared action = [] ↔ Usable declared action.bodies ∧
      ∀ q ∈ action.responses, Usable declared q.2.bodies := by
  simp only [actionOffences, List.append_eq_nil_iff, List.flatMap_eq_nil_iff, bodyOffences_eq_nil]

theorem forestOffences_eq_nil {declared : List String}
    {forest : List (String × Raml.Resource)} :
    forestOffences declared forest = [] ↔
      ∀ keys r, Raml.Leads forest keys r → ∀ a ∈ r.actions, actionOffences declared a.2 = [] := by
  simp only [forestOffences, List.flatMap_eq_nil_iff]
  constructor
  · intro nowhere keys r leads
    obtain ⟨p, hp, _, rfl⟩ := Raml.mem_places_of_leads leads
    exact nowhere p hp
  · intro nowhere p hp
    exact nowhere p.keys p.resource (Raml.leads_of_mem_places hp)

theorem isSet_iff {settings : Entries Datum} {key : String} :
    isSet settings key = true ↔ ∃ d, settings.find? key = some d ∧ d ≠ .null := by
  unfold isSet
  constructor
  · intro h
    split at h
    · cases h
    · cases h
    · next d given found => exact ⟨d, found, given⟩
  · rintro ⟨d, found, given⟩
    rw [found]
    cases d with
    | scalar s =>
      cases s with
      | null => exact absurd rfl given
      | _ => rfl
    | _ => rfl

theorem needs_of_grantFlow? {grant : String} {f : GrantFlow} (flow : grantFlow? grant = some f) :
    (f.needsAuthorizationUri = true ↔ grant ∈ ["code", "token"]) ∧
      (f.needsTokenUri = true ↔ grant ∈ ["code", "owner", "credentials"]) := by
  unfold grantFlow? at flow
  split at flow <;> cases flow <;> decide

theorem unneeded_of_grantFlow? {grant : String} (unknown : grantFlow? grant = none) :
    grant ∉ ["code", "token"] ∧ grant ∉ ["code", "owner", "credentials"] := by
  unfold grantFlow? at unknown
  split at unknown <;> cases unknown
  next code token owner credentials =>
    simp only [List.mem_cons, List.not_mem_nil, or_false, not_or]
    exact ⟨⟨code, token⟩, code, owner, credentials⟩

structure MeetsGrant (settings : Entries Datum) (grant : String) : Prop where
  authorization : grant ∈ ["code", "token"] → isSet settings "authorizationUri" = true
  token : grant ∈ ["code", "owner", "credentials"] → isSet settings "accessTokenUri" = true

section Texts

variable {name : String} {settings : Entries Datum} (texts : HasTexts settings)

include texts

theorem settingOffences_of_texts {key : String}
    (known : key ∈ ["authorizationUri", "accessTokenUri"]) :
    settingOffences name settings key = blameUnless (isSet settings key) (.scheme name) := by
  rw [settingOffences, texts.setting key known]
  rfl

theorem grantOffences_eq_nil {grant : String} :
    grantOffences name settings grant = [] ↔ MeetsGrant settings (Text.lower grant) := by
  have ifNeeded (needed : Bool) (key : String)
      (known : key ∈ ["authorizationUri", "accessTokenUri"]) :
      (if needed then settingOffences name settings key else []) = [] ↔
        (needed = true → isSet settings key = true) := by
    cases needed with
    | false => exact ⟨fun _ => nofun, fun _ => rfl⟩
    | true =>
      rw [if_pos rfl, settingOffences_of_texts texts known, blameUnless_eq_nil]
      exact ⟨fun h _ => h, fun h => h rfl⟩
  cases flow : grantFlow? (Text.lower grant) with
  | none =>
    obtain ⟨authorization, token⟩ := unneeded_of_grantFlow? flow
    rw [grantOffences, flow]
    exact ⟨fun _ => ⟨fun h => absurd h authorization, fun h => absurd h token⟩, fun _ => rfl⟩
  | some f =>
    obtain ⟨authorization, token⟩ := needs_of_grantFlow? flow
    rw [grantOffences, flow]
    simp only [List.append_eq_nil_iff]
    rw [ifNeeded _ _ (by decide), ifNeeded _ _ (by decide), authorization, token]
    exact ⟨fun h => ⟨h.1, h.2⟩, fun h => ⟨h.authorization, h.token⟩⟩

theorem granted_iff : Granted settings ↔ grantsOf settings ≠ [] ∧
    ∀ grant ∈ grantTexts settings, MeetsGrant settings (Text.lower grant) := by
  have listed (grant : String) := mem_leadingTexts (t := grant) texts.grants
  simp only [grantTexts, listed]
  constructor
  · intro granted
    refine ⟨granted.lists, ?_⟩
    rintro grant ⟨d, hd, shown⟩
    exact ⟨fun needed => isSet_iff.mpr (granted.authorization d hd grant shown needed),
      fun needed => isSet_iff.mpr (granted.token d hd grant shown needed)⟩
  · rintro ⟨lists, meets⟩
    exact ⟨lists,
      fun d hd grant shown needed =>
        isSet_iff.mp ((meets grant ⟨d, hd, shown⟩).authorization needed),
      fun d hd grant shown needed => isSet_iff.mp ((meets grant ⟨d, hd, shown⟩).token needed)⟩

end Texts

section Schemes

variable {name : String} {scheme : Raml.SecurityScheme} (texts : HasTexts scheme.settings)

include texts

theorem schemeOffences_of_texts (oauth2 : scheme.type = some "OAuth 2.0") :
    schemeOffences name scheme =
      if grantsOf scheme.settings = [] then [.scheme name]
      else (distinctGrants name [] (grantTexts scheme.settings)).1.flatMap
        (grantOffences name scheme.settings) := by
  rw [schemeOffences, if_pos oauth2, grantTexts]
  have grants := texts.grants
  rw [grantsOf] at grants ⊢
  split
  · next none => rw [if_pos none]
  · next listed =>
    rw [if_neg listed, grants, texts.scopes]
    rfl

theorem schemeOffences_eq_nil :
    schemeOffences name scheme = [] ↔
      (scheme.type = some "OAuth 2.0" → Granted scheme.settings) := by
  by_cases oauth2 : scheme.type = some "OAuth 2.0"
  · have each := forall_distinctGrants name (MeetsGrant scheme.settings)
      (fun g hg => absurd hg List.not_mem_nil) (grantTexts scheme.settings)
    rw [schemeOffences_of_texts texts oauth2, granted_iff texts, ← each]
    by_cases listed : grantsOf scheme.settings = []
    · rw [if_pos listed]
      exact ⟨nofun, fun h => absurd listed (h oauth2).1⟩
    · simp only [if_neg listed, List.flatMap_eq_nil_iff, grantOffences_eq_nil texts]
      exact ⟨fun h _ => ⟨listed, h⟩, fun h => (h oauth2).2⟩
  · rw [schemeOffences, if_neg oauth2]
    exact ⟨fun _ h => absurd h oauth2, fun _ => rfl⟩

/-- No scheme whose settings have texts stops at an integer. -/
theorem eq_scheme_of_mem_schemeOffences {offence : Offence}
    (h : offence ∈ schemeOffences name scheme) : offence = .scheme name := by
  have ofSetting {needed : Bool} {key : String}
      (known : key ∈ ["authorizationUri", "accessTokenUri"])
      (h : offence ∈ if needed then settingOffences name scheme.settings key else []) :
      offence = .scheme name := by
    rw [settingOffences_of_texts texts known] at h
    unfold blameUnless at h
    split at h
    · split at h
      · cases h
      · exact List.mem_singleton.mp h
    · cases h
  by_cases oauth2 : scheme.type = some "OAuth 2.0"
  · rw [schemeOffences_of_texts texts oauth2] at h
    split at h
    · exact List.mem_singleton.mp h
    · obtain ⟨grant, _, h⟩ := List.mem_flatMap.mp h
      unfold grantOffences at h
      split at h
      · cases h
      · rcases List.mem_append.mp h with first | second
        · exact ofSetting (by decide) first
        · exact ofSetting (by decide) second
  · rw [schemeOffences, if_neg oauth2] at h
    cases h

end Schemes

theorem plain_asList {setting : Option Datum} (plain : ∀ d ∈ setting, d.IsPlain) :
    ∀ d ∈ asList setting, d.IsPlain := by
  intro d hd
  unfold asList at hd
  split at hd
  · cases hd
  · cases hd
  · exact (plain _ rfl).item d hd
  · obtain ⟨first, second⟩ := (plain _ rfl).parts
    rcases List.mem_cons.mp hd with rfl | later
    · exact first
    · exact List.mem_singleton.mp later ▸ second
  · exact List.mem_singleton.mp hd ▸ plain _ rfl

/-- Plain settings have texts. -/
theorem hasTexts_of_plain {settings : Entries Datum} (plain : ∀ s ∈ settings, s.2.IsPlain) :
    HasTexts settings := by
  have found (key : String) : ∀ d ∈ settings.find? key, d.IsPlain :=
    fun d hd => plain _ (Entries.mem_of_find? hd)
  have listed (key : String) : haveTexts (asList (settings.find? key)) = true :=
    List.all_eq_true.mpr fun d hd =>
      Option.isSome_iff_exists.mpr (plain_asList (found key) d hd).plainText
  refine ⟨listed _, listed _, fun key _ => ?_⟩
  rw [settingText?]
  cases given : settings.find? key with
  | none => rfl
  | some d => exact Option.isSome_iff_exists.mpr (found key d given).plainText

/-- A description has no offence if there is none among its schemas and none in a scheme. -/
theorem offences_eq_nil_iff {root : Raml.Root} : offences root = [] ↔
    (∀ p ∈ root.schemas.flatten, ∃ members, Json.parse p.2 = .ok (.object members)) ∧
    (∀ keys r, Raml.Leads root.resources keys r → ∀ a ∈ r.actions,
      Usable (Entries.names root.schemas.flatten) a.2.bodies ∧
      ∀ q ∈ a.2.responses, Usable (Entries.names root.schemas.flatten) q.2.bodies) ∧
    ∀ p ∈ root.securitySchemes.flatten, schemeOffences p.1 p.2 = [] := by
  simp only [offences, List.append_eq_nil_iff, List.flatMap_eq_nil_iff, textOffences_eq_nil,
    forestOffences_eq_nil, actionOffences_eq_nil]

section Plain

variable {root : Raml.Root} (plain : root.IsPlain)

include plain

theorem hasTexts_of_isPlain {p : String × Raml.SecurityScheme}
    (hp : p ∈ root.securitySchemes.flatten) : HasTexts p.2.settings :=
  hasTexts_of_plain (plain.settings p hp)

/-- No plain description stops at an integer that is too long to be written. -/
theorem offences_of_isPlain {name : String} : Offence.number name ∉ offences root := by
  have ofText (text : String) : Offence.number name ∉ textOffences text := by
    unfold textOffences blameUnless
    split <;> simp
  have ofBodies (declared : List String) (bodies : Entries Raml.Body) :
      Offence.number name ∉ bodyOffences declared bodies := by
    unfold bodyOffences
    split
    · exact List.not_mem_nil
    · split
      · exact List.not_mem_nil
      · exact ofText _
  simp only [offences, forestOffences, actionOffences, List.mem_append, List.mem_flatMap]
  rintro (⟨p, _, h⟩ | ⟨p, _, a, _, h | ⟨r, _, h⟩⟩ | ⟨p, hp, h⟩)
  · exact ofText _ h
  · exact ofBodies _ _ h
  · exact ofBodies _ _ h
  · cases eq_scheme_of_mem_schemeOffences (hasTexts_of_isPlain plain hp) h

theorem offences_eq_nil : offences root = [] ↔ Convertible root := by
  have granted : (∀ p ∈ root.securitySchemes.flatten, schemeOffences p.1 p.2 = []) ↔
      ∀ p ∈ root.securitySchemes.flatten, p.2.type = some "OAuth 2.0" → Granted p.2.settings :=
    forall₂_congr fun p hp => schemeOffences_eq_nil (hasTexts_of_isPlain plain hp)
  rw [offences_eq_nil_iff, granted]
  constructor
  · rintro ⟨declared, used, granted⟩
    exact ⟨declared, fun keys r leads a ha => (used keys r leads a ha).1,
      fun keys r leads a ha => (used keys r leads a ha).2, granted⟩
  · intro h
    exact ⟨h.declared, fun keys r leads a ha =>
      ⟨h.request keys r leads a ha, h.responses keys r leads a ha⟩, h.granted⟩

end Plain

end NoOffences

theorem Tells.told {s : Stop} {offence : Offence} (h : Tells s offence) : s.told = s := by
  cases h <;> rfl

/-- The parts of a document are made one after the other, so that their offences come in the same
order. -/
theorem blames_assemble (root : Raml.Root) :
    Blames TellsApart (assemble root).outcome (offences root) := by
  obtain ⟨baseUri, hbaseUri⟩ := parseBaseUri_outcome root.baseUri
  rw [assemble_outcome, hbaseUri, ok_bind]
  refine (blames_registerAll root.schemas).bind fun registry hregistry => ?_
  have known := Registry.contains_registerAll hregistry
  refine (blames_mapPaths known _ _ root.resources).bind fun paths _ => ?_
  rw [← List.append_nil (List.flatMap _ _)]
  exact (blames_mapSchemes root.securitySchemes).bind fun definitions _ => .ok _

theorem blames_document (root : Raml.Root) :
    Blames TellsApart (document root).outcome (offences root) := by
  have assembled := blames_assemble root
  rw [document, Report.outcome_told]
  cases h : offences root with
  | nil =>
    rw [h] at assembled
    obtain ⟨swagger, made⟩ := assembled
    rw [made]
    exact .ok swagger
  | cons offence rest =>
    rw [h] at assembled
    obtain ⟨s, stopped, tells⟩ := assembled
    rw [stopped]
    exact ⟨s, congrArg Except.error tells.tells.told, tells⟩

theorem blames_convert {root : Raml.Root} (plain : root.IsPlain) (listable : root.IsListable)
    (indent : Option Int) : Blames Tells (convert root indent).outcome (offences root) := by
  rw [convert, Report.outcome_bind, ← List.append_nil (offences root)]
  refine ((blames_document root).imp fun _ _ h => h.tells).bind fun swagger made => ?_
  rw [documentText_of_isWritable (isWritable_document plain listable made)]
  exact .ok _

/-- A description of plain values that can be listed has a text, whatever the indentation, if and
only if it can be converted. The conversion of any other one stops at its first offence, which is a
schema or a security scheme. -/
theorem convert_iff_convertible {root : Raml.Root} (plain : root.IsPlain)
    (listable : root.IsListable) (indent : Option Int) :
    ((∃ text, (convert root indent).outcome = .ok text) ↔ Convertible root) ∧
      (¬ Convertible root → ∃ offence rest stop, offences root = offence :: rest ∧
        (convert root indent).outcome = .error stop ∧ Tells stop offence ∧
          ∀ name, offence ≠ .number name) := by
  have blames := blames_convert plain listable indent
  rw [← offences_eq_nil plain]
  cases h : offences root with
  | nil =>
    rw [h] at blames
    exact ⟨⟨fun _ => rfl, fun _ => blames⟩, fun offended => absurd rfl offended⟩
  | cons offence rest =>
    rw [h] at blames
    obtain ⟨stop, stopped, tells⟩ := blames
    refine ⟨⟨?_, fun none => (List.cons_ne_nil _ _ none).elim⟩,
      fun _ => ⟨offence, rest, stop, rfl, stopped, tells, ?_⟩⟩
    · rintro ⟨text, converted⟩
      rw [stopped] at converted
      cases converted
    · rintro name rfl
      exact offences_of_isPlain plain (h ▸ List.mem_cons_self)

/-- A resource whose response has a schema that is no object. -/
def innerOffender : Raml.Resource :=
  ⟨none, none, [], [("get", ⟨none, [], [], [("text/json", ⟨some "Pet", .null⟩)],
    [("200", ⟨none, [("text/json", ⟨some "x", .null⟩)]⟩)]⟩)], []⟩

def laterOffender : Raml.Resource :=
  ⟨none, none, [], [("put", ⟨none, [], [], [("text/json", ⟨some "[]", .null⟩)], []⟩)], []⟩

/-- A resource that declares a parameter, with an offender below it. -/
def harmlessResource : Raml.Resource :=
  ⟨none, none, [("id", .plain true)], [], [("/b", innerOffender)]⟩

/-- Schemas that are no objects in two resources, and a security scheme without a grant. -/
def offendingRoot : Raml.Root :=
  ⟨"", none, none, [], none, [], [], [[("Pet", "\x7b\x7d")]],
    [[("o", ⟨some "OAuth 2.0", none, none, []⟩)]],
    [("/a", harmlessResource), ("/c", laterOffender)]⟩

theorem resource_of_leads_offendingRoot {keys : List String} {r : Raml.Resource}
    (h : Raml.Leads offendingRoot.resources keys r) :
    r = harmlessResource ∨ r = innerOffender ∨ r = laterOffender := by
  obtain ⟨p, hp, _, rfl⟩ := Raml.mem_places_of_leads h
  have three : p ∈ [⟨[], "/a", harmlessResource⟩, ⟨[("/a", harmlessResource)], "/b", innerOffender⟩,
      ⟨[], "/c", laterOffender⟩] := hp
  simp only [List.mem_cons, List.not_mem_nil, or_false] at three
  rcases three with rfl | rfl | rfl
  · exact Or.inl rfl
  · exact Or.inr (Or.inl rfl)
  · exact Or.inr (Or.inr rfl)

theorem everyParameter_offendingRoot {P : Raml.Parameter → Prop} (unsaid : P (.plain true)) :
    offendingRoot.EveryParameter P := by
  have bare : ∀ keys r, Raml.Leads offendingRoot.resources keys r → ∀ a ∈ r.actions,
      a.2.headers = [] ∧ a.2.queryParameters = [] := by
    intro keys r leads a ha
    rcases resource_of_leads_offendingRoot leads with rfl | rfl | rfl
    · exact absurd ha List.not_mem_nil
    · cases List.mem_singleton.mp ha
      exact ⟨rfl, rfl⟩
    · cases List.mem_singleton.mp ha
      exact ⟨rfl, rfl⟩
  refine ⟨fun p hp => absurd hp List.not_mem_nil, ?_, ?_, ?_⟩
  · intro keys r leads p hp
    rcases resource_of_leads_offendingRoot leads with rfl | rfl | rfl
    · rwa [List.mem_singleton.mp hp]
    · exact absurd hp List.not_mem_nil
    · exact absurd hp List.not_mem_nil
  · intro keys r leads a ha p hp
    rw [(bare keys r leads a ha).1] at hp
    exact absurd hp List.not_mem_nil
  · intro keys r leads a ha p hp
    rw [(bare keys r leads a ha).2] at hp
    exact absurd hp List.not_mem_nil

theorem isPlain_offendingRoot : offendingRoot.IsPlain where
  parameters := everyParameter_offendingRoot (Raml.Parameter.isPlain_plain true)
  settings := by
    intro p hp s hs
    rw [List.mem_singleton.mp hp] at hs
    exact absurd hs List.not_mem_nil

theorem isListable_offendingRoot : offendingRoot.IsListable where
  parameters := everyParameter_offendingRoot rfl
  declared := by
    intro p hp members parsed
    rw [List.mem_singleton.mp hp] at parsed
    cases parsed
    rfl
  used := by
    intro keys r leads a ha text htext members parsed
    have known : text ∈ ["Pet", "x", "[]"] := by
      rcases resource_of_leads_offendingRoot leads with rfl | rfl | rfl
      · exact absurd ha List.not_mem_nil
      · rw [List.mem_singleton.mp ha] at htext
        exact List.mem_append_left ["[]"] htext
      · rw [List.mem_singleton.mp ha] at htext
        exact List.mem_append_right ["Pet", "x"] htext
    simp only [List.mem_cons, List.not_mem_nil, or_false] at known
    rcases known with rfl | rfl | rfl <;> cases parsed

/-- The conversion stops at the first offence in the order of the resources, not at a later one. -/
theorem convert_iff_convertible_offending :
    ∃ stop, (convert offendingRoot (some 2)).outcome = .error stop ∧ Tells stop (.schema "x") := by
  have found : offences offendingRoot = [.schema "x", .schema "[]", .scheme "o"] := rfl
  have offended : ¬ Convertible offendingRoot := by
    rw [← offences_eq_nil isPlain_offendingRoot, found]
    exact List.cons_ne_nil _ _
  obtain ⟨offence, rest, stop, first, stopped, tells, _⟩ :=
    (convert_iff_convertible isPlain_offendingRoot isListable_offendingRoot (some 2)).2 offended
  rw [found] at first
  cases first
  exact ⟨stop, stopped, tells⟩

/-- A schema with a name that cannot be encoded, one level down. -/
def innerHalf : String :=
  "\x7b\"a\": \x7b\"\\ud800\": true\x7d\x7d"

def innerHalfMembers : Entries Json :=
  [("a", .object [(String.ofList [Text.ofCode 0xd800], .bool true)])]

theorem parse_innerHalf : Json.parse innerHalf = .ok (.object innerHalfMembers) := by
  have same : innerHalf = (Json.object innerHalfMembers).written .asciiLine := by decide +kernel
  have faithful : (Json.object innerHalfMembers).Faithful := .single (.single ⟨trivial, trivial⟩)
  have apart : (Json.object innerHalfMembers).Everywhere Json.IsApart := by
    refine Json.apart_single ?_ (Json.apart_single ?_ trivial)
    · exact Json.halvesApart_of_holdsHalf (by decide)
    · rw [String.toList_ofList]
      trivial
  rw [same]
  exact Json.parse_written_ascii faithful apart

/-- A description that declares it is plain, and there is no offence in it. Still the conversion
comes to no text, nor is it told with a failure. -/
theorem convert_innerHalf :
    Raml.Root.read (declaring (.text innerHalf)) = .accepted (declaringRoot innerHalf) ∧
      (declaringRoot innerHalf).IsPlain ∧ Convertible (declaringRoot innerHalf) ∧
      (convert (declaringRoot innerHalf) none).outcome = .error (.unlisted .unencodable) := by
  have nowhere : ∀ keys r, ¬ Raml.Leads (declaringRoot innerHalf).resources keys r := by
    intro keys r leads
    obtain ⟨p, hp, _⟩ := Raml.mem_places_of_leads leads
    exact absurd hp List.not_mem_nil
  have fault : (definingX innerHalfMembers).listingFault? = some .unencodable := by
    decide +kernel
  refine ⟨rfl, ⟨⟨fun p hp => absurd hp List.not_mem_nil, ?_, ?_, ?_⟩, ?_⟩, ⟨?_, ?_, ?_, ?_⟩, ?_⟩
  · exact fun keys r leads => absurd leads (nowhere keys r)
  · exact fun keys r leads => absurd leads (nowhere keys r)
  · exact fun keys r leads => absurd leads (nowhere keys r)
  · exact fun p hp => absurd hp List.not_mem_nil
  · intro p hp
    rw [List.mem_singleton.mp hp]
    exact ⟨_, parse_innerHalf⟩
  · exact fun keys r leads => absurd leads (nowhere keys r)
  · exact fun keys r leads => absurd leads (nowhere keys r)
  · exact fun p hp => absurd hp List.not_mem_nil
  · rw [convert, Report.outcome_bind,
      document_declaringRoot (parseSchema_eq_ok.mpr parse_innerHalf), ok_bind, documentText,
      Swagger.Document.listing, fault]
    rfl

end RamlBridge.Conversion
