import RamlBridge.Conversion.Security
import RamlBridge.Proofs.Conversion.Document
import RamlBridge.Proofs.Conversion.Operations
import RamlBridge.Proofs.Conversion.Paths
import RamlBridge.Proofs.Conversion.Registry

/-!
What keeps a description from being converted. Every part of the conversion stops at the first
offence in its part of the description, and if there is none it comes to an end.
-/
namespace RamlBridge.Conversion

open Raml (places)

/-- A schema text that is no object, an OAuth 2.0 scheme without the settings that it needs, or one
with an integer that is too long to be written where a text is needed. -/
inductive Offence where
  | schema (text : String)
  | scheme (name : String)
  | number (scheme : String)
deriving DecidableEq, Repr

/-- How a conversion stops at an offence: with the failure that holds the text or the name. A text
with an integer that is too long to be read is no object either, but stops without a failure, and
so does a scheme with one that is too long to be written. -/
inductive Tells : Stop → Offence → Prop
  | schema (text : String) (cause : Cause) :
      Tells (.failure (.malformedSchema text (some cause))) (.schema text)
  | integerTooLong {text : String} {remaining : Nat} :
      Json.parse text = .error ⟨.integerTooLong, remaining⟩ → Tells .integerTooLong (.schema text)
  | scheme (name reason : String) :
      Tells (.failure (.securityScheme name reason)) (.scheme name)
  | number (name : String) : Tells .integerTooLong (.number name)

def IsTooLong (text : String) : Prop :=
  ∃ remaining, Json.parse text = .error ⟨.integerTooLong, remaining⟩

/-- A stop tells an offence, and a text with an integer that is too long by nothing else. -/
structure TellsApart (s : Stop) (offence : Offence) : Prop where
  tells : Tells s offence
  tooLong : ∀ text, offence = .schema text → IsTooLong text → s = .integerTooLong

namespace TellsApart

theorem schema {text : String} (readable : ¬ IsTooLong text) (cause : Cause) :
    TellsApart (.failure (.malformedSchema text (some cause))) (.schema text) := by
  refine ⟨.schema text cause, ?_⟩
  rintro _ ⟨⟩ tooLong
  exact absurd tooLong readable

theorem integerTooLong {text : String} {remaining : Nat}
    (failed : Json.parse text = .error ⟨.integerTooLong, remaining⟩) :
    TellsApart .integerTooLong (.schema text) :=
  ⟨.integerTooLong failed, fun _ _ _ => rfl⟩

theorem scheme (name reason : String) :
    TellsApart (.failure (.securityScheme name reason)) (.scheme name) := by
  refine ⟨.scheme name reason, ?_⟩
  rintro _ ⟨⟩

theorem number (name : String) : TellsApart .integerTooLong (.number name) :=
  ⟨.number name, fun _ _ _ => rfl⟩

end TellsApart

/-- An outcome stops at the first of the offences, and is no stop if there are none. -/
def Blames {α : Type} (tells : Stop → Offence → Prop) (outcome : Except Stop α) :
    List Offence → Prop
  | [] => ∃ a, outcome = .ok a
  | offence :: _ => ∃ s, outcome = .error s ∧ tells s offence

namespace Blames

variable {α β : Type} {tells : Stop → Offence → Prop}

theorem ok (a : α) : Blames tells (.ok a) [] := ⟨a, rfl⟩

theorem error {s : Stop} {offence : Offence} (h : tells s offence) :
    Blames tells (.error s : Except Stop α) [offence] := ⟨s, rfl, h⟩

theorem eq_nil {a : α} {offences : List Offence} (h : Blames tells (.ok a) offences) :
    offences = [] := by
  cases offences with
  | nil => rfl
  | cons offence rest =>
    obtain ⟨s, stopped, _⟩ := h
    cases stopped

theorem imp {other : Stop → Offence → Prop} (step : ∀ s offence, tells s offence → other s offence)
    {outcome : Except Stop α} {offences : List Offence} (h : Blames tells outcome offences) :
    Blames other outcome offences := by
  cases offences with
  | nil => exact h
  | cons offence rest =>
    obtain ⟨s, stopped, told⟩ := h
    exact ⟨s, stopped, step s offence told⟩

/-- The offences of a first step come before those of the next one. -/
theorem bind {first : Except Stop α} {next : α → Except Stop β} {before after : List Offence}
    (hfirst : Blames tells first before)
    (hnext : ∀ a, first = .ok a → Blames tells (next a) after) :
    Blames tells (first >>= next) (before ++ after) := by
  cases before with
  | nil =>
    obtain ⟨a, rfl⟩ := hfirst
    exact hnext a rfl
  | cons offence rest =>
    obtain ⟨s, rfl, told⟩ := hfirst
    exact ⟨s, rfl, told⟩

theorem map {outcome : Except Stop α} {offences : List Offence} (f : α → β)
    (h : Blames tells outcome offences) : Blames tells (outcome.map f) offences := by
  cases offences with
  | nil =>
    obtain ⟨a, rfl⟩ := h
    exact ⟨f a, rfl⟩
  | cons offence rest =>
    obtain ⟨s, rfl, told⟩ := h
    exact ⟨s, rfl, told⟩

/-- The offences of the members of a list come in the order of the members. -/
theorem mapM {f : α → Except Stop β} {offences : α → List Offence} {xs : List α}
    (h : ∀ x ∈ xs, Blames tells (f x) (offences x)) :
    Blames tells (xs.mapM f) (xs.flatMap offences) := by
  induction xs with
  | nil => exact ok []
  | cons x xs ih =>
    rw [mapM_cons_eq, List.flatMap_cons]
    refine (h x List.mem_cons_self).bind fun y _ => ?_
    exact (ih fun z hz => h z (List.mem_cons_of_mem x hz)).map _

end Blames

def blameUnless (good : Bool) (offence : Offence) : List Offence :=
  if good then [] else [offence]

theorem blameUnless_eq_nil {good : Bool} {offence : Offence} :
    blameUnless good offence = [] ↔ good = true := by
  cases good with
  | true => exact ⟨fun _ => rfl, fun _ => rfl⟩
  | false => exact ⟨fun h => (List.cons_ne_nil _ _ h).elim, fun h => (Bool.false_ne_true h).elim⟩

section Schemas

def isObject (text : String) : Bool :=
  match Json.parse text with
  | .ok (.object _) => true
  | _ => false

theorem isObject_iff {text : String} :
    isObject text = true ↔ ∃ members, Json.parse text = .ok (.object members) := by
  unfold isObject
  constructor
  · intro h
    split at h
    · next members parsed => exact ⟨members, parsed⟩
    · cases h
  · rintro ⟨members, parsed⟩
    rw [parsed]

def textOffences (text : String) : List Offence :=
  blameUnless (isObject text) (.schema text)

theorem blames_parseSchema (text : String) :
    Blames TellsApart (parseSchema text) (textOffences text) := by
  by_cases h : isObject text = true
  · obtain ⟨members, parsed⟩ := isObject_iff.mp h
    rw [textOffences, blameUnless, if_pos h, parseSchema_eq_ok.mpr parsed]
    exact .ok members
  · rw [textOffences, blameUnless, if_neg h]
    unfold parseSchema
    split
    · next members parsed => exact absurd (isObject_iff.mpr ⟨members, parsed⟩) h
    · next parsed =>
      refine .error (.schema ?_ _)
      rintro ⟨remaining, failed⟩
      rw [parsed] at failed
      cases failed
    · next fault failed =>
      by_cases tooLong : fault.fault = .integerTooLong
      · rw [if_pos tooLong]
        obtain ⟨kind, remaining⟩ := fault
        cases tooLong
        exact .error (.integerTooLong failed)
      · rw [if_neg tooLong]
        refine .error (.schema ?_ _)
        rintro ⟨remaining, same⟩
        rw [failed] at same
        cases same
        exact tooLong rfl

/-- The offence of bodies: the first schema among them, if it is neither declared nor an object. -/
def bodyOffences (declared : List String) (bodies : Entries Raml.Body) : List Offence :=
  match Registry.firstSchema bodies with
  | none => []
  | some text => if text ∈ declared then [] else textOffences text

def actionOffences (declared : List String) (action : Raml.Action) : List Offence :=
  bodyOffences declared action.bodies ++
    action.responses.flatMap fun r => bodyOffences declared r.2.bodies

def forestOffences (declared : List String) (forest : List (String × Raml.Resource)) :
    List Offence :=
  (places forest).flatMap fun p =>
    p.resource.actions.flatMap fun a => actionOffences declared a.2

theorem blames_registerAll (schemas : List (Entries String)) :
    Blames TellsApart (Registry.empty.registerAll schemas).outcome
      (schemas.flatten.flatMap fun p => textOffences p.2) := by
  rw [Registry.registerAll, Registry.outcome_registerEach]
  exact (Blames.mapM fun p _ => ((blames_parseSchema p.2).map _).map _).map _

section Known

variable {declared : List String} {registry : Registry}
  (known : ∀ name, registry.contains name = true ↔ name ∈ declared)

include known

theorem blames_resolveFirst (bodies : Entries Raml.Body) :
    Blames TellsApart (registry.resolveFirst bodies) (bodyOffences declared bodies) := by
  rw [Registry.resolveFirst, bodyOffences]
  cases Registry.firstSchema bodies with
  | none => exact .ok none
  | some text =>
    refine Blames.map some ?_
    rw [Registry.resolve]
    by_cases h : text ∈ declared
    · simp only [if_pos h, if_pos ((known text).mpr h)]
      exact .ok _
    · simp only [if_neg h, if_neg (mt (known text).mp h)]
      exact (blames_parseSchema text).map _

theorem blames_mapBody (bodies : Entries Raml.Body) :
    Blames TellsApart (mapBody registry bodies) (bodyOffences declared bodies) := by
  cases bodies with
  | nil => exact .ok none
  | cons b rest => exact (blames_resolveFirst known (b :: rest)).map _

theorem blames_mapResponses (responses : Entries Raml.Response) :
    Blames TellsApart (mapResponses registry responses)
      (responses.flatMap fun r => bodyOffences declared r.2.bodies) := by
  by_cases h : responses = []
  · rw [h]
    exact .ok defaultResponses
  · rw [mapResponses_of_ne_nil registry h]
    exact .mapM fun r _ => ((blames_resolveFirst known r.2.bodies).map _).map _

theorem blames_mapOperation (scope : Scope) (action : Raml.Action) :
    Blames TellsApart (mapOperation registry scope action) (actionOffences declared action) := by
  rw [mapOperation_eq]
  exact (blames_mapBody known action.bodies).bind fun body _ =>
    (blames_mapResponses known action.responses).map _

theorem blames_mapActions (scope : Scope) (actions : Entries Raml.Action) :
    Blames TellsApart (mapActions registry scope actions)
      (actions.flatMap fun a => actionOffences declared a.2) := by
  rw [mapActions, mapOperations_eq]
  exact (Blames.mapM fun a _ => (blames_mapOperation known scope a.2).map _).map _

theorem blames_mapPaths (hoistedPrefix : String) (root : Scope)
    (resources : Entries Raml.Resource) :
    Blames TellsApart (mapPaths registry hoistedPrefix root resources).outcome
      (forestOffences declared resources) := by
  rw [mapPaths_outcome]
  exact (Blames.mapM fun p _ => (blames_mapActions known _ p.resource.actions).map _).map _

end Known

end Schemas

end RamlBridge.Conversion
