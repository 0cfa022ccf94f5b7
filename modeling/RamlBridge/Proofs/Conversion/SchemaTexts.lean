import RamlBridge.Proofs.Conversion.Document
import RamlBridge.Proofs.Conversion.Registry
import RamlBridge.Proofs.Conversion.UpToBodies
import RamlBridge.Proofs.Raml.SchemaPlaces

/-!
Texts of schemas in a document. Descriptions that differ only in texts which denote one schema,
and which are no names of schemas, give one document.
-/
namespace RamlBridge.Conversion

open Raml (Body Response Action Resource Root)

/-- Equal texts, or a first one and a second one. -/
def EqualOr (s t u v : String) : Prop := u = v ∨ u = s ∧ v = t

def SameSchema (s t : String) : Prop :=
  ∃ members, parseSchema s = .ok members ∧ parseSchema t = .ok members

structure Undeclared (registry : Registry) (s t : String) : Prop where
  first : registry.contains s = false
  second : registry.contains t = false

section Texts

variable {s t u v : String}

theorem SameSchema.ne_empty (same : SameSchema s t) : s ≠ "" ∧ t ≠ "" := by
  obtain ⟨members, hs, ht⟩ := same
  constructor
  · rintro rfl
    cases hs
  · rintro rfl
    cases ht

theorem EqualOr.parseSchema_eq (h : EqualOr s t u v) (same : SameSchema s t) :
    parseSchema u = parseSchema v := by
  rcases h with rfl | ⟨rfl, rfl⟩
  · rfl
  · obtain ⟨members, hs, ht⟩ := same
    rw [hs, ht]

theorem EqualOr.resolve_eq (h : EqualOr s t u v) (same : SameSchema s t) {registry : Registry}
    (undeclared : Undeclared registry s t) : registry.resolve u = registry.resolve v := by
  have parsed := h.parseSchema_eq same
  rcases h with rfl | ⟨rfl, rfl⟩
  · rfl
  · rw [Registry.resolve, Registry.resolve, undeclared.first, undeclared.second, parsed,
      if_neg Bool.false_ne_true, if_neg Bool.false_ne_true]

theorem EqualOr.filter_given (h : EqualOr s t u v) (same : SameSchema s t) :
    Option.Rel (EqualOr s t) ((some u).filter (· ≠ "")) ((some v).filter (· ≠ "")) := by
  rcases h with rfl | ⟨rfl, rfl⟩
  · cases (some u).filter (· ≠ "") with
    | none => exact .none
    | some w => exact .some (Or.inl rfl)
  · obtain ⟨hs, ht⟩ := same.ne_empty
    rw [Option.filter_some, Option.filter_some, if_pos (decide_eq_true hs),
      if_pos (decide_eq_true ht)]
    exact .some (Or.inr ⟨rfl, rfl⟩)

end Texts

section Operations

variable {s t : String} {registry : Registry}

theorem firstSchema_related (same : SameSchema s t) {bodies bodies' : Entries Body}
    (h : Alike (Body.Corresponds (EqualOr s t)) bodies bodies') :
    Option.Rel (EqualOr s t) (Registry.firstSchema bodies) (Registry.firstSchema bodies') := by
  unfold Registry.firstSchema
  -- An empty text counts as no schema, so both sides pass over the same bodies.
  induction h with
  | nil => exact .none
  | @cons p q rest rest' first _ ih =>
    have given : Option.Rel (EqualOr s t) (p.2.schema.filter (· ≠ ""))
        (q.2.schema.filter (· ≠ "")) := by
      have schema := first.2.schema
      generalize p.2.schema = o at schema ⊢
      generalize q.2.schema = o' at schema ⊢
      cases schema with
      | none => exact .none
      | some huv => exact huv.filter_given same
    rw [List.findSome?_cons, List.findSome?_cons]
    generalize p.2.schema.filter (· ≠ "") = o at given ⊢
    generalize q.2.schema.filter (· ≠ "") = o' at given ⊢
    cases given with
    | none => exact ih
    | some huv => exact .some huv

theorem resolveFirst_eq (same : SameSchema s t) (undeclared : Undeclared registry s t)
    {bodies bodies' : Entries Body}
    (h : Alike (Body.Corresponds (EqualOr s t)) bodies bodies') :
    registry.resolveFirst bodies = registry.resolveFirst bodies' := by
  have first := firstSchema_related same h
  unfold Registry.resolveFirst
  generalize Registry.firstSchema bodies = u at first ⊢
  generalize Registry.firstSchema bodies' = v at first ⊢
  cases first with
  | none => rfl
  | some huv => simp only [huv.resolve_eq same undeclared]

theorem showsSame_of_texts (same : SameSchema s t) (undeclared : Undeclared registry s t) :
    ShowsSame registry registry (Alike (Body.Corresponds (EqualOr s t))) :=
  ⟨fun h => h.keys, resolveFirst_eq same undeclared⟩

theorem upTo_of_sameBut {a a' : Action} (h : a.SameBut (EqualOr s t) a') :
    a.UpTo (Alike (Body.Corresponds (EqualOr s t))) a' where
  description := h.description
  headers := h.headers
  queryParameters := h.queryParameters
  bodies := h.bodies
  responses := h.responses.imp fun _ _ related =>
    ⟨related.1, related.2.description, related.2.bodies⟩

theorem mapActions_eq_of_alike (same : SameSchema s t) (undeclared : Undeclared registry s t)
    (scope : Scope) {actions actions' : Entries Action}
    (h : Alike (Action.SameBut (EqualOr s t)) actions actions') :
    mapActions registry scope actions = mapActions registry scope actions' := by
  have upTo : Alike (Action.UpTo (Alike (Body.Corresponds (EqualOr s t)))) actions actions' :=
    h.imp fun _ _ related => ⟨related.1, upTo_of_sameBut related.2⟩
  exact (showsSame_of_texts same undeclared).mapActions_eq upTo scope

end Operations

section Documents

variable {s t : String}

/-- Going through either of two resources comes to the same. -/
def SameVisits (s t : String) (r r' : Resource) : Prop :=
  ∀ registry, Undeclared registry s t → ∀ hoistedPrefix uri scope paths,
    visit registry hoistedPrefix uri scope paths r =
      visit registry hoistedPrefix uri scope paths r'

theorem visitAll_eq_of_alike {registry : Registry} (undeclared : Undeclared registry s t)
    {forest forest' : List (String × Resource)} (h : Alike (SameVisits s t) forest forest')
    (hoistedPrefix uri : String) (scope : Scope) (paths : Entries Swagger.PathItem) :
    visitAll registry hoistedPrefix uri scope paths forest =
      visitAll registry hoistedPrefix uri scope paths forest' := by
  induction h generalizing paths with
  | nil => rfl
  | @cons p q rs rs' first _ ih =>
    obtain ⟨relative, r⟩ := p
    obtain ⟨relative', r'⟩ := q
    obtain ⟨rfl, visits⟩ := first
    simp only [visitAll, visits registry undeclared, ih]

theorem respects_sameVisits (same : SameSchema s t) :
    Raml.Respects (EqualOr s t) (SameVisits s t) where
  refl _ _ _ _ _ _ _ := rfl
  built := by
    intro displayName description uriParameters actions actions' children children' hactions
      hchildren registry undeclared hoistedPrefix uri scope paths
    simp only [visit, mapActions_eq_of_alike same undeclared _ hactions,
      visitAll_eq_of_alike undeclared hchildren]

theorem register_eq_of_equalOr (same : SameSchema s t) {u v : String} (h : EqualOr s t u v)
    (registry : Registry) (name : String) :
    registry.register name u = registry.register name v := by
  rw [Registry.register, Registry.register, h.parseSchema_eq same]

theorem registerEach_eq_of_alike (same : SameSchema s t) {pairs pairs' : List (String × String)}
    (h : Alike (EqualOr s t) pairs pairs') (registry : Registry) :
    registry.registerEach pairs = registry.registerEach pairs' := by
  induction h generalizing registry with
  | nil => rfl
  | @cons p q rest rest' first _ ih =>
    obtain ⟨name, u⟩ := p
    obtain ⟨name', v⟩ := q
    obtain ⟨rfl, huv⟩ := first
    simp only [Registry.registerEach, register_eq_of_equalOr same huv, ih]

/-- Descriptions that correspond give the same document, with the same warnings. -/
theorem assemble_eq_of_corresponds (same : SameSchema s t) {root other : Root}
    (h : Root.Corresponds (EqualOr s t) (SameVisits s t) root other)
    (hs : s ∉ Entries.names root.schemas.flatten) (ht : t ∉ Entries.names root.schemas.flatten) :
    assemble root = assemble other := by
  have declared : Registry.empty.registerAll root.schemas =
      Registry.empty.registerAll other.schemas := by
    rw [Registry.registerAll, Registry.registerAll]
    exact registerEach_eq_of_alike same (List.rel_flatten h.schemas) _
  have infos : info root = info other := by rw [h.rest]; rfl
  rw [assemble, assemble, ← declared, infos, h.rest]
  refine Report.bind_congr fun baseUri _ => Report.bind_congr fun registry made => ?_
  -- The registry knows the declared names alone, and neither text is one of them.
  have undeclared (name : String) (absent : name ∉ Entries.names root.schemas.flatten) :
      registry.contains name = false := by
    rw [← Bool.not_eq_true, Registry.contains_registerAll made]
    exact absent
  simp only [mapPaths, visitAll_eq_of_alike ⟨undeclared s hs, undeclared t ht⟩ h.resources]

theorem convert_eq_of_corresponds (same : SameSchema s t) {root other : Root}
    (h : Root.Corresponds (EqualOr s t) (SameVisits s t) root other)
    (hs : s ∉ Entries.names root.schemas.flatten) (ht : t ∉ Entries.names root.schemas.flatten)
    (indent : Option Int) : convert root indent = convert other indent := by
  rw [convert, convert, document, document, assemble_eq_of_corresponds same h hs ht]

end Documents

end RamlBridge.Conversion
