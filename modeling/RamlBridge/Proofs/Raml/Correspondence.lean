import RamlBridge.Proofs.Validation.Related
import RamlBridge.Raml.Document

/-!
Reading two descriptions that differ in some of their values. Where the values that differ are
read alike, so are the descriptions: the trees that come out differ only in what comes of those
values, or both descriptions are refused for the same reason.
-/
namespace RamlBridge.Raml

open Checked Datum

structure Under (name : String) (R : Datum → Datum → Prop) (k : Scalar) (d e : Datum) : Prop where
  here : k = .text name → R d e
  other : k ≠ .text name → d = e

namespace Under

variable {name : String} {R : Datum → Datum → Prop}

theorem refl (h : ∀ d, R d d) (k : Scalar) (d : Datum) : Under name R k d d :=
  ⟨fun _ => h d, fun _ => rfl⟩

theorem ofHere {d e : Datum} (h : R d e) : Under name R (.text name) d e :=
  ⟨fun _ => h, fun other => absurd rfl other⟩

end Under

/-- Maps with the same keys in the same order, whose values are related. -/
def ValuesAlike (R : Datum → Datum → Prop) (d e : Datum) : Prop :=
  ∃ es fs, d = .map es ∧ e = .map fs ∧ Alike R es fs

theorem related_keyedByText {R : Datum → Datum → Prop} {change : Datum → Datum}
    {es fs : List (Scalar × Datum)} (h : Alike (fun d e => R (change d) (change e)) es fs) :
    Related (ValuesAlike R) (keyedByText change es) (keyedByText change fs) := by
  refine .map (fun ps qs alike => ⟨_, _, rfl, rfl, alike_ofPairs alike⟩) (.inTurn ?_)
  refine List.forall₂_map_left_iff.mpr (List.forall₂_map_right_iff.mpr (h.imp ?_))
  rintro ⟨k, d⟩ ⟨k', e⟩ ⟨rfl, hde⟩
  refine .map ?_ (.refl (fun _ => rfl) (textKey k))
  rintro key _ rfl
  exact ⟨rfl, hde⟩

/-- Entries that checks make of maps under the texts of their keys. -/
theorem related_entries_keyedByText {α β : Type} {B : α → β → Prop} {check : Datum → Checked α}
    {check' : Datum → Checked β} {change : Datum → Datum} {es fs : List (Scalar × Datum)}
    (h : Alike (fun d e => Related B (check (change d)) (check' (change e))) es fs) :
    Related (Alike B) ((keyedByText change es).andThen (entries check))
      ((keyedByText change fs).andThen (entries check')) := by
  refine .andThen ?_ (related_keyedByText (R := fun d e => Related B (check d) (check' e)) h)
  rintro _ _ ⟨es', fs', rfl, rfl, alike⟩
  exact .values alike

section Declarations

variable {mediaType : Datum} {B : Body → Body → Prop}

def holdsSlash (es : List (Scalar × Datum)) : Bool :=
  es.any fun p => isMediaType p.1

theorem holdsSlash_eq {R : Datum → Datum → Prop} {es fs : List (Scalar × Datum)}
    (h : Alike R es fs) : holdsSlash es = holdsSlash fs := by
  have keys := h.keys
  have each (ps : List (Scalar × Datum)) : holdsSlash ps = (ps.map Prod.fst).any isMediaType := by
    rw [List.any_map]
    rfl
  rw [each, each, keys]

theorem Body.readAll_of_slash {es : List (Scalar × Datum)} (h : holdsSlash es = true) :
    Body.readAll mediaType (.map es) =
      (keyedByText orEmpty es).andThen (entries Body.read) := by
  cases es with
  | nil => cases h
  | cons p rest =>
    have slash : ((p :: rest).any fun p => isMediaType p.1) = true := h
    simp only [Body.readAll, bodyMap, orEmpty, slash, if_true]
    cases keyedByText Raml.orEmpty (p :: rest) <;> rfl

/-- The keys of a body without a media type need texts as well, though nothing stands under them. -/
theorem Body.readAll_of_noSlash {es : List (Scalar × Datum)} (given : es ≠ [])
    (h : holdsSlash es = false) :
    Body.readAll mediaType (.map es) =
      (keyedByText orEmpty es).andThen fun _ => (bodyKey mediaType).andThen fun key =>
        entries Body.read (.map [(key, .map es)]) := by
  cases es with
  | nil => exact absurd rfl given
  | cons p rest =>
    have noSlash : ((p :: rest).any fun p => isMediaType p.1) = false := h
    simp only [Body.readAll, bodyMap, orEmpty, noSlash, Bool.false_eq_true, if_false]
    cases keyedByText Raml.orEmpty (p :: rest) with
    | accepted => cases bodyKey mediaType <;> rfl
    | refused | stopped => rfl

theorem Body.related_readAll {es fs : List (Scalar × Datum)} (slash : holdsSlash es = true)
    (h : Alike (fun d e => Related B (Body.read (orEmpty d)) (Body.read (orEmpty e))) es fs) :
    Related (Alike B) (Body.readAll mediaType (.map es)) (Body.readAll mediaType (.map fs)) := by
  rw [Body.readAll_of_slash slash, Body.readAll_of_slash (holdsSlash_eq h ▸ slash)]
  exact related_entries_keyedByText h

/-- Responses that differ only in their bodies. -/
structure Response.Corresponds (B : Body → Body → Prop) (r s : Response) : Prop where
  description : r.description = s.description
  bodies : Alike B r.bodies s.bodies

theorem Response.Corresponds.eq {r s : Response} (h : Response.Corresponds Eq r s) : r = s := by
  cases r
  cases s
  rw [Response.mk.injEq]
  exact ⟨h.description, h.bodies.eq⟩

theorem Response.related_read {es fs : List (Scalar × Datum)}
    (h : ByKey (Under "body" fun d e => Related (Alike B) (Body.readAll mediaType d)
      (Body.readAll mediaType e)) es fs) :
    Related (Response.Corresponds B) (Response.read mediaType (.map es))
      (Response.read mediaType (.map fs)) := by
  have description : Related Eq (field es "description" "description" none (nullable text))
      (field fs "description" "description" none (nullable text)) :=
    .sameField h none _ (fun _ _ k => k.other (by decide)) (fun _ _ k => k.other (by decide))
  have bodies : Related (Alike B) (field es "body" "body" [] (Body.readAll mediaType))
      (field fs "body" "body" [] (Body.readAll mediaType)) :=
    .field h .nil (fun _ _ k => k.here rfl) (fun _ _ k => k.here rfl)
  refine .seq (.map ?_ description) bodies
  intro description _ hdescription bodies _ hbodies
  exact ⟨hdescription, hbodies⟩

theorem Response.related_readAll {R : Response → Response → Prop} {es fs : List (Scalar × Datum)}
    (h : Alike (fun d e => Related R (Response.read mediaType (orEmpty d))
      (Response.read mediaType (orEmpty e))) es fs) :
    Related (Alike R) (Response.readAll mediaType (.map es))
      (Response.readAll mediaType (.map fs)) := by
  exact related_entries_keyedByText h

/-- Methods that differ only in their bodies and in those of their responses. -/
structure Action.Corresponds (B : Body → Body → Prop) (a b : Action) : Prop where
  description : a.description = b.description
  headers : a.headers = b.headers
  queryParameters : a.queryParameters = b.queryParameters
  bodies : Alike B a.bodies b.bodies
  responses : Alike (Response.Corresponds B) a.responses b.responses

theorem Action.Corresponds.eq {a b : Action} (h : Action.Corresponds Eq a b) : a = b := by
  have responses : Alike Eq a.responses b.responses :=
    h.responses.imp fun p q same => ⟨same.1, same.2.eq⟩
  cases a
  cases b
  rw [Action.mk.injEq]
  exact ⟨h.description, h.headers, h.queryParameters, h.bodies.eq, responses.eq⟩

/-- Values of a method that may differ in their bodies and in those of their responses. -/
structure InMethod (mediaType : Datum) (B : Body → Body → Prop) (k : Scalar) (d e : Datum) :
    Prop where
  bodies : k = .text "body" →
    Related (Alike B) (Body.readAll mediaType d) (Body.readAll mediaType e)
  responses : k = .text "responses" → Related (Alike (Response.Corresponds B))
    (Response.readAll mediaType d) (Response.readAll mediaType e)
  other : k ≠ .text "body" → k ≠ .text "responses" → d = e

namespace InMethod

variable {d e : Datum}

theorem refl (h : ∀ b, B b b) (k : Scalar) (d : Datum) : InMethod mediaType B k d d :=
  ⟨fun _ => .refl (alike_refl h) _,
    fun _ => .refl (alike_refl fun _ => ⟨rfl, alike_refl h _⟩) _, fun _ _ => rfl⟩

theorem ofBodies (h : Related (Alike B) (Body.readAll mediaType d) (Body.readAll mediaType e)) :
    InMethod mediaType B (.text "body") d e :=
  ⟨fun _ => h, fun same => absurd same (by decide), fun other => absurd rfl other⟩

theorem ofResponses (h : Related (Alike (Response.Corresponds B)) (Response.readAll mediaType d)
    (Response.readAll mediaType e)) : InMethod mediaType B (.text "responses") d e :=
  ⟨fun same => absurd same (by decide), fun _ => h, fun _ other => absurd rfl other⟩

end InMethod

theorem Action.related_read {es fs : List (Scalar × Datum)}
    (h : ByKey (InMethod mediaType B) es fs) :
    Related (Action.Corresponds B) (Action.read mediaType (.map es))
      (Action.read mediaType (.map fs)) := by
  have same {α : Type} (key name : String) (absent : α) (check : Datum → Checked α)
      (hkey : key ≠ "body" ∧ key ≠ "responses") (hname : name ≠ "body" ∧ name ≠ "responses") :
      Related Eq (field es key name absent check) (field fs key name absent check) := by
    refine .sameField h absent check (fun _ _ k => k.other ?_ ?_) (fun _ _ k => k.other ?_ ?_)
    · exact fun same => hkey.1 (Scalar.text.inj same)
    · exact fun same => hkey.2 (Scalar.text.inj same)
    · exact fun same => hname.1 (Scalar.text.inj same)
    · exact fun same => hname.2 (Scalar.text.inj same)
  have bodies : Related (Alike B) (field es "body" "body" [] (Body.readAll mediaType))
      (field fs "body" "body" [] (Body.readAll mediaType)) :=
    .field h .nil (fun _ _ k => k.bodies rfl) (fun _ _ k => k.bodies rfl)
  have responses : Related (Alike (Response.Corresponds B))
      (field es "responses" "responses" [] (Response.readAll mediaType))
      (field fs "responses" "responses" [] (Response.readAll mediaType)) :=
    .field h .nil (fun _ _ k => k.responses rfl) (fun _ _ k => k.responses rfl)
  refine .seq (.seq (.seq (.seq (.map ?_ (same _ _ none _ (by decide) (by decide)))
    (same _ _ [] _ (by decide) (by decide))) (same _ _ [] _ (by decide) (by decide))) bodies)
      responses
  intro description _ hdescription headers _ hheaders queries _ hqueries bodies _ hbodies
    responses _ hresponses
  exact ⟨hdescription, hheaders, hqueries, hbodies, hresponses⟩

end Declarations

section Groups

variable {S : Datum → Datum → Prop}

inductive PairAlike (S : Datum → Datum → Prop) : Datum → Datum → Prop
  | same (d) : PairAlike S d d
  | list (k) {d e} : S d e → PairAlike S (.list [k, d]) (.list [k, e])
  | pair (k) {d e} : S d e → PairAlike S (.pair k d) (.pair k e)

/-- Groups of entries whose values are related, however the entries are written. -/
inductive GroupAlike (S : Datum → Datum → Prop) : Datum → Datum → Prop
  | same (d) : GroupAlike S d d
  | map {es fs} : Alike S es fs → GroupAlike S (.map es) (.map fs)
  | list {ds es} : List.Forall₂ (PairAlike S) ds es → GroupAlike S (.list ds) (.list es)
  | pair {d e d' e'} : PairAlike S d e → PairAlike S d' e' → GroupAlike S (.pair d d') (.pair e e')

theorem PairAlike.related_pairEntry (refl : ∀ d, S d d) {d e : Datum} (h : PairAlike S d e)
    (index : Nat) : Related (Keyed S) (pairEntry index d) (pairEntry index e) := by
  have keyed {k d e : Datum} (hde : S d e) (p q : Datum) (hp : pairParts? p = some [k, d])
      (hq : pairParts? q = some [k, e]) :
      Related (Keyed S) (pairEntry index p) (pairEntry index q) := by
    simp only [pairEntry, hp, hq]
    cases k.key? with
    | none => exact .stopped _
    | some key => exact .accepted ⟨rfl, hde⟩
  cases h with
  | same d => exact .refl (fun p => ⟨rfl, refl p.2⟩) _
  | list k hde => exact keyed hde _ _ rfl rfl
  | pair k hde => exact keyed hde _ _ rfl rfl

theorem related_pairEntries (refl : ∀ d, S d d) {ds es : List Datum}
    (h : List.Forall₂ (PairAlike S) ds es) (index : Nat) :
    Related (Alike S) (pairEntries index ds) (pairEntries index es) := by
  induction h generalizing index with
  | nil => exact .accepted .nil
  | cons first _ ih =>
    refine .andThen ?_ (first.related_pairEntry refl index)
    intro p q hpq
    exact .map (fun ps qs => .cons hpq) (ih (index + 1))

theorem GroupAlike.related_looseEntries (refl : ∀ d, S d d) {d e : Datum}
    (h : GroupAlike S d e) : Related (Alike S) (looseEntries d) (looseEntries e) := by
  have pairs {ds es : List Datum} (alike : List.Forall₂ (PairAlike S) ds es) :
      Related (Alike S) (Checked.map Datum.ofPairs (pairEntries 0 ds))
        (Checked.map Datum.ofPairs (pairEntries 0 es)) :=
    .map (R := Alike S) (fun _ _ => alike_ofPairs) (related_pairEntries refl alike 0)
  cases h with
  | same d => exact .refl (alike_refl refl) _
  | map alike => exact .accepted alike
  | list alike => exact pairs alike
  | pair first second => exact pairs (.cons first (.cons second .nil))

end Groups

section Resources

variable {mediaType : Datum} {S A : Datum → Datum → Prop}

theorem ne_of_isPath {k : Scalar} (path : isPath k = true) {name : String}
    (noPath : isPath (.text name) = false) : k ≠ .text name := by
  rintro rfl
  rw [noPath] at path
  cases path

/-- Values of a resource that may differ in the resources below it and in its methods. -/
structure InResource (S A : Datum → Datum → Prop) (k : Scalar) (d e : Datum) : Prop where
  resources : k = .text "resources" → Related (Alike S) (looseEntries d) (looseEntries e)
  actions : k = .text "actions" → Related (Alike A) (looseEntries d) (looseEntries e)
  path : isPath k = true → S (orEmpty d) (orEmpty e)
  method : isPath k = false → (method? k).isSome = true → A (orEmpty d) (orEmpty e)
  other : isGroup k = false → isPath k = false → method? k = none → d = e

namespace InResource

variable {k : Scalar} {d e : Datum}

theorem refl (hS : ∀ d, S d d) (hA : ∀ d, A d d) (k : Scalar) (d : Datum) :
    InResource S A k d d :=
  ⟨fun _ => .refl (alike_refl hS) _, fun _ => .refl (alike_refl hA) _, fun _ => hS _,
    fun _ _ => hA _, fun _ _ _ => rfl⟩

theorem ofResources (h : Related (Alike S) (looseEntries d) (looseEntries e)) :
    InResource S A (.text "resources") d e :=
  ⟨fun _ => h, fun same => absurd same (by decide), fun path => absurd path (by decide),
    fun _ method => absurd method (by decide), fun inGroup => absurd inGroup (by decide)⟩

theorem ofActions (h : Related (Alike A) (looseEntries d) (looseEntries e)) :
    InResource S A (.text "actions") d e :=
  ⟨fun same => absurd same (by decide), fun _ => h, fun path => absurd path (by decide),
    fun _ method => absurd method (by decide), fun inGroup => absurd inGroup (by decide)⟩

theorem ofPath (path : isPath k = true) (h : S (orEmpty d) (orEmpty e)) :
    InResource S A k d e :=
  ⟨fun same => absurd same (ne_of_isPath path (by decide)),
    fun same => absurd same (ne_of_isPath path (by decide)), fun _ => h,
    fun noPath => absurd path (by rw [noPath]; decide),
    fun _ noPath => absurd path (by rw [noPath]; decide)⟩

theorem ofMethod (noPath : isPath k = false) (method : (method? k).isSome = true)
    (h : A (orEmpty d) (orEmpty e)) : InResource S A k d e := by
  have apart (name : String) (none : method? (.text name) = none) : k ≠ .text name := by
    rintro rfl
    rw [none] at method
    cases method
  exact ⟨fun same => absurd same (apart _ (by decide)),
    fun same => absurd same (apart _ (by decide)),
    fun path => absurd path (by rw [noPath]; decide), fun _ _ => h,
    fun _ _ none => absurd method (by rw [none]; decide)⟩

end InResource

structure Parts.Corresponds (S A : Datum → Datum → Prop) (p q : Parts) : Prop where
  resources : Alike S p.resources q.resources
  actions : Alike A p.actions q.actions
  fields : p.fields = q.fields

/-- Filing values that may differ keeps parts alike. -/
theorem Parts.Corresponds.add {p q : Parts} (h : p.Corresponds S A q) {k : Scalar}
    {d e : Datum} (hde : InResource S A k d e) :
    (p.add (k, d)).Corresponds S A (q.add (k, e)) := by
  -- In the order in which an entry is filed: a group first, then a path, then a method.
  by_cases inGroup : isGroup k = true
  · simpa only [Parts.add, if_pos inGroup] using h
  · simp only [Parts.add, if_neg inGroup]
    by_cases path : isPath k = true
    · simp only [if_pos path]
      exact ⟨alike_putKey h.resources k (hde.path path), h.actions, h.fields⟩
    · simp only [if_neg path]
      cases method : method? k with
      | some name =>
        have named : (method? k).isSome = true := by rw [method]; rfl
        exact ⟨h.resources, alike_putKey h.actions (.text name)
          (hde.method (by simpa using path) named), h.fields⟩
      | none =>
        have same := hde.other (by simpa using inGroup) (by simpa using path) method
        refine ⟨h.resources, h.actions, ?_⟩
        rw [h.fields, same]

theorem Parts.Corresponds.foldl {es fs : List (Scalar × Datum)}
    (h : ByKey (InResource S A) es fs) {p q : Parts} (hpq : p.Corresponds S A q) :
    (es.foldl Parts.add p).Corresponds S A (fs.foldl Parts.add q) := by
  induction h generalizing p q with
  | nil => exact hpq
  | @cons x y _ _ first _ ih =>
    obtain ⟨k, d⟩ := x
    obtain ⟨k', e⟩ := y
    obtain ⟨rfl, hde⟩ := first
    exact ih (hpq.add hde)

theorem group_eq {K : Scalar → Datum → Datum → Prop} {es fs : List (Scalar × Datum)}
    (h : ByKey K es fs) (name : String) (same : ∀ d e, K (.text name) d e → d = e) :
    group es name = group fs name := by
  have found := h.lookup? name
  unfold group
  generalize Datum.lookup? es name = first at found ⊢
  generalize Datum.lookup? fs name = second at found ⊢
  cases found with
  | none => rfl
  | some hde => rw [same _ _ hde]

theorem related_group {K : Scalar → Datum → Datum → Prop} {R : Datum → Datum → Prop}
    {es fs : List (Scalar × Datum)} (h : ByKey K es fs) (name : String)
    (inGroup : ∀ d e, K (.text name) d e → Related (Alike R) (looseEntries d) (looseEntries e)) :
    Related (Alike R) (looseEntries (group es name)) (looseEntries (group fs name)) := by
  have found := h.lookup? name
  unfold group
  generalize Datum.lookup? es name = first at found ⊢
  generalize Datum.lookup? fs name = second at found ⊢
  cases found with
  | none => exact .accepted .nil
  | some hde => exact inGroup _ _ hde

theorem Parts.related_ofEntries {es fs : List (Scalar × Datum)}
    (h : ByKey (InResource S A) es fs) :
    Related (Parts.Corresponds S A) (Parts.ofEntries es) (Parts.ofEntries fs) := by
  refine .andThen ?_ (related_group h "resources" fun _ _ k => k.resources rfl)
  intro resources resources' hresources
  refine .map ?_ (related_group h "actions" fun _ _ k => k.actions rfl)
  intro actions actions' hactions
  exact Parts.Corresponds.foldl h ⟨hresources, hactions, rfl⟩

variable {R : Resource → Resource → Prop} {B : Action → Action → Prop}

def Resource.ReadAlike (R : Resource → Resource → Prop) (mediaType d e : Datum) : Prop :=
  Related R (Resource.read mediaType d) (Resource.read mediaType e)

def Action.ReadAlike (B : Action → Action → Prop) (mediaType d e : Datum) : Prop :=
  Related B (Action.read mediaType d) (Action.read mediaType e)

theorem Resource.ReadAlike.refl (h : ∀ r, R r r) (mediaType d : Datum) :
    Resource.ReadAlike R mediaType d d :=
  Related.refl h _

theorem Action.ReadAlike.refl (h : ∀ a, B a a) (mediaType d : Datum) :
    Action.ReadAlike B mediaType d d :=
  Related.refl h _

theorem Resource.read_orEmpty (mediaType d : Datum) :
    Resource.read mediaType (orEmpty d) = Resource.read mediaType d := by
  have nothing : Resource.ofEntries mediaType [] = .accepted Resource.empty := by
    rw [Resource.ofEntries_eq]
    rfl
  cases d with
  | scalar s =>
    cases s with
    | null => exact nothing
    | bool | int | float | text | bytes | date | clock | moment | pair => rfl
  | list | pair | set | map => rfl

theorem Resource.ReadAlike.orEmpty {d e : Datum} (h : Resource.ReadAlike R mediaType d e) :
    Resource.ReadAlike R mediaType (Raml.orEmpty d) (Raml.orEmpty e) := by
  rw [Resource.ReadAlike, Resource.read_orEmpty, Resource.read_orEmpty]
  exact h

/-- Resources are read alike if the resources below them and their methods are. -/
theorem Resource.related_ofEntries
    (built : ∀ displayName description uriParameters actions actions' children children',
      Alike B actions actions' → Alike R children children' →
      R ⟨displayName, description, uriParameters, actions, children⟩
        ⟨displayName, description, uriParameters, actions', children'⟩)
    {es fs : List (Scalar × Datum)} (h : ByKey (InResource (Resource.ReadAlike R mediaType)
      (Action.ReadAlike B mediaType)) es fs) :
    Resource.ReadAlike R mediaType (.map es) (.map fs) := by
  change Related R (Resource.ofEntries mediaType es) (Resource.ofEntries mediaType fs)
  rw [Resource.ofEntries_eq, Resource.ofEntries_eq]
  refine .andThen ?_ (Parts.related_ofEntries h)
  intro p q hpq
  have same {α : Type} (key name : String) (absent : α) (check : Datum → Checked α) :
      Related Eq (field p.fields key name absent check) (field q.fields key name absent check) := by
    rw [hpq.fields]
    exact .refl (fun _ => rfl) _
  refine .seq (.seq (.seq (.seq (.map ?_ (same _ _ none _)) (same _ _ none _))
    (same _ _ [] _)) (.under _ (.values hpq.actions))) (.under _ (.values hpq.resources))
  rintro displayName _ rfl description _ rfl uriParameters _ rfl actions actions' hactions
    children children' hchildren
  exact built displayName description uriParameters actions actions' children children' hactions
    hchildren

theorem Resource.readAlike_map {es fs : List (Scalar × Datum)}
    (h : ByKey (InResource (Resource.ReadAlike Eq mediaType) (Action.ReadAlike Eq mediaType))
      es fs) :
    Resource.ReadAlike Eq mediaType (.map es) (.map fs) := by
  refine Resource.related_ofEntries ?_ h
  intro displayName description uriParameters actions actions' children children' hactions
    hchildren
  rw [hactions.eq, hchildren.eq]

/-- Values of a description that may differ in its resources and its schemas. -/
structure InRoot (S T : Datum → Datum → Prop) (k : Scalar) (d e : Datum) : Prop where
  resources : k = .text "resources" → Related (Alike S) (looseEntries d) (looseEntries e)
  path : isPath k = true → S (orEmpty d) (orEmpty e)
  schemas : k = .text "schemas" → T d e
  other : k ≠ .text "resources" → isPath k = false → k ≠ .text "schemas" → d = e

namespace InRoot

variable {T : Datum → Datum → Prop} {k : Scalar} {d e : Datum}

theorem refl (hS : ∀ d, S d d) (hT : ∀ d, T d d) (k : Scalar) (d : Datum) : InRoot S T k d d :=
  ⟨fun _ => .refl (alike_refl hS) _, fun _ => hS _, fun _ => hT _, fun _ _ _ => rfl⟩

theorem ofResources (h : Related (Alike S) (looseEntries d) (looseEntries e)) :
    InRoot S T (.text "resources") d e :=
  ⟨fun _ => h, fun path => absurd path (by decide), fun same => absurd same (by decide),
    fun other => absurd rfl other⟩

theorem ofPath (path : isPath k = true) (h : S (orEmpty d) (orEmpty e)) : InRoot S T k d e :=
  ⟨fun same => absurd same (ne_of_isPath path (by decide)), fun _ => h,
    fun same => absurd same (ne_of_isPath path (by decide)),
    fun _ noPath => absurd path (by rw [noPath]; decide)⟩

theorem ofSchemas (h : T d e) : InRoot S T (.text "schemas") d e :=
  ⟨fun same => absurd same (by decide), fun path => absurd path (by decide), fun _ => h,
    fun _ _ other => absurd rfl other⟩

end InRoot

theorem related_topResources {T : Datum → Datum → Prop} {es fs : List (Scalar × Datum)}
    (h : ByKey (InRoot S T) es fs) :
    Related (Alike S) (topResources es) (topResources fs) := by
  refine .map ?_ (related_group h "resources" fun _ _ k => k.resources rfl)
  intro start start' hstart
  -- The resources filed so far vary, since each path may replace one of them.
  induction h generalizing start start' with
  | nil => exact hstart
  | @cons x y es fs first _ ih =>
    obtain ⟨k, d⟩ := x
    obtain ⟨k', e⟩ := y
    obtain ⟨rfl, hde⟩ := first
    by_cases path : isPath k = true
    · simp only [List.filter_cons, if_pos path]
      exact ih _ _ (alike_putKey hstart k (hde.path path))
    · simp only [List.filter_cons, if_neg path]
      exact ih _ _ hstart

/-- Descriptions that differ only in their schemas and their resources. -/
structure Root.Corresponds (T : String → String → Prop) (R : Resource → Resource → Prop)
    (root other : Root) : Prop where
  rest : other = { root with schemas := other.schemas, resources := other.resources }
  schemas : List.Forall₂ (Alike T) root.schemas other.schemas
  resources : Alike R root.resources other.resources

theorem Root.Corresponds.eq {root other : Root} (h : Root.Corresponds Eq Eq root other) :
    root = other := by
  have schemas : root.schemas = other.schemas :=
    List.forall₂_eq_eq_eq ▸ h.schemas.imp fun _ _ => Alike.eq
  rw [h.rest, ← schemas, ← h.resources.eq]

def readSchemas (d : Datum) : Checked (List (Entries String)) :=
  (declarationList schemaEntries d).andThen (list (entries text))

def readSchemes (d : Datum) : Checked (List (Entries SecurityScheme)) :=
  (declarationList schemeEntries d).andThen (list (entries SecurityScheme.read))

theorem readSchemas_refl {T : String → String → Prop} (refl : ∀ s, T s s) (d : Datum) :
    Related (List.Forall₂ (Alike T)) (readSchemas d) (readSchemas d) :=
  .refl (fun _ => List.forall₂_same.mpr fun es _ => alike_refl refl es) _

theorem Root.related_ofEntries {T : String → String → Prop} {es fs : List (Scalar × Datum)}
    (h : ByKey (InRoot (Resource.ReadAlike R mediaType)
      (fun d e => Related (List.Forall₂ (Alike T)) (readSchemas d) (readSchemas e))) es fs) :
    Related (Root.Corresponds T R) (Root.ofEntries mediaType es) (Root.ofEntries mediaType fs) := by
  refine .andThen ?_ (related_topResources h)
  intro tops tops' htops
  have same {α : Type} (key name : String) (absent : α) (check : Datum → Checked α)
      (hkey : key ≠ "resources" ∧ isPath (.text key) = false ∧ key ≠ "schemas")
      (hname : name ≠ "resources" ∧ isPath (.text name) = false ∧ name ≠ "schemas") :
      Related Eq (field es key name absent check) (field fs key name absent check) := by
    refine .sameField h absent check (fun _ _ k => k.other ?_ hkey.2.1 ?_)
      (fun _ _ k => k.other ?_ hname.2.1 ?_)
    · exact fun same => hkey.1 (Scalar.text.inj same)
    · exact fun same => hkey.2.2 (Scalar.text.inj same)
    · exact fun same => hname.1 (Scalar.text.inj same)
    · exact fun same => hname.2.2 (Scalar.text.inj same)
  have schemas : Related (List.Forall₂ (Alike T)) (field es "schemas" "schemas" [] readSchemas)
      (field fs "schemas" "schemas" [] readSchemas) :=
    .field h .nil (fun _ _ k => k.schemas rfl) (fun _ _ k => k.schemas rfl)
  refine .seq (.seq (.seq (.seq (.seq (.seq (.seq (.seq (.seq (.map ?_
    (same _ _ "" _ (by decide) (by decide))) (same _ _ none _ (by decide) (by decide)))
    (same _ _ none _ (by decide) (by decide))) (same _ _ [] _ (by decide) (by decide)))
    (same _ _ none _ (by decide) (by decide))) (same _ _ [] _ (by decide) (by decide)))
    (same _ _ [] _ (by decide) (by decide))) schemas)
    (same _ _ [] _ (by decide) (by decide))) (.under _ (.values htops))
  rintro title _ rfl version _ rfl baseUri _ rfl protocols _ rfl mediaType _ rfl declared _ rfl
    documentation _ rfl schemas _ hschemas schemes _ rfl resources _ hresources
  exact ⟨rfl, hschemas, hresources⟩

/-- Descriptions are read alike if the values of their resources and of their schemas are. -/
theorem Root.related_read {T : String → String → Prop} {es fs : List (Scalar × Datum)}
    (h : ByKey (InRoot (Resource.ReadAlike R (group fs "mediaType"))
      (fun d e => Related (List.Forall₂ (Alike T)) (readSchemas d) (readSchemas e))) es fs) :
    Related (Root.Corresponds T R) (Root.read (.map es)) (Root.read (.map fs)) := by
  -- The media type that bodies fall back on is none of the values that differ.
  have mediaType : group es "mediaType" = group fs "mediaType" :=
    group_eq h "mediaType" fun d e k => k.other (by decide) (by decide) (by decide)
  rw [Root.read, Root.read, mediaType]
  exact Root.related_ofEntries h

end Resources

end RamlBridge.Raml
