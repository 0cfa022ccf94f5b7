import RamlBridge.Raml.Basic

/-!
The places of a forest of resources: every resource with the way down to it, each before those
below it. The addresses of a forest are the sequences of keys that lead to a resource.
-/
namespace RamlBridge.Raml

/-- A resource in a forest, with the resources above it and their keys from the top. -/
structure Place where
  above : List (String × Resource)
  key : String
  resource : Resource
deriving Inhabited

namespace Place

/-- The resources from the top down to this one, each under its key. -/
def way (p : Place) : List (String × Resource) :=
  p.above ++ [(p.key, p.resource)]

def keys (p : Place) : List String := p.way.map Prod.fst

/-- The full URI: the keys on the way one behind the other. -/
def uri (p : Place) : String := String.join p.keys

/-- The parameters that are declared on the way down, from the top. -/
def uriParameters (p : Place) : Entries Parameter :=
  p.way.flatMap fun q => q.2.uriParameters

/-- A place in a forest that stands below a resource, seen from that resource's own forest. -/
def below (key : String) (resource : Resource) (p : Place) : Place :=
  { p with above := (key, resource) :: p.above }

@[simp] theorem way_below (key : String) (r : Resource) (p : Place) :
    (p.below key r).way = (key, r) :: p.way := rfl

@[simp] theorem keys_below (key : String) (r : Resource) (p : Place) :
    (p.below key r).keys = key :: p.keys := rfl

@[simp] theorem resource_below (key : String) (r : Resource) (p : Place) :
    (p.below key r).resource = p.resource := rfl

theorem uri_below (key : String) (r : Resource) (p : Place) :
    (p.below key r).uri = key ++ p.uri := String.join_cons

theorem uri_top (key : String) (r : Resource) : (Place.mk [] key r).uri = key :=
  String.join_cons.trans String.append_empty

end Place

mutual

/-- The places of a resource that stands under a key: itself, and then those below it. -/
def placesOf (key : String) : Resource → List Place
  | ⟨displayName, description, uriParameters, actions, children⟩ =>
    ⟨[], key, ⟨displayName, description, uriParameters, actions, children⟩⟩ ::
      (places children).map
        (Place.below key ⟨displayName, description, uriParameters, actions, children⟩)

/-- The places of a forest in pre-order. -/
def places : List (String × Resource) → List Place
  | [] => []
  | (key, r) :: rest => placesOf key r ++ places rest

end

theorem placesOf_eq (key : String) (r : Resource) :
    placesOf key r = ⟨[], key, r⟩ :: (places r.children).map (Place.below key r) := by
  cases r
  rfl

theorem places_cons (key : String) (r : Resource) (rest : List (String × Resource)) :
    places ((key, r) :: rest) = placesOf key r ++ places rest := rfl

/-- What holds of no resources, and of a forest whenever it holds of the resources below its first
one and of the others, holds of every forest. -/
theorem forest_induction {motive : List (String × Resource) → Prop} (nil : motive [])
    (cons : ∀ key r rest, motive r.children → motive rest → motive ((key, r) :: rest))
    (forest : List (String × Resource)) : motive forest := by
  refine places.induct (fun _ r => motive r.children) motive ?_ nil ?_ forest
  · intro key displayName description uriParameters actions children below
    exact below
  · intro key r rest below others
    exact cons key r rest below others

mutual

def resourceCountAt : Resource → Nat
  | ⟨_, _, _, _, children⟩ => resourceCount children + 1

def resourceCount : List (String × Resource) → Nat
  | [] => 0
  | (_, r) :: rest => resourceCountAt r + resourceCount rest

end

theorem resourceCountAt_eq (r : Resource) : resourceCountAt r = resourceCount r.children + 1 := by
  cases r
  rfl

/-- Every resource has one place. -/
theorem length_places (forest : List (String × Resource)) :
    (places forest).length = resourceCount forest := by
  induction forest using forest_induction with
  | nil => rfl
  | cons key r rest ihBelow ihRest =>
    rw [places_cons, placesOf_eq, List.length_append, List.length_cons, List.length_map, ihBelow,
      ihRest, resourceCount, resourceCountAt_eq]

/-- A sequence of keys leads from a forest down to a resource. -/
inductive Leads : List (String × Resource) → List String → Resource → Prop
  | here {forest key r} : (key, r) ∈ forest → Leads forest [key] r
  | deeper {forest key r keys s} : (key, r) ∈ forest → Leads r.children keys s →
      Leads forest (key :: keys) s

theorem Leads.cons {forest : List (String × Resource)} {keys : List String} {s : Resource}
    (h : Leads forest keys s) (q : String × Resource) : Leads (q :: forest) keys s := by
  cases h with
  | here hmem => exact .here (List.mem_cons_of_mem q hmem)
  | deeper hmem hs => exact .deeper (List.mem_cons_of_mem q hmem) hs

theorem Leads.head {forest : List (String × Resource)} {keys : List String} {s : Resource}
    (h : Leads forest keys s) :
    ∃ key r rest, (key, r) ∈ forest ∧ keys = key :: rest := by
  cases h with
  | here hmem => exact ⟨_, _, [], hmem, rfl⟩
  | deeper hmem _ => exact ⟨_, _, _, hmem, rfl⟩

theorem Leads.forest_ne_nil {forest : List (String × Resource)} {keys : List String}
    {s : Resource} (h : Leads forest keys s) : forest ≠ [] := by
  obtain ⟨key, r, rest, hmem, _⟩ := h.head
  exact List.ne_nil_of_mem hmem

/-- The places of a forest are its addresses. -/
theorem leads_of_mem_places {forest : List (String × Resource)} {p : Place}
    (h : p ∈ places forest) : Leads forest p.keys p.resource := by
  induction forest using forest_induction generalizing p with
  | nil => exact absurd h List.not_mem_nil
  | cons key r rest ihBelow ihRest =>
    rw [places_cons, placesOf_eq] at h
    rcases List.mem_append.mp h with first | after
    · rcases List.mem_cons.mp first with rfl | inside
      · exact .here List.mem_cons_self
      · obtain ⟨q, hq, rfl⟩ := List.mem_map.mp inside
        exact .deeper List.mem_cons_self (ihBelow hq)
    · exact (ihRest after).cons (key, r)

/-- Every resource on the way down to a place has an address itself. -/
theorem leads_of_mem_way {forest : List (String × Resource)} {p : Place} (h : p ∈ places forest)
    {q : String × Resource} (hq : q ∈ p.way) : ∃ keys, Leads forest keys q.2 := by
  induction forest using forest_induction generalizing p with
  | nil => exact absurd h List.not_mem_nil
  | cons key r rest ihBelow ihRest =>
    rw [places_cons, placesOf_eq] at h
    rcases List.mem_append.mp h with first | after
    · rcases List.mem_cons.mp first with rfl | inside
      · rcases List.mem_singleton.mp hq with rfl
        exact ⟨[key], .here List.mem_cons_self⟩
      · obtain ⟨s, hs, rfl⟩ := List.mem_map.mp inside
        rcases List.mem_cons.mp hq with rfl | hq
        · exact ⟨[key], .here List.mem_cons_self⟩
        · obtain ⟨keys, leads⟩ := ihBelow hs hq
          exact ⟨key :: keys, .deeper List.mem_cons_self leads⟩
    · obtain ⟨keys, leads⟩ := ihRest after hq
      exact ⟨keys, leads.cons (key, r)⟩

theorem mem_places_of_leads {forest : List (String × Resource)} {keys : List String}
    {s : Resource} (h : Leads forest keys s) :
    ∃ p ∈ places forest, p.keys = keys ∧ p.resource = s := by
  induction forest using forest_induction generalizing keys s with
  | nil =>
    cases h with
    | here hmem => cases hmem
    | deeper hmem _ => cases hmem
  | cons key r rest ihBelow ihRest =>
    rw [places_cons, placesOf_eq]
    have later (hrest : Leads rest keys s) :
        ∃ p ∈ ⟨[], key, r⟩ :: (places r.children).map (Place.below key r) ++ places rest,
          p.keys = keys ∧ p.resource = s := by
      obtain ⟨p, hp, same⟩ := ihRest hrest
      exact ⟨p, List.mem_append_right _ hp, same⟩
    cases h with
    | here hmem =>
      rcases List.mem_cons.mp hmem with first | hmem
      · cases first
        exact ⟨⟨[], key, r⟩, List.mem_append_left _ List.mem_cons_self, rfl, rfl⟩
      · exact later (.here hmem)
    | deeper hmem hs =>
      rcases List.mem_cons.mp hmem with first | hmem
      · cases first
        obtain ⟨p, hp, hkeys, hresource⟩ := ihBelow hs
        refine ⟨p.below key r, List.mem_append_left _ (List.mem_cons_of_mem _ ?_), ?_, hresource⟩
        · exact List.mem_map_of_mem hp
        · exact congrArg (key :: ·) hkeys
      · exact later (.deeper hmem hs)

end RamlBridge.Raml
