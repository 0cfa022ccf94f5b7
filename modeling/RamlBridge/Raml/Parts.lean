import RamlBridge.Raml.Declaration

/-!
The entries of a resource by what they declare: keys that begin with a slash are the resources
below it and keys that name a method are its actions. Both may also stand in groups of their own.
What is read as a resource below another one is always smaller than it.
-/
namespace RamlBridge.Raml

open Checked

def methods : List String :=
  ["get", "post", "put", "delete", "head", "patch", "options", "trace", "connect"]

/-- The members of a value that stands for a pair: those of a list, the characters of a text, the
keys of a map. -/
def pairParts? : Datum → Option (List Datum)
  | .list items => some items
  | .pair a b => some [a, b]
  | .set members => some (members.map .scalar)
  | .map es => some (es.map fun p => .scalar p.1)
  | .scalar (.text s) => some (s.toList.map fun c => .text (String.singleton c))
  | .scalar (.bytes content) => some (content.map fun b => .scalar (.int b.toNat))
  | .scalar _ => none

/-- The entry that a pair stands for; its index is told where it is none. -/
def pairEntry (index : Nat) (d : Datum) : Checked (Scalar × Datum) :=
  match pairParts? d with
  | some [first, value] =>
    match first.key? with
    | some key => .accepted (key, value)
    | none => .stopped .unhashableKey
  | some parts =>
    fault (.unfit ("dictionary update sequence element #" ++ Decimal.text index ++
      " has length " ++ Decimal.text parts.length ++ "; 2 is required"))
  | none => .stopped .notIterable

def pairEntries (index : Nat) : List Datum → Checked (List (Scalar × Datum))
  | [] => .accepted []
  | d :: rest =>
    (pairEntry index d).andThen fun p => map (p :: ·) (pairEntries (index + 1) rest)

/-- The entries that a value stands for: those of a map, or those of a list of pairs. -/
def looseEntries (d : Datum) : Checked (List (Scalar × Datum)) :=
  match orEmpty d with
  | .map es => .accepted es
  | .scalar (.int _) | .scalar (.bool _) | .scalar (.float _) => .stopped .notIterable
  | other =>
    match pairParts? other with
    | some parts => map Datum.ofPairs (pairEntries 0 parts)
    | none => .stopped .notIterable

def isPath : Scalar → Bool
  | .text s => s.toList.head? == some '/'
  | _ => false

def method? : Scalar → Option String
  | .text s => if Text.lower s ∈ methods then some (Text.lower s) else none
  | _ => none

def isGroup : Scalar → Bool
  | .text s => s == "resources" || s == "actions"
  | _ => false

/-- The entries of a resource by what they declare: resources below it, actions, and the fields
of its own. -/
structure Parts where
  resources : List (Scalar × Datum)
  actions : List (Scalar × Datum)
  fields : List (Scalar × Datum)

def Parts.add (parts : Parts) (p : Scalar × Datum) : Parts :=
  if isGroup p.1 then parts
  else if isPath p.1 then { parts with resources := Datum.putKey parts.resources p.1 (orEmpty p.2) }
  else
    match method? p.1 with
    | some name =>
      { parts with actions := Datum.putKey parts.actions (.text name) (orEmpty p.2) }
    | none => { parts with fields := parts.fields ++ [p] }

/-- The value of a group of entries: null if it is not there. -/
def group (es : List (Scalar × Datum)) (name : String) : Datum :=
  (Datum.lookup? es name).getD .null

/-- Sorts the entries of a resource; the groups come before the keys of the resource itself. -/
def Parts.ofEntries (es : List (Scalar × Datum)) : Checked Parts :=
  (looseEntries (group es "resources")).andThen fun resources =>
    map (fun actions => es.foldl Parts.add ⟨resources, actions, []⟩)
      (looseEntries (group es "actions"))

def MapsBelow (bound : Nat) (ps : List (Scalar × Datum)) : Prop :=
  ∀ p ∈ ps, ∀ sub, p.2 = .map sub → sizeOf sub < bound

theorem MapsBelow.putKey {bound : Nat} {ps : List (Scalar × Datum)} {k : Scalar} {d : Datum}
    (h : MapsBelow bound ps) (hd : ∀ sub, d = .map sub → sizeOf sub < bound) :
    MapsBelow bound (Datum.putKey ps k d) :=
  Datum.forall_putKey (P := fun v => ∀ sub, v = .map sub → sizeOf sub < bound) h hd

theorem MapsBelow.ofPairs {bound : Nat} {ps : List (Scalar × Datum)} (h : MapsBelow bound ps) :
    MapsBelow bound (Datum.ofPairs ps) :=
  Datum.forall_ofPairs (P := fun v => ∀ sub, v = .map sub → sizeOf sub < bound) h

theorem mapsBelow_of_sizeOf {ps : List (Scalar × Datum)} : MapsBelow (sizeOf ps) ps := by
  intro p hp sub hsub
  have := List.sizeOf_lt_of_mem hp
  obtain ⟨k, v⟩ := p
  subst hsub
  simp only [Prod.mk.sizeOf_spec, Datum.map.sizeOf_spec] at this
  omega

theorem mapsBelow_pairParts {d : Datum} {parts : List Datum} (h : pairParts? d = some parts)
    {sub : List (Scalar × Datum)} (hsub : .map sub ∈ parts) : sizeOf sub < sizeOf d := by
  cases d with
  | list items =>
    cases h
    have := List.sizeOf_lt_of_mem hsub
    simp only [Datum.map.sizeOf_spec, Datum.list.sizeOf_spec] at this ⊢
    omega
  | pair a b =>
    cases h
    rcases List.mem_cons.1 hsub with rfl | hsub
    · simp only [Datum.map.sizeOf_spec, Datum.pair.sizeOf_spec]; omega
    · rw [List.mem_singleton.1 hsub |>.symm]
      simp only [Datum.map.sizeOf_spec, Datum.pair.sizeOf_spec]; omega
  | set members => cases h; simp at hsub
  | map es => cases h; simp at hsub
  | scalar s => cases s <;> simp_all [pairParts?] <;> (subst h; simp [Datum.text] at hsub)

theorem scalar_pairParts {s : Scalar} {parts : List Datum} (h : pairParts? (.scalar s) = some parts)
    {d : Datum} (hd : d ∈ parts) : ∃ t, d = .scalar t := by
  cases s <;> simp_all [pairParts?] <;> (subst h; simp [Datum.text] at hd)
  · obtain ⟨c, _, rfl⟩ := hd; exact ⟨_, rfl⟩
  · obtain ⟨b, _, rfl⟩ := hd; exact ⟨_, rfl⟩

/-- Two steps down from a value, a map is smaller than the value. -/
theorem mapsBelow_pairParts_twice {d : Datum} {parts : List Datum} (h : pairParts? d = some parts)
    {e : Datum} (he : e ∈ parts) {inner : List Datum} (hinner : pairParts? e = some inner)
    {sub : List (Scalar × Datum)} (hsub : .map sub ∈ inner) : sizeOf sub < sizeOf d := by
  have below := mapsBelow_pairParts hinner hsub
  have scalars : ∀ t, e = .scalar t → False := by
    rintro t rfl
    obtain ⟨u, hu⟩ := scalar_pairParts hinner hsub
    cases hu
  cases d with
  | list items =>
    cases h
    have := List.sizeOf_lt_of_mem he
    simp only [Datum.list.sizeOf_spec]
    omega
  | pair a b =>
    cases h
    simp only [List.mem_cons, List.not_mem_nil, or_false] at he
    rcases he with rfl | rfl <;> (simp only [Datum.pair.sizeOf_spec]; omega)
  | set members =>
    cases h
    obtain ⟨s, _, rfl⟩ := List.mem_map.1 he
    exact (scalars s rfl).elim
  | map es =>
    cases h
    obtain ⟨p, _, rfl⟩ := List.mem_map.1 he
    exact (scalars _ rfl).elim
  | scalar s =>
    obtain ⟨t, rfl⟩ := scalar_pairParts h he
    exact (scalars t rfl).elim

theorem mapsBelow_pairEntries {bound : Nat} {parts : List Datum}
    (h : ∀ d ∈ parts, ∀ inner, pairParts? d = some inner →
      ∀ sub, .map sub ∈ inner → sizeOf sub < bound) :
    ∀ {index : Nat} {ps : List (Scalar × Datum)}, pairEntries index parts = .accepted ps →
      MapsBelow bound ps := by
  induction parts with
  | nil =>
    intro index ps hps
    cases hps
    simp [MapsBelow]
  | cons d rest ih =>
    intro index ps hps
    simp only [pairEntries, andThen] at hps
    split at hps
    · rename_i p hp
      cases hrest : pairEntries (index + 1) rest with
      | accepted tail =>
        rw [hrest] at hps
        cases hps
        intro q hq
        rcases List.mem_cons.1 hq with rfl | hq
        · intro sub hsub
          simp only [pairEntry] at hp
          split at hp
          · rename_i first value hparts
            split at hp
            · cases hp
              exact h d List.mem_cons_self _ hparts sub (by simp [← hsub])
            · cases hp
          all_goals simp [fault] at hp
        · exact ih (fun e he => h e (List.mem_cons_of_mem _ he)) hrest q hq
      | refused faults => rw [hrest] at hps; cases hps
      | stopped obstacle => rw [hrest] at hps; cases hps
    · cases hps
    · cases hps

theorem mapsBelow_looseEntries {d : Datum} {ps : List (Scalar × Datum)}
    (h : looseEntries d = .accepted ps) : MapsBelow (sizeOf d) ps := by
  have loose : ∀ parts, pairParts? d = some parts →
      map Datum.ofPairs (pairEntries 0 parts) = .accepted ps → MapsBelow (sizeOf d) ps := by
    intro parts hparts hps
    cases hpairs : pairEntries 0 parts with
    | accepted qs =>
      rw [hpairs] at hps
      cases hps
      exact (mapsBelow_pairEntries (fun e he inner hinner sub hsub =>
        mapsBelow_pairParts_twice hparts he hinner hsub) hpairs).ofPairs
    | refused faults => rw [hpairs] at hps; cases hps
    | stopped obstacle => rw [hpairs] at hps; cases hps
  cases d with
  | map es =>
    cases h
    intro p hp sub hsub
    have := mapsBelow_of_sizeOf p hp sub hsub
    simp only [Datum.map.sizeOf_spec]
    omega
  | list items => exact loose _ rfl h
  | pair a b => exact loose _ rfl h
  | set members => exact loose _ rfl h
  | scalar s =>
    cases s with
    | null => cases h; simp [MapsBelow]
    | text t => exact loose _ rfl h
    | bytes content => exact loose _ rfl h
    | bool | int | float | date | clock | moment | pair => cases h

theorem sizeOf_lookup {es : List (Scalar × Datum)} {name : String} {d : Datum}
    (h : Datum.lookup? es name = some d) : sizeOf d < sizeOf es := by
  induction es with
  | nil => cases h
  | cons p rest ih =>
    obtain ⟨k, v⟩ := p
    simp only [Datum.lookup?] at h
    split at h
    · cases h
      simp only [List.cons.sizeOf_spec, Prod.mk.sizeOf_spec]
      omega
    · have := ih h
      simp only [List.cons.sizeOf_spec]
      omega

theorem mapsBelow_add {bound : Nat} {parts : Parts} {p : Scalar × Datum}
    (h : MapsBelow bound parts.resources) (hp : ∀ sub, p.2 = .map sub → sizeOf sub < bound)
    (empty : sizeOf ([] : List (Scalar × Datum)) < bound) :
    MapsBelow bound (parts.add p).resources := by
  simp only [Parts.add]
  split
  · exact h
  · split
    · refine h.putKey fun sub hsub => ?_
      cases hd : p.2 with
      | scalar s =>
        cases s with
        | null => rw [hd] at hsub; cases hsub; exact empty
        | bool | int | float | text | bytes | date | clock | moment | pair =>
          rw [hd] at hsub; cases hsub
      | map es => rw [hd] at hsub; cases hsub; exact hp _ hd
      | list | pair | set => rw [hd] at hsub; cases hsub
    · split <;> exact h

/-- Every resource directly below a resource is read from fewer entries. -/
theorem mapsBelow_parts {es : List (Scalar × Datum)} {parts : Parts}
    (h : Parts.ofEntries es = .accepted parts) : MapsBelow (sizeOf es) parts.resources := by
  have folded : ∀ (ps : List (Scalar × Datum)) (start : Parts), (∀ p ∈ ps, p ∈ es) →
      MapsBelow (sizeOf es) start.resources →
      MapsBelow (sizeOf es) (ps.foldl Parts.add start).resources := by
    intro ps
    induction ps with
    | nil => exact fun start _ hstart => hstart
    | cons p rest ih =>
      intro start hmem hstart
      have hp := hmem p List.mem_cons_self
      refine ih _ (fun q hq => hmem q (List.mem_cons_of_mem _ hq)) (mapsBelow_add hstart ?_ ?_)
      · exact mapsBelow_of_sizeOf p hp
      · cases es with
        | nil => cases hp
        | cons q qs =>
          obtain ⟨k, v⟩ := q
          simp only [List.cons.sizeOf_spec, List.nil.sizeOf_spec, Prod.mk.sizeOf_spec]
          omega
  simp only [Parts.ofEntries, andThen] at h
  split at h
  · rename_i resources hresources
    cases hactions : looseEntries (group es "actions") with
    | accepted actions =>
      rw [hactions] at h
      cases h
      refine folded es _ (fun p hp => hp) ?_
      intro p hp sub hsub
      have := mapsBelow_looseEntries hresources p hp sub hsub
      simp only [group] at this
      cases hlookup : Datum.lookup? es "resources" with
      | none =>
        rw [group, hlookup] at hresources
        cases hresources
        cases hp
      | some d =>
        rw [hlookup] at this
        have := sizeOf_lookup hlookup
        simp only [Option.getD_some] at *
        omega
    | refused faults => rw [hactions] at h; cases h
    | stopped obstacle => rw [hactions] at h; cases h
  · cases h
  · cases h

end RamlBridge.Raml
