import RamlBridge.Proofs.Conversion.SchemaPositions
import RamlBridge.Proofs.Json.Tree
import RamlBridge.Validation.Basic

/-!
The paths into a schema. Stripping cuts off what stands at a mark and below it, and leaves every
other path with the scalar, the length or the names that it leads to.
-/
namespace RamlBridge.Conversion

/-- What a value is within a schema: a schema itself, or an object that gives names to schemas. -/
inductive Role where
  | schema
  | names
deriving DecidableEq

/-- Whether a member under a name is part of an object that has a role; a mark is not. -/
def Role.keeps : Role → String → Bool
  | .schema, name => name ≠ "required"
  | .names, _ => true

def Role.below (role : Role) (name : String) (x : Json) : Role :=
  match role, x with
  | .schema, .object _ => if name ∈ namedSchemaKeys then .names else .schema
  | _, _ => .schema

inductive Leads : Json → List Step → Json → Prop
  | here (v) : Leads v [] v
  | item {items n x path y} : items[n]? = some x → Leads x path y →
      Leads (.array items) (.index n :: path) y
  | member {members name x path y} : (name, x) ∈ members → Leads x path y →
      Leads (.object members) (.key name :: path) y

/-- A path that passes no mark, from a value that has a role to one that has a role. -/
inductive LeadsUnmarked : Role → Json → List Step → Role → Json → Prop
  | here (role v) : LeadsUnmarked role v [] role v
  | item {role items n x path last y} : items[n]? = some x →
      LeadsUnmarked .schema x path last y →
      LeadsUnmarked role (.array items) (.index n :: path) last y
  | member {role members name x path last y} : (name, x) ∈ members → role.keeps name = true →
      LeadsUnmarked (role.below name x) x path last y →
      LeadsUnmarked role (.object members) (.key name :: path) last y

/-- The path of a `required` key of an object at a schema position. -/
def IsMark (v : Json) (path : List Step) : Prop :=
  ∃ above members, path = above ++ [.key "required"] ∧
    LeadsUnmarked .schema v above .schema (.object members) ∧
    "required" ∈ Entries.names members

def PassesMark (v : Json) (path : List Step) : Prop :=
  ∃ mark, IsMark v mark ∧ mark <+: path

/-- What stays of a value that has a role: a scalar, the length of an array, the names of an object
in their order, but for the mark of a schema. -/
def Keeps (role : Role) : Json → Json → Prop
  | .array xs, .array ys => ys.length = xs.length
  | .object ms, .object ns => Entries.names ns = (Entries.names ms).filter role.keeps
  | x, y => y = x

section Stripping

def stripAs : Role → Json → Json
  | .schema, v => stripRequired v
  | .names, v => stripNamed v

theorem stripAs_array (role : Role) (items : List Json) :
    stripAs role (.array items) = .array (items.map stripRequired) := by
  rw [← stripItems_eq]
  cases role <;> rfl

theorem stripUnder_eq (name : String) (x : Json) :
    stripUnder name x = stripAs (Role.below .schema name x) x := by
  unfold stripUnder
  cases x with
  | object members =>
    by_cases named : name ∈ namedSchemaKeys
    · simp only [Role.below, if_pos named, stripAs]
    · simp only [Role.below, if_neg named, stripAs]
  | _ => exact ite_self _

theorem stripAs_object (role : Role) (members : Entries Json) :
    stripAs role (.object members) =
      .object ((members.filter fun m => role.keeps m.1).map fun m =>
        (m.1, stripAs (role.below m.1 m.2) m.2)) := by
  cases role with
  | schema =>
    simp only [stripAs, stripRequired, stripMembers_eq, stripUnder_eq]
    rfl
  | names =>
    have all : members.filter (fun m => Role.names.keeps m.1) = members :=
      List.filter_eq_self.mpr fun _ _ => rfl
    rw [all, stripAs, stripNamed, stripEach_eq]
    rfl

theorem keeps_stripAs (role : Role) (v : Json) : Keeps role v (stripAs role v) := by
  cases v with
  | array items =>
    rw [stripAs_array]
    exact List.length_map _
  | object members =>
    rw [stripAs_object, Keeps, Entries.names, Entries.names, List.map_map, List.filter_map]
    rfl
  | _ => cases role <;> rfl

theorem source_of_stripAs_array {role : Role} {v : Json} {items : List Json}
    (h : stripAs role v = .array items) :
    ∃ xs : List Json, v = .array xs ∧ items = xs.map stripRequired := by
  cases v with
  | array xs =>
    rw [stripAs_array] at h
    cases h
    exact ⟨xs, rfl, rfl⟩
  | _ => cases role <;> cases h

theorem source_of_stripAs_object {role : Role} {v : Json} {members : Entries Json}
    (h : stripAs role v = .object members) :
    ∃ ms : Entries Json, v = .object ms ∧ members = (ms.filter fun m => role.keeps m.1).map
      fun m => (m.1, stripAs (role.below m.1 m.2) m.2) := by
  cases v with
  | object ms =>
    rw [stripAs_object] at h
    cases h
    exact ⟨ms, rfl, rfl⟩
  | _ => cases role <;> cases h

end Stripping

section Paths

variable {role last : Role} {v x y : Json} {path : List Step}

theorem LeadsUnmarked.leads (h : LeadsUnmarked role v path last y) : Leads v path y := by
  induction h with
  | here role v => exact .here v
  | item hx _ ih => exact .item hx ih
  | member hx _ _ ih => exact .member hx ih

/-- What a path leads to that passes no mark is still there, stripped. -/
theorem LeadsUnmarked.stripped (h : LeadsUnmarked role v path last y) :
    Leads (stripAs role v) path (stripAs last y) := by
  induction h with
  | here role v => exact .here _
  | item hx _ ih =>
    rw [stripAs_array]
    refine .item ?_ ih
    rw [List.getElem?_map, hx]
    rfl
  | member hx keeps _ ih =>
    rw [stripAs_object]
    refine .member ?_ ih
    exact List.mem_map.mpr ⟨_, List.mem_filter.mpr ⟨hx, keeps⟩, rfl⟩

/-- Every path of a stripped value is one of the value itself that passes no mark. -/
theorem source_of_leads_stripAs (h : Leads (stripAs role v) path y) :
    ∃ last x, LeadsUnmarked role v path last x ∧ y = stripAs last x := by
  generalize made : stripAs role v = w at h
  induction h generalizing role v with
  | here w => exact ⟨role, v, .here role v, made.symm⟩
  | item hx _ ih =>
    obtain ⟨xs, rfl, rfl⟩ := source_of_stripAs_array made
    rw [List.getElem?_map] at hx
    obtain ⟨x, found, rfl⟩ := Option.map_eq_some_iff.mp hx
    have stripped : stripAs .schema x = stripRequired x := rfl
    obtain ⟨last, z, leads, same⟩ := ih stripped
    exact ⟨last, z, .item found leads, same⟩
  | member hx _ ih =>
    obtain ⟨ms, rfl, rfl⟩ := source_of_stripAs_object made
    obtain ⟨m, hm, same⟩ := List.mem_map.mp hx
    obtain ⟨inside, keeps⟩ := List.mem_filter.mp hm
    cases same
    obtain ⟨last, z, leads, same⟩ := ih rfl
    exact ⟨last, z, .member inside keeps leads, same⟩

/-- A path either passes no mark or goes on behind one. -/
theorem Leads.unmarked_or (h : Leads v path y) (role : Role) :
    (∃ last, LeadsUnmarked role v path last y) ∨
      ∃ above members below, path = above ++ .key "required" :: below ∧
        LeadsUnmarked role v above .schema (.object members) ∧
        "required" ∈ Entries.names members := by
  induction h generalizing role with
  | here v => exact Or.inl ⟨role, .here role v⟩
  | @item items n x path y hx _ ih =>
    rcases ih .schema with ⟨last, leads⟩ | ⟨above, members, below, rfl, leads, marked⟩
    · exact Or.inl ⟨last, .item hx leads⟩
    · exact Or.inr ⟨.index n :: above, members, below, rfl, .item hx leads, marked⟩
  | @member ms name x path y hx _ ih =>
    by_cases keeps : role.keeps name = true
    · rcases ih (role.below name x) with ⟨last, leads⟩ | ⟨above, members, below, rfl, leads, marked⟩
      · exact Or.inl ⟨last, .member hx keeps leads⟩
      · exact Or.inr ⟨.key name :: above, members, below, rfl, .member hx keeps leads, marked⟩
    · cases role with
      | names => exact absurd rfl keeps
      | schema =>
        have mark : name = "required" := by simpa [Role.keeps] using keeps
        subst mark
        exact Or.inr ⟨[], ms, path, rfl, .here _ _, List.mem_map_of_mem hx⟩

/-- The role of an object is told by the path alone, also where a name stands twice. -/
theorem LeadsUnmarked.role_eq {w : Json} {other first second : Role} {ms ns : Entries Json}
    (h : LeadsUnmarked role v path first (.object ms))
    (again : LeadsUnmarked other w path second (.object ns))
    (start : ∀ as bs, v = .object as → w = .object bs → role = other) : first = second := by
  generalize hy : Json.object ms = y at h
  induction h generalizing other w with
  | here role v =>
    cases again with
    | here => exact start ms ns hy.symm rfl
  | item _ _ ih =>
    cases again with
    | item _ rest => exact ih rest (fun _ _ _ _ => rfl) hy
  | member _ _ _ ih =>
    cases again with
    | member _ _ rest =>
      refine ih rest ?_ hy
      rintro as bs rfl rfl
      rw [start _ _ rfl rfl]
      cases other <;> rfl

theorem LeadsUnmarked.split {above below : List Step}
    (h : LeadsUnmarked role v (above ++ below) last y) :
    ∃ middle x, LeadsUnmarked role v above middle x ∧ LeadsUnmarked middle x below last y := by
  induction above generalizing role v with
  | nil => exact ⟨role, v, .here role v, h⟩
  | cons step above ih =>
    cases h with
    | item hx rest =>
      obtain ⟨middle, x, first, second⟩ := ih rest
      exact ⟨middle, x, .item hx first, second⟩
    | member hx keeps rest =>
      obtain ⟨middle, x, first, second⟩ := ih rest
      exact ⟨middle, x, .member hx keeps first, second⟩

theorem LeadsUnmarked.not_passesMark (h : LeadsUnmarked .schema v path last y) :
    ¬ PassesMark v path := by
  rintro ⟨_, ⟨above, members, rfl, leads, _⟩, below, rfl⟩
  rw [List.append_assoc] at h
  obtain ⟨middle, x, first, second⟩ := h.split
  cases second with
  | member _ keeps _ =>
    rw [← leads.role_eq first fun _ _ _ _ => rfl] at keeps
    exact absurd keeps (by decide)

end Paths

section Marks

/-- Where a value stands that has a role: at a schema position, or around schemas at some. -/
def IsPositioned (root : Json) : Role → Json → Prop
  | .schema, v => SchemaPosition root v
  | .names, v => ∃ schemas : Entries Json, v = .object schemas ∧
      ∀ m ∈ schemas, SchemaPosition root m.2

theorem IsPositioned.item {root : Json} {role : Role} {items : List Json} {n : Nat} {x : Json}
    (h : IsPositioned root role (.array items)) (hx : items[n]? = some x) :
    SchemaPosition root x := by
  cases role with
  | schema => exact SchemaPosition.item h (List.mem_of_getElem? hx)
  | names =>
    obtain ⟨schemas, same, _⟩ := h
    cases same

theorem IsPositioned.member {root : Json} {role : Role} {members : Entries Json} {name : String}
    {x : Json} (h : IsPositioned root role (.object members)) (hx : (name, x) ∈ members)
    (keeps : role.keeps name = true) : IsPositioned root (role.below name x) x := by
  cases role with
  | names =>
    obtain ⟨schemas, same, each⟩ := h
    cases same
    exact each _ hx
  | schema =>
    have unmarked : name ≠ "required" := of_decide_eq_true keeps
    cases x with
    | object schemas =>
      by_cases named : name ∈ namedSchemaKeys
      · rw [Role.below, if_pos named]
        exact ⟨schemas, rfl, fun m hm => SchemaPosition.named h hx named hm⟩
      · rw [Role.below, if_neg named]
        exact SchemaPosition.member h hx unmarked fun free => absurd free named
    | _ => exact SchemaPosition.member h hx unmarked fun _ _ same => by cases same

theorem LeadsUnmarked.isPositioned {root v y : Json} {role last : Role} {path : List Step}
    (h : LeadsUnmarked role v path last y) (start : IsPositioned root role v) :
    IsPositioned root last y := by
  induction h with
  | here => exact start
  | item hx _ ih => exact ih (start.item hx)
  | member hx keeps _ ih => exact ih (start.member hx keeps)

theorem not_isMark_of_isUnmarked {v : Json} (h : IsUnmarked v) (path : List Step) :
    ¬ IsMark v path := by
  rintro ⟨above, members, rfl, leads, marked⟩
  exact h members (leads.isPositioned .self) marked

/-- A value without marks is stripped already. -/
theorem stripAs_eq_self {role : Role} {v : Json}
    (h : ∀ above members, LeadsUnmarked role v above .schema (.object members) →
      "required" ∉ Entries.names members) : stripAs role v = v := by
  induction v using Json.tree_induction generalizing role with
  | null | bool | int | float | text => cases role <;> rfl
  | array items ih =>
    have each : ∀ x ∈ items, stripRequired x = x := by
      intro x hx
      obtain ⟨n, found⟩ := List.mem_iff_getElem?.mp hx
      have fixed : stripAs .schema x = x :=
        ih x hx fun above members leads => h _ members (.item found leads)
      exact fixed
    rw [stripAs_array, List.map_congr_left each, List.map_id']
  | object members ih =>
    have all : ∀ m ∈ members, role.keeps m.1 = true := by
      intro m hm
      cases role with
      | names => rfl
      | schema =>
        refine decide_eq_true fun mark => h [] members (.here _ _) ?_
        exact mark ▸ List.mem_map_of_mem hm
    have each : ∀ m ∈ members, (m.1, stripAs (role.below m.1 m.2) m.2) = m := by
      intro m hm
      rw [ih m hm fun above ms leads => h _ ms (.member hm (all m hm) leads)]
    rw [stripAs_object, List.filter_eq_self.mpr all, List.map_congr_left each, List.map_id']

end Marks

/-- Stripping takes away the marks and nothing else. A stripped value has none; a value is its own
stripped form just if it has none, so that stripping again changes nothing. The paths of a stripped
value are those of the value that pass no mark, and each leads to the same scalar, to an array of
the same length or to the same names in their order, but for the marks. Where names are free to
choose, all of them stay. -/
theorem stripRequired_removes_marks (v : Json) :
    (∀ path, ¬ IsMark (stripRequired v) path) ∧
    (stripRequired v = v ↔ ∀ path, ¬ IsMark v path) ∧
    stripRequired (stripRequired v) = stripRequired v ∧
    (∀ path x, Leads v path x → ¬ PassesMark v path →
      ∃ role y, LeadsUnmarked .schema v path role x ∧ Leads (stripRequired v) path y ∧
        Keeps role x y) ∧
    (∀ path y, Leads (stripRequired v) path y → ¬ PassesMark v path ∧
      ∃ role x, Leads v path x ∧ LeadsUnmarked .schema v path role x ∧ Keeps role x y) ∧
    ∀ path members, LeadsUnmarked .schema v path .names (.object members) →
      ∃ kept, Leads (stripRequired v) path (.object kept) ∧
        Entries.names kept = Entries.names members := by
  have clean (w : Json) : ∀ path, ¬ IsMark (stripRequired w) path :=
    not_isMark_of_isUnmarked (isUnmarked_stripRequired w)
  have same {w : Json} (h : ∀ path, ¬ IsMark w path) : stripRequired w = w := by
    have fixed : stripAs .schema w = w := stripAs_eq_self fun above members leads marked =>
      h _ ⟨above, members, rfl, leads, marked⟩
    exact fixed
  refine ⟨clean v, ⟨fun fixed => fixed ▸ clean v, same⟩, same (clean v), ?_, ?_, ?_⟩
  · intro path x leads passes
    rcases leads.unmarked_or .schema with ⟨role, unmarked⟩ | ⟨above, members, below, rfl, h, marked⟩
    · exact ⟨role, stripAs role x, unmarked, unmarked.stripped, keeps_stripAs role x⟩
    · refine absurd ⟨_, ⟨above, members, rfl, h, marked⟩, below, ?_⟩ passes
      rw [List.append_assoc, List.singleton_append]
  · intro path y leads
    have stripped : Leads (stripAs .schema v) path y := leads
    obtain ⟨role, x, unmarked, rfl⟩ := source_of_leads_stripAs stripped
    exact ⟨unmarked.not_passesMark, role, x, unmarked.leads, unmarked, keeps_stripAs role x⟩
  · intro path members unmarked
    have kept := unmarked.stripped
    rw [stripAs_object] at kept
    refine ⟨_, kept, ?_⟩
    have names := keeps_stripAs .names (.object members)
    rw [stripAs_object] at names
    exact names.trans (List.filter_eq_self.mpr fun _ _ => rfl)

-- Below `properties` the word is a name, and below that name it is a mark again.
example :
    stripRequired (.object [("properties", .object [
      ("required", .object [("type", .text "string"), ("required", .bool true)])])]) =
    .object [("properties", .object [("required", .object [("type", .text "string")])])] := rfl

end RamlBridge.Conversion
