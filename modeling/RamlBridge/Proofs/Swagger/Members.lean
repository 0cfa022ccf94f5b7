import RamlBridge.Swagger.Listing
import RamlBridge.Proofs.Datum.Exact
import RamlBridge.Proofs.Json.Pointer

/-!
The members of an emitted object: the fields that are there, each under its name.
-/
namespace RamlBridge

namespace Json

theorem encodable_eq_null {v : Json} : v.encodable = .null ↔ v = .null := by
  cases v <;> simp [encodable]

end Json

namespace Swagger

/-- Names of fields: distinct, and written as they are. -/
def areFieldNames (names : List String) : Bool :=
  names.all (fun name => !Text.holdsHalf name) && decide names.Nodup

def given (fields : List (String × Option Json)) : Entries Json :=
  fields.filterMap fun p => p.2.map (Prod.mk p.1)

section Given

variable {fields : List (String × Option Json)}

theorem mem_given {name : String} {x : Json} :
    (name, x) ∈ given fields ↔ (name, some x) ∈ fields := by
  simp only [given, List.mem_filterMap, Option.map_eq_some_iff, Prod.mk.injEq]
  constructor
  · rintro ⟨⟨n, o⟩, hp, _, rfl, rfl, rfl⟩
    exact hp
  · intro h
    exact ⟨_, h, x, rfl, rfl, rfl⟩

theorem names_given_sublist : (given fields).names.Sublist (fields.map Prod.fst) := by
  induction fields with
  | nil => exact List.Sublist.refl []
  | cons p rest ih =>
    obtain ⟨name, _ | x⟩ := p
    · exact ih.cons name
    · exact ih.cons_cons name

theorem encodable_present (names : List String) (named : fields.map Prod.fst = names)
    (fieldNames : areFieldNames names = true) :
    (present fields).encodable = .object ((given fields).mapValues Json.encodable) := by
  subst named
  obtain ⟨whole, distinct⟩ := Bool.and_eq_true_iff.mp fieldNames
  have written :
      Json.encodableMembers (given fields) = (given fields).mapValues Json.encodable := by
    rw [Json.encodableMembers_eq]
    apply List.map_congr_left
    intro m hm
    have named : m.1 ∈ fields.map Prod.fst := names_given_sublist.subset (List.mem_map_of_mem hm)
    have plain := List.all_eq_true.mp whole m.1 named
    rw [Json.withoutHalves_of_whole (by simpa using plain)]
  have apart : ((given fields).mapValues Json.encodable).names.Nodup := by
    rw [Entries.names_mapValues]
    exact names_given_sublist.nodup (of_decide_eq_true distinct)
  change Json.encodable (.object (given fields)) = _
  rw [Json.encodable, written, Entries.ofList_of_nodup apart]

/-- What stands in an emitted object is a field that is there. -/
theorem mem_present (names : List String) (named : fields.map Prod.fst = names)
    (fieldNames : areFieldNames names = true) {members : Entries Json}
    (listed : (present fields).encodable = .object members) {name : String} {x : Json} :
    (name, x) ∈ members ↔ ∃ y, (name, some y) ∈ fields ∧ x = y.encodable := by
  rw [encodable_present names named fieldNames] at listed
  cases listed
  rw [Entries.mapValues, List.mem_map]
  constructor
  · rintro ⟨m, hm, same⟩
    cases same
    exact ⟨m.2, mem_given.mp hm, rfl⟩
  · rintro ⟨y, hy, rfl⟩
    exact ⟨(name, y), mem_given.mpr hy, rfl⟩

theorem null_mem_present (names : List String) (named : fields.map Prod.fst = names)
    (fieldNames : areFieldNames names = true) {members : Entries Json}
    (listed : (present fields).encodable = .object members) {name : String} :
    (name, Json.null) ∈ members ↔ (name, some Json.null) ∈ fields := by
  rw [mem_present names named fieldNames listed]
  constructor
  · rintro ⟨y, hy, null⟩
    rwa [← Json.encodable_eq_null.mp null.symm]
  · intro h
    exact ⟨.null, h, rfl⟩

/-- A token leads from an emitted object to the field of that name. -/
theorem source_of_child?_present (names : List String) (named : fields.map Prod.fst = names)
    (fieldNames : areFieldNames names = true) {name : String} {x : Json}
    (found : (present fields).encodable.child? name = some x) :
    ∃ y, (name, some y) ∈ fields ∧ x = y.encodable := by
  rw [encodable_present names named fieldNames] at found
  exact (mem_present names named fieldNames (encodable_present names named fieldNames)).mp
    (Entries.mem_of_find? found)

/-- An emitted object can be written if all of its fields can. -/
theorem isWritable_present (names : List String) (named : fields.map Prod.fst = names)
    (fieldNames : areFieldNames names = true) :
    (present fields).encodable.isWritable = true ↔
      ∀ p ∈ fields, ∀ x ∈ p.2, x.encodable.isWritable = true := by
  rw [encodable_present names named fieldNames, Json.isWritable, Json.membersWritable_eq,
    List.all_eq_true]
  constructor
  · rintro each ⟨name, _⟩ hp x rfl
    exact each (name, x.encodable) (List.mem_map_of_mem (mem_given.mpr hp))
  · intro each m hm
    obtain ⟨n, hn, rfl⟩ := List.mem_map.mp hm
    exact each (n.1, some n.2) (mem_given.mp hn) n.2 rfl

end Given

def documentNames : List String :=
  ["swagger", "info", "host", "basePath", "schemes", "paths", "definitions",
    "securityDefinitions"]

end Swagger

end RamlBridge
