import RamlBridge.Proofs.Outcome
import RamlBridge.Proofs.Decimal.Binary64
import RamlBridge.Proofs.Json.Tree

/-!
What holds of a value that is read. No name stands twice in an object of it, because a later member
under a name takes the place of the one before it, its floating-point numbers are in their only
form, and its integers have not too many digits.
-/
namespace RamlBridge.Json

abbrev Distinct (v : Json) : Prop :=
  v.Everywhere IsDistinct

/-- A number is in its only form, or an integer that can be written, and the names of an object are
distinct. -/
def IsRegular : Json → Prop
  | .int n => Decimal.isShort n = true
  | .float x => x.IsNormal
  | .object members => (Entries.names members).Nodup
  | _ => True

/-- All numbers and objects of a value are as they are read. -/
abbrev Regular (v : Json) : Prop :=
  v.Everywhere IsRegular

theorem distinct_of_regular {v : Json} (h : v.Regular) : v.Distinct :=
  h.imp fun w hw => by
    cases w with
    | object members => exact hw
    | _ => trivial

/-- What is read can be written. -/
theorem isWritable_of_regular {v : Json} (h : v.Regular) : v.isWritable = true :=
  isWritable_iff.mpr <| h.imp fun w hw => by
    cases w with
    | int n => exact hw
    | _ => trivial

theorem regular_array {items : List Json} :
    (Json.array items).Regular ↔ ∀ x ∈ items, x.Regular :=
  everywhere_array.trans (and_iff_right trivial)

theorem regular_object {members : List (String × Json)} :
    (Json.object members).Regular ↔
      (Entries.names members).Nodup ∧ ∀ m ∈ members, m.2.Regular :=
  everywhere_object

theorem regular_numberTail {negative : Bool} {whole rest : List Char} {r : Json × List Char}
    (digits : ∀ c ∈ whole, c.isDigit = true) (h : numberTail negative whole rest = .ok r) :
    r.1.Regular := by
  unfold numberTail at h
  simp only at h
  split at h
  · split at h
    · cases h
    · next few =>
      cases h
      have short := Decimal.isShort_ofDigits digits (Nat.le_of_not_lt few)
      show Decimal.isShort _ = true
      split
      · rwa [Decimal.isShort_neg]
      · exact short
  · cases h
    exact Binary64.isNormal_ofDecimal _ _ _ _

theorem regular_number {cs : List Char} {r : Json × List Char} (h : number cs = .ok r) :
    r.1.Regular := by
  unfold number at h
  simp only at h
  split at h
  · exact regular_numberTail (List.forall_mem_singleton.mpr rfl) h
  · split at h
    · exact regular_numberTail (fun c hc => List.all_eq_true.mp List.all_takeWhile c hc) h
    · cases h
  · cases h

section Step

variable {fuel : Nat}

theorem regular_ofList {members : Entries Json} (h : ∀ m ∈ members, m.2.Regular) :
    (Json.object (Entries.ofList members)).Regular :=
  regular_object.mpr
    ⟨Entries.nodup_names_ofList members, fun m hm => h m (Entries.mem_ofList hm)⟩

theorem regular_value
    (itemsRead : ∀ cs r, items fuel cs = .ok r → ∀ x ∈ r.1, x.Regular)
    (membersRead : ∀ cs r, members fuel cs = .ok r → ∀ m ∈ r.1, m.2.Regular)
    {cs : List Char} {r : Json × List Char} (h : value (fuel + 1) cs = .ok r) : r.1.Regular := by
  unfold value at h
  split at h
  · obtain ⟨_, _, rfl⟩ := map_eq_ok h
    trivial
  · split at h
    · cases h
      exact regular_array.mpr fun x hx => absurd hx List.not_mem_nil
    · obtain ⟨p, read, rfl⟩ := map_eq_ok h
      exact regular_array.mpr (itemsRead _ p read)
  · split at h
    · cases h
      exact regular_object.mpr ⟨List.nodup_nil, fun m hm => absurd hm List.not_mem_nil⟩
    · obtain ⟨p, read, rfl⟩ := map_eq_ok h
      exact regular_ofList (membersRead _ p read)
  all_goals first
    | exact regular_number h
    | (cases h; trivial)

theorem regular_items (valueRead : ∀ cs r, value fuel cs = .ok r → r.1.Regular)
    (itemsRead : ∀ cs r, items fuel cs = .ok r → ∀ x ∈ r.1, x.Regular)
    {cs : List Char} {r : List Json × List Char} (h : items (fuel + 1) cs = .ok r) :
    ∀ x ∈ r.1, x.Regular := by
  unfold items at h
  obtain ⟨p, first, h⟩ := bind_eq_ok h
  simp only at h
  split at h
  · cases h
    exact List.forall_mem_singleton.mpr (valueRead _ p first)
  · obtain ⟨q, more, h⟩ := bind_eq_ok h
    cases h
    exact List.forall_mem_cons.mpr ⟨valueRead _ p first, itemsRead _ q more⟩
  · cases h

theorem regular_members (valueRead : ∀ cs r, value fuel cs = .ok r → r.1.Regular)
    (membersRead : ∀ cs r, members fuel cs = .ok r → ∀ m ∈ r.1, m.2.Regular)
    {cs : List Char} {r : List (String × Json) × List Char}
    (h : members (fuel + 1) cs = .ok r) : ∀ m ∈ r.1, m.2.Regular := by
  unfold members at h
  split at h
  · obtain ⟨p, _, h⟩ := bind_eq_ok h
    simp only at h
    split at h
    · obtain ⟨q, first, h⟩ := bind_eq_ok h
      split at h
      · cases h
        exact List.forall_mem_singleton.mpr (valueRead _ q first)
      · obtain ⟨others, more, h⟩ := bind_eq_ok h
        cases h
        exact List.forall_mem_cons.mpr ⟨valueRead _ q first, membersRead _ others more⟩
      · cases h
    · cases h
  · cases h

end Step

theorem regular_read (fuel : Nat) :
    (∀ cs r, value fuel cs = .ok r → r.1.Regular) ∧
    (∀ cs r, items fuel cs = .ok r → ∀ x ∈ r.1, x.Regular) ∧
    (∀ cs r, members fuel cs = .ok r → ∀ m ∈ r.1, m.2.Regular) := by
  induction fuel with
  | zero =>
    refine ⟨?_, ?_, ?_⟩
    all_goals
      intro cs r h
      cases h
  | succ fuel ih =>
    obtain ⟨valueRead, itemsRead, membersRead⟩ := ih
    exact ⟨fun _ _ => regular_value itemsRead membersRead,
      fun _ _ => regular_items valueRead itemsRead,
      fun _ _ => regular_members valueRead membersRead⟩

theorem regular_parse {text : String} {v : Json} (h : parse text = .ok v) : v.Regular := by
  unfold parse parseChars at h
  split at h
  · cases h
  · obtain ⟨p, read, h⟩ := bind_eq_ok h
    simp only at h
    split at h
    · cases h
      exact (regular_read _).1 _ p read
    · cases h

end RamlBridge.Json
