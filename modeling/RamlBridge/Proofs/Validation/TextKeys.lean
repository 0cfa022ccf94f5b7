import RamlBridge.Proofs.Validation.Accepted
import RamlBridge.Raml.Declaration

/-!
Maps whose keys are all texts. They behave as named entries do, and a check of their values keeps
the names.
-/
namespace RamlBridge

open Checked

namespace Datum

def textKeyed (es : Entries Datum) : List (Scalar × Datum) :=
  es.map fun p => (.text p.1, p.2)

theorem sameKey_text (n name : String) :
    (Scalar.text n).sameKey (.text name) = true ↔ n = name := by
  have unfolded : (Scalar.text n).sameKey (.text name) = (Scalar.text n == .text name) := rfl
  rw [unfolded, beq_iff_eq, Scalar.text.injEq]

theorem putKey_textKeyed (es : Entries Datum) (name : String) (d : Datum) :
    putKey (textKeyed es) (.text name) d = textKeyed (es.put name d) := by
  induction es with
  | nil => rfl
  | cons p rest ih =>
    obtain ⟨n, v⟩ := p
    have unfolded : textKeyed ((n, v) :: rest) = (.text n, v) :: textKeyed rest := rfl
    by_cases same : n = name
    · rw [unfolded, putKey, if_pos ((sameKey_text n name).mpr same), Entries.put, if_pos same]
      rfl
    · rw [unfolded, putKey, if_neg fun h => same ((sameKey_text n name).mp h), Entries.put,
        if_neg same, ih]
      rfl

theorem ofPairs_textKeyed (es : Entries Datum) :
    ofPairs (textKeyed es) = textKeyed (Entries.ofList es) := by
  suffices ∀ start : Entries Datum,
      (textKeyed es).foldl (fun entries p => putKey entries p.1 p.2) (textKeyed start) =
        textKeyed (start.putAll es) from this []
  induction es with
  | nil => exact fun start => rfl
  | cons p rest ih =>
    intro start
    have unfolded : textKeyed (p :: rest) = (.text p.1, p.2) :: textKeyed rest := rfl
    rw [unfolded, List.foldl_cons, putKey_textKeyed]
    exact ih (start.put p.1 p.2)

end Datum

namespace Raml

def keyText (k : Scalar) : String := k.plainText.getD ""

def hasText (k : Scalar) : Bool := k.plainText.isSome

theorem plainText_of_hasText {k : Scalar} (h : hasText k = true) :
    k.plainText = some (keyText k) := by
  obtain ⟨t, text⟩ := Option.isSome_iff_exists.mp h
  rw [keyText, text, Option.getD_some]

theorem textKey_eq (k : Scalar) :
    textKey k = if hasText k then .accepted (.text (keyText k)) else fault .tooManyDigits := by
  unfold textKey hasText keyText
  cases k.plainText <;> rfl

/-- A map whose keys all have texts is keyed by them; the first key without one refuses it. -/
theorem keyedByText_eq (change : Datum → Datum) (es : List (Scalar × Datum)) :
    keyedByText change es =
      if es.all fun p => hasText p.1 then
        .accepted (.map (Datum.textKeyed
          (Entries.ofList (es.map fun p => (keyText p.1, change p.2)))))
      else fault .tooManyDigits := by
  have read : inTurn (es.map fun p => map (fun k => (k, change p.2)) (textKey p.1)) =
      if es.all fun p => hasText p.1 then
        .accepted (Datum.textKeyed (es.map fun p => (keyText p.1, change p.2)))
      else fault .tooManyDigits := by
    induction es with
    | nil => rfl
    | cons p rest ih =>
      rw [List.map_cons, inTurn, ih, textKey_eq, List.all_cons]
      cases hasText p.1 with
      | false => rfl
      | true => cases rest.all fun p => hasText p.1 <;> rfl
  rw [keyedByText, read, ← Datum.ofPairs_textKeyed]
  cases es.all fun p => hasText p.1 <;> rfl

/-- A map under distinct names stays as it is if its values do. -/
theorem keyedByText_textKeyed {change : Datum → Datum} {es : Entries Datum}
    (distinct : es.names.Nodup) (kept : ∀ p ∈ es, change p.2 = p.2) :
    keyedByText change (Datum.textKeyed es) = .accepted (.map (Datum.textKeyed es)) := by
  have texts : ((Datum.textKeyed es).all fun p => hasText p.1) = true := by
    rw [Datum.textKeyed, List.all_map]
    exact List.all_eq_true.mpr fun _ _ => rfl
  have same : (Datum.textKeyed es).map (fun p => (keyText p.1, change p.2)) = es := by
    rw [Datum.textKeyed, List.map_map]
    refine (List.map_congr_left fun p hp => ?_).trans (List.map_id es)
    exact Prod.ext rfl (kept p hp)
  rw [keyedByText_eq, if_pos texts, same, Entries.ofList_of_nodup distinct]

end Raml

namespace Checked

variable {α : Type}

/-- Values under distinct names are accepted as what each of them is accepted as. -/
theorem entries_accepted {check : Datum → Checked α} {f : α → Datum} {es : Entries α}
    (distinct : es.names.Nodup) (h : ∀ p ∈ es, check (f p.2) = .accepted p.2) :
    Checked.entries check (.map (Datum.textKeyed (es.mapValues f))) = .accepted es := by
  have each : all (((Datum.textKeyed (es.mapValues f)).map fun p => (p.1, check p.2)).map
      fun p => entry p.1 p.2) = .accepted es := by
    clear distinct
    induction es with
    | nil => rfl
    | cons p rest ih =>
      obtain ⟨first, later⟩ := List.forall_mem_cons.mp h
      have entry : entry (.text p.1) (check (f p.2)) = .accepted p := by
        rw [first]
        rfl
      exact seq_accepted (congrArg (Checked.map List.cons) entry) (ih later)
  have listed := congrArg (Checked.map Entries.ofList) each
  exact listed.trans (congrArg Checked.accepted (Entries.ofList_of_nodup distinct))

/-- What is accepted of a map whose keys are texts stands under the same names. -/
theorem Ensures.names (check : Datum → Checked α) (es : Entries Datum) :
    Ensures (Checked.entries check (.map (Datum.textKeyed es))) fun read =>
      read.names = firstOccurrences es.names := by
  have each : Ensures (all (((Datum.textKeyed es).map fun p => (p.1, check p.2)).map
      fun p => entry p.1 p.2)) fun pairs => Entries.names pairs = es.names := by
    induction es with
    | nil => exact fun pairs h => by cases h; rfl
    | cons p rest ih =>
      refine .seq (.map ?_) ih
      intro q hq pairs hpairs
      obtain ⟨hkey, _⟩ := ensures_entry _ _ q hq
      have name : p.1 = q.1 := accepted.inj hkey
      change q.1 :: Entries.names pairs = p.1 :: Entries.names rest
      rw [name, hpairs]
  refine .map fun pairs hpairs => (Entries.names_ofList pairs).trans ?_
  rw [each pairs hpairs]

end Checked

end RamlBridge
