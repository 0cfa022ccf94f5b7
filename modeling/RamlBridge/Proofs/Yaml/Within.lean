import RamlBridge.Yaml.Filling

/-!
The nodes that stand in a node of a document, the texts that they have, and what merging leaves of
them.
-/
namespace RamlBridge.Yaml

namespace Node

def children : Node → List Node
  | .scalar .. => []
  | .sequence _ _ items => items
  | .mapping _ _ entries => entries.flatMap fun p => [p.1, p.2]

inductive Within (root : Node) : Node → Prop
  | itself : Within root root
  | child {n m : Node} : Within root n → m ∈ n.children → Within root m

/-- The text of a scalar, or of the value key of a mapping. -/
inductive HasText : Node → String → Prop
  | scalar {number tag text} : HasText (.scalar number tag text) text
  | value {number tag entries k v text} : (k, v) ∈ entries → k.tag = Tag.value → HasText v text →
      HasText (.mapping number tag entries) text

def Includes (root : Node) (target : String) : Prop :=
  ∃ n, Within root n ∧ n.tag = Tag.inclusion ∧ n.HasText target

/-- Why a node has no value, although its tag is one of scalars. -/
inductive Unreadable : Node → ScalarFault → Prop
  | text {n text fault} : HasText n text → scalarValue? n.tag text = some (.error fault) →
      Unreadable n fault
  | mapping {number entries} : Unreadable (.mapping number Tag.timestamp entries) .mappedDate

/-- Entries of which all keys and values stand in a node. -/
def Spans (root : Node) (es : List (Node × Node)) : Prop :=
  ∀ p ∈ es, Within root p.1 ∧ Within root p.2

variable {root n k v : Node} {number : Nat} {tag : String} {items : List Node}
  {es fs : List (Node × Node)}

theorem Within.item (h : Within root (.sequence number tag items)) (hn : n ∈ items) :
    Within root n :=
  .child h hn

theorem Within.spans (h : Within root (.mapping number tag es)) : Spans root es := by
  intro p hp
  have member : ∀ m ∈ [p.1, p.2], Within root m := by
    intro m hm
    exact .child h (List.mem_flatMap.mpr ⟨p, hp, hm⟩)
  exact ⟨member p.1 List.mem_cons_self, member p.2 (List.mem_cons_of_mem _ List.mem_cons_self)⟩

theorem Within.eq_root (h : Within root n) (childless : root.children = []) : n = root := by
  induction h with
  | itself => rfl
  | child _ member same =>
    rw [same, childless] at member
    cases member

theorem spans_nil : Spans root [] := by
  intro p hp
  cases hp

theorem spans_cons : Spans root ((k, v) :: es) ↔ (Within root k ∧ Within root v) ∧ Spans root es :=
  List.forall_mem_cons

theorem spans_append : Spans root (es ++ fs) ↔ Spans root es ∧ Spans root fs :=
  List.forall_mem_append

end Node

namespace Merges

open Node

/-- Merging that has brought in nothing but what stands in a node. -/
def From (root : Node) (m : Merges) : Prop :=
  ∀ e ∈ m.entries, Spans root e.2

variable {root n : Node} {m m' : Merges} {es : List (Node × Node)}

theorem tag_eq {t : String} (h : m.tag n = t) (other : t ≠ Tag.text) : n.tag = t := by
  unfold tag at h
  split at h
  · exact absurd h.symm other
  · exact h

theorem tag_eq_text_or (m : Merges) (n : Node) : m.tag n = Tag.text ∨ m.tag n = n.tag := by
  unfold tag
  split
  · exact .inl rfl
  · exact .inr rfl

theorem From.spans (hm : m.From root) {number : Nat} (h : m.resolved? number = some es) :
    Spans root es := by
  obtain ⟨e, he, rfl⟩ := Option.map_eq_some_iff.mp h
  exact hm e (List.mem_of_find?_eq_some he)

theorem From.spans_entriesOf? (hm : m.From root) (hn : Within root n)
    (h : m.entriesOf? n = some es) : Spans root es := by
  cases n with
  | scalar => cases h
  | sequence => cases h
  | mapping number tag entries =>
    cases h
    cases found : m.resolved? number with
    | none => exact hn.spans
    | some resolved => exact hm.spans found

theorem From.asText (hm : m.From root) (key : Node) : (m.asText key).From root := by
  unfold Merges.asText
  split
  · exact hm
  · exact hm

mutual

theorem from_source {m m' : Merges} {es : List (Node × Node)} (hm : m.From root) (n : Node)
    (hn : Within root n) (h : m.source n = some (es, m')) : Spans root es ∧ m'.From root := by
  match n with
  | .scalar .. => cases h
  | .sequence _ _ items => exact from_sources hm items (fun _ => hn.item) h
  | .mapping number _ entries =>
    rw [Merges.source] at h
    split at h
    · next found =>
      cases h
      exact ⟨hm.spans found, hm⟩
    · obtain ⟨⟨merged, own, after⟩, divided, h⟩ := Option.bind_eq_some_iff.mp h
      obtain ⟨hmerged, hown, hafter⟩ := from_divide hm entries hn.spans divided
      cases h
      have both : Spans root (merged ++ own) := spans_append.mpr ⟨hmerged, hown⟩
      exact ⟨both, List.forall_mem_cons.mpr ⟨both, hafter⟩⟩
termination_by sizeOf n

theorem from_sources {m m' : Merges} {es : List (Node × Node)} (hm : m.From root)
    (items : List Node) (hn : ∀ n ∈ items, Within root n) (h : m.sources items = some (es, m')) :
    Spans root es ∧ m'.From root := by
  match items with
  | [] =>
    cases h
    exact ⟨spans_nil, hm⟩
  | n :: rest =>
    unfold Merges.sources at h
    dsimp only at h
    split at h
    · obtain ⟨⟨found, between⟩, first, h⟩ := Option.bind_eq_some_iff.mp h
      obtain ⟨⟨more, after⟩, later, h⟩ := Option.bind_eq_some_iff.mp h
      cases h
      obtain ⟨hfound, hbetween⟩ := from_source hm _ (hn _ List.mem_cons_self) first
      obtain ⟨hmore, hafter⟩ := from_sources hbetween rest (fun x hx => hn x (.tail _ hx)) later
      exact ⟨spans_append.mpr ⟨hmore, hfound⟩, hafter⟩
    · cases h
termination_by sizeOf items

theorem from_divide {m m' : Merges} {merged own : List (Node × Node)} (hm : m.From root)
    (entries : List (Node × Node)) (hn : Spans root entries)
    (h : m.divide entries = some (merged, own, m')) :
    Spans root merged ∧ Spans root own ∧ m'.From root := by
  match entries with
  | [] =>
    cases h
    exact ⟨spans_nil, spans_nil, hm⟩
  | (k, v) :: rest =>
    obtain ⟨⟨hk, hv⟩, hrest⟩ := spans_cons.mp hn
    rw [Merges.divide] at h
    split at h
    · obtain ⟨⟨found, between⟩, first, h⟩ := Option.bind_eq_some_iff.mp h
      obtain ⟨⟨brought, others, after⟩, later, h⟩ := Option.bind_eq_some_iff.mp h
      cases h
      obtain ⟨hfound, hbetween⟩ := from_source hm v hv first
      obtain ⟨hbrought, hothers, hafter⟩ := from_divide hbetween rest hrest later
      exact ⟨spans_append.mpr ⟨hfound, hbrought⟩, hothers, hafter⟩
    · obtain ⟨⟨brought, others, after⟩, later, h⟩ := Option.bind_eq_some_iff.mp h
      cases h
      obtain ⟨hbrought, hothers, hafter⟩ := from_divide (hm.asText k) rest hrest later
      exact ⟨hbrought, spans_cons.mpr ⟨⟨hk, hv⟩, hothers⟩, hafter⟩
termination_by sizeOf entries

end

end Merges

namespace Filling

open Node

mutual

theorem hasText_of_text? {m : Merges} {text : String} (n : Node) (h : text? m n = some text) :
    n.HasText text := by
  match n with
  | .scalar .. =>
    cases h
    exact .scalar
  | .sequence .. => cases h
  | .mapping number _ entries =>
    rw [text?] at h
    split at h
    · cases h
    · obtain ⟨k, v, hp, hk, hv⟩ := hasText_of_valueText? entries h
      exact .value hp hk hv

theorem hasText_of_valueText? {m : Merges} {text : String} (es : List (Node × Node))
    (h : valueText? m es = some text) :
    ∃ k v, (k, v) ∈ es ∧ k.tag = Tag.value ∧ v.HasText text := by
  match es with
  | [] => cases h
  | (k, v) :: rest =>
    rw [valueText?] at h
    split at h
    · next same =>
      have marked : k.tag = Tag.value := Merges.tag_eq same (by decide)
      exact ⟨k, v, List.mem_cons_self, marked, hasText_of_text? v h⟩
    · obtain ⟨k, v, hp, later⟩ := hasText_of_valueText? rest h
      exact ⟨k, v, List.mem_cons_of_mem _ hp, later⟩

end

end Filling

end RamlBridge.Yaml
