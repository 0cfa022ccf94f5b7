import RamlBridge.Proofs.Outcome
import RamlBridge.Proofs.Yaml.Within
import RamlBridge.Yaml.Value

/-!
Where the faults of a document stand. What stops the filling of collections is a node of the
document: one that names a part which could not be had, one whose text has no value of its tag, or
one that does not fit its tag at all.
-/
namespace RamlBridge.Yaml

open Node

/-- A fault that a node of the document accounts for. -/
inductive Node.Explains {ε : Type} (inclusion : String → Except ε Datum) (root : Node) :
    ValueFault ε → Prop
  | malformed : Explains inclusion root .malformed
  | unreadable {n fault} : Within root n → n.Unreadable fault →
      Explains inclusion root (.unreadable fault)
  | included {target e} : root.Includes target → inclusion target = .error e →
      Explains inclusion root (.included e)

namespace Filling

/-- Collections that are filled from nothing but the nodes of one document. -/
structure From (root : Node) (f : Filling) : Prop where
  merges : f.merges.From root
  pending : ∀ n ∈ f.pending, Within root n

theorem from_empty (root : Node) : Filling.empty.From root where
  merges := by
    intro e he
    cases he
  pending := by
    intro n hn
    cases hn

variable {ε : Type} {inclusion : String → Except ε Datum} {root n : Node} {f : Filling}

theorem From.begin (hf : f.From root) (hn : Within root n) : (f.begin n).2.From root := by
  unfold Filling.begin
  split
  · exact hf
  · exact ⟨hf.merges, List.forall_mem_cons.mpr ⟨hn, hf.pending⟩⟩

theorem From.shaped (hf : f.From root) (n : Node) (shape : Shape) :
    (f.shaped n shape).From root :=
  ⟨hf.merges, hf.pending⟩

variable (inclusion) in
/-- A step that goes on with the nodes of the document, and stops at one of them. -/
abbrev Keeps {α : Type} (root : Node) (outcome : Except (ValueFault ε) (α × Filling)) : Prop :=
  Ends (fun p => p.2.From root) (root.Explains inclusion) outcome

theorem ends_scalarDatum (hn : Within root n) {text : String} (said : n.HasText text) :
    Ends (fun _ => True) (root.Explains inclusion)
      (scalarDatum inclusion (f.merges.tag n) text) := by
  unfold scalarDatum
  split
  · next same =>
    have marked : n.tag = Tag.inclusion := Merges.tag_eq same (by decide)
    split
    · exact .ok trivial
    · next e h => exact .error (.included ⟨n, hn, marked, said⟩ h)
  · split
    · exact .ok trivial
    · next fault h =>
      -- a key that merging counts as a text always has a value
      rcases Merges.tag_eq_text_or f.merges n with plain | own
      · rw [plain, scalarValue?, if_pos rfl] at h
        cases h
      · exact .error (.unreadable hn (.text said (own ▸ h)))
    · exact .error .malformed

theorem keeps_part (hf : f.From root) (hn : Within root n) :
    Keeps inclusion root (f.part inclusion n) := by
  unfold part
  dsimp only
  split
  · exact .ok (hf.begin hn)
  · split
    · exact .error .malformed
    · next text said =>
      split
      · next dated =>
        have marked := Merges.tag_eq dated (by decide)
        cases marked
        exact .error (.unreadable hn .mapping)
      · exact (ends_scalarDatum hn (hasText_of_text? _ said)).map fun _ _ => hf
    · next text _ said =>
      exact (ends_scalarDatum hn (hasText_of_text? _ said)).map fun _ _ => hf

theorem keeps_parts (hf : f.From root) {items : List Node} (hn : ∀ n ∈ items, Within root n) :
    Keeps inclusion root (f.parts inclusion items) := by
  induction items generalizing f with
  | nil => exact .ok hf
  | cons n rest ih =>
    obtain ⟨first, later⟩ := List.forall_mem_cons.mp hn
    refine (keeps_part hf first).bind fun p hp => ?_
    exact (ih hp later).bind fun ps hps => .ok hps

theorem keeps_key (hf : f.From root) (hn : Within root n) :
    Keeps inclusion root (f.key inclusion n) := by
  refine (keeps_part hf hn).bind fun p hp => ?_
  obtain ⟨p, after⟩ := p
  dsimp only at hp ⊢
  split
  · exact .ok hp
  · exact .error .malformed

theorem keeps_entries (hf : f.From root) {es : List (Node × Node)} (hes : root.Spans es) :
    Keeps inclusion root (f.entries inclusion es) := by
  induction es generalizing f with
  | nil => exact .ok hf
  | cons p rest ih =>
    obtain ⟨⟨hk, hv⟩, later⟩ := spans_cons.mp hes
    refine (keeps_key hf hk).bind fun key hkey => ?_
    refine (keeps_part hkey hv).bind fun part hpart => ?_
    exact (ih hpart later).bind fun ps hps => .ok hps

theorem keeps_pairs (hf : f.From root) {items : List Node} (hn : ∀ n ∈ items, Within root n) :
    Keeps inclusion root (f.pairs inclusion items) := by
  induction items generalizing f with
  | nil => exact .ok hf
  | cons n rest ih =>
    obtain ⟨first, later⟩ := List.forall_mem_cons.mp hn
    unfold pairs
    split
    · next k v only =>
      obtain ⟨hk, hv⟩ := hf.merges.spans_entriesOf? first only (k, v) List.mem_cons_self
      refine (keeps_part hf hk).bind fun key hkey => ?_
      refine (keeps_part hkey hv).bind fun part hpart => ?_
      exact (ih hpart later).bind fun ps hps => .ok hps
    · exact .error .malformed

theorem keeps_mapEntries (hf : f.From root) (hn : Within root n) :
    Keeps inclusion root (f.mapEntries inclusion n) := by
  unfold mapEntries
  split
  · next es merges used =>
    obtain ⟨hes, hmerges⟩ := Merges.from_source hf.merges _ hn used
    have changed : Filling.From root { f with merges } := ⟨hmerges, hf.pending⟩
    exact (keeps_entries changed hes).map fun p hp => hp
  · exact .error .malformed

theorem ends_fill (hf : f.From root) (hn : Within root n) :
    Ends (From root) (root.Explains inclusion) (f.fill inclusion n) := by
  unfold fill
  dsimp only
  split
  · exact (keeps_mapEntries hf hn).bind fun p hp => .ok (hp.shaped n _)
  · split
    · exact (keeps_mapEntries hf hn).bind fun p hp => .ok (hp.shaped n _)
    · split
      · have hitems := fun m => hn.item (n := m)
        split
        · exact (keeps_parts hf hitems).bind fun p hp => .ok (hp.shaped _ _)
        · exact (keeps_pairs hf hitems).bind fun p hp => .ok (hp.shaped _ _)
      · exact .error .malformed

theorem ends_fillEach (hf : f.From root) {ns : List Node} (hn : ∀ n ∈ ns, Within root n) :
    Ends (From root) (root.Explains inclusion) (f.fillEach inclusion ns) := by
  induction ns generalizing f with
  | nil => exact .ok hf
  | cons n rest ih =>
    obtain ⟨first, later⟩ := List.forall_mem_cons.mp hn
    exact (ends_fill hf first).bind fun after hafter => ih hafter later

theorem ends_fillAll (depth : Nat) (hf : f.From root) :
    Ends (From root) (root.Explains inclusion) (fillAll inclusion depth f) := by
  induction depth generalizing f with
  | zero => exact .ok hf
  | succ depth ih =>
    unfold fillAll
    split
    · exact .ok hf
    · have waiting : ∀ n ∈ f.pending.reverse, Within root n := by
        intro n hn
        exact hf.pending n (List.mem_reverse.mp hn)
      have taken : Filling.From root { f with pending := [] } := ⟨hf.merges, by simp⟩
      exact (ends_fillEach taken waiting).bind fun after hafter => ih hafter

end Filling

/-- Whatever keeps a document from having a value stands in it. -/
theorem Node.explains_of_datum {ε : Type} {inclusion : String → Except ε Datum} {root : Node}
    {fault : ValueFault ε} (h : root.datum inclusion = .error fault) :
    root.Explains inclusion fault := by
  have filled : Ends (fun _ => True) (root.Explains inclusion) (root.datum inclusion) := by
    refine (Filling.keeps_part (Filling.from_empty root) .itself).bind fun p hp => ?_
    exact (Filling.ends_fillAll _ hp).bind fun after _ => .ok trivial
  exact filled.fault h

inductive Accounts {ε : Type} (inclusion : String → Except ε Datum) (text : List Char) :
    ReadFault ε → Prop
  | unprintable : text.all isPrintable = false → Accounts inclusion text .unprintable
  | broken {fault} : Node.ofTokens (tokens text) = .error fault →
      Accounts inclusion text (.broken fault)
  | valueless {root fault} : Node.ofTokens (tokens text) = .ok (some root) →
      root.Explains inclusion fault → Accounts inclusion text (.valueless fault)

theorem accounts_of_read {ε : Type} {inclusion : String → Except ε Datum} {text : List Char}
    {fault : ReadFault ε} (h : read inclusion text = .error fault) :
    Accounts inclusion text fault := by
  unfold read at h
  split at h
  · next plain =>
    cases h
    exact .unprintable (Bool.not_eq_true' _ ▸ plain)
  · split at h
    · next broken =>
      cases h
      exact .broken broken
    · cases h
    · next root whole =>
      split at h
      · cases h
      · next valueless =>
        cases h
        exact .valueless whole (Node.explains_of_datum valueless)

/-- A text that is nothing but an inclusion comes to what it includes. -/
theorem read_of_lone {ε : Type} (inclusion : String → Except ε Datum) {text : List Char}
    {number : Nat} {target : String} (printable : text.all isPrintable = true)
    (whole : Node.ofTokens (tokens text) = .ok (some (.scalar number Tag.inclusion target))) :
    read inclusion text = (inclusion target).mapError fun e => .valueless (.included e) := by
  have apart : Tag.collections.contains Tag.inclusion = false := by decide
  have tag : Filling.empty.merges.tag (.scalar number Tag.inclusion target) = Tag.inclusion := rfl
  unfold read
  rw [printable, whole]
  simp only [Node.datum, Filling.part, tag, apart, Filling.text?, Filling.scalarDatum]
  cases inclusion target with
  | ok d => rfl
  | error e => rfl

end RamlBridge.Yaml
