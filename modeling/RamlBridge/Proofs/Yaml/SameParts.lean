import RamlBridge.Proofs.Yaml.Faults

/-!
Documents whose parts are had in two ways. If what a document includes comes to the same values
both times, or fails alike, so does the document.
-/
namespace RamlBridge.Yaml

open Node

section Faults

variable {ε ε' : Type} (E : ε → ε' → Prop)

inductive ValueFault.Alike : ValueFault ε → ValueFault ε' → Prop
  | malformed : Alike .malformed .malformed
  | unreadable (fault) : Alike (.unreadable fault) (.unreadable fault)
  | included {e e'} : E e e' → Alike (.included e) (.included e')

inductive ReadFault.Alike : ReadFault ε → ReadFault ε' → Prop
  | unprintable : Alike .unprintable .unprintable
  | broken (fault) : Alike (.broken fault) (.broken fault)
  | valueless {f f'} : ValueFault.Alike E f f' → Alike (.valueless f) (.valueless f')

end Faults

variable {ε ε' : Type} {E : ε → ε' → Prop} {inclusion : String → Except ε Datum}
  {inclusion' : String → Except ε' Datum} {root n : Node} {f : Filling}

/-- Whatever a node includes, it is had alike in two ways. -/
def Node.SameParts (E : ε → ε' → Prop) (inclusion : String → Except ε Datum)
    (inclusion' : String → Except ε' Datum) (root : Node) : Prop :=
  ∀ target, root.Includes target → SameEnd E (inclusion target) (inclusion' target)

namespace Filling

theorem sameEnd_scalarDatum (same : root.SameParts E inclusion inclusion') (hn : Within root n)
    {text : String} (said : n.HasText text) :
    SameEnd (ValueFault.Alike E) (scalarDatum inclusion (f.merges.tag n) text)
      (scalarDatum inclusion' (f.merges.tag n) text) := by
  unfold scalarDatum
  by_cases marked : f.merges.tag n = Tag.inclusion
  · rw [if_pos marked, if_pos marked]
    have had := same text ⟨n, hn, Merges.tag_eq marked (by decide), said⟩
    generalize inclusion text = first at had ⊢
    generalize inclusion' text = second at had ⊢
    cases had with
    | ok d => exact .ok d
    | error he => exact .error (.included he)
  · rw [if_neg marked, if_neg marked]
    split
    · exact .ok _
    · exact .error (.unreadable _)
    · exact .error .malformed

theorem sameEnd_part (same : root.SameParts E inclusion inclusion') (hn : Within root n) :
    SameEnd (ValueFault.Alike E) (f.part inclusion n) (f.part inclusion' n) := by
  unfold part
  dsimp only
  split
  · exact .ok _
  · split
    · exact .error .malformed
    · next said =>
      split
      · exact .error (.unreadable _)
      · exact (sameEnd_scalarDatum same hn (hasText_of_text? _ said)).map _
    · next said => exact (sameEnd_scalarDatum same hn (hasText_of_text? _ said)).map _

theorem sameEnd_parts (same : root.SameParts E inclusion inclusion') (hf : f.From root)
    {items : List Node} (hn : ∀ n ∈ items, Within root n) :
    SameEnd (ValueFault.Alike E) (f.parts inclusion items) (f.parts inclusion' items) := by
  induction items generalizing f with
  | nil => exact .ok _
  | cons n rest ih =>
    obtain ⟨first, later⟩ := List.forall_mem_cons.mp hn
    refine (sameEnd_part same first).bind fun p hp => ?_
    have after := (keeps_part hf first).result hp
    exact (ih after later).bind fun ps _ => .ok _

theorem sameEnd_key (same : root.SameParts E inclusion inclusion') (hn : Within root n) :
    SameEnd (ValueFault.Alike E) (f.key inclusion n) (f.key inclusion' n) := by
  refine (sameEnd_part same hn).bind fun p _ => ?_
  obtain ⟨p, after⟩ := p
  dsimp only
  split
  · exact .ok _
  · exact .error .malformed

theorem sameEnd_entries (same : root.SameParts E inclusion inclusion') (hf : f.From root)
    {es : List (Node × Node)} (hes : root.Spans es) :
    SameEnd (ValueFault.Alike E) (f.entries inclusion es) (f.entries inclusion' es) := by
  induction es generalizing f with
  | nil => exact .ok _
  | cons p rest ih =>
    obtain ⟨⟨hk, hv⟩, later⟩ := spans_cons.mp hes
    refine (sameEnd_key same hk).bind fun key hkey => ?_
    have afterKey := (keeps_key hf hk).result hkey
    refine (sameEnd_part same hv).bind fun part hpart => ?_
    have afterPart := (keeps_part afterKey hv).result hpart
    exact (ih afterPart later).bind fun ps _ => .ok _

theorem sameEnd_pairs (same : root.SameParts E inclusion inclusion') (hf : f.From root)
    {items : List Node} (hn : ∀ n ∈ items, Within root n) :
    SameEnd (ValueFault.Alike E) (f.pairs inclusion items) (f.pairs inclusion' items) := by
  induction items generalizing f with
  | nil => exact .ok _
  | cons n rest ih =>
    obtain ⟨first, later⟩ := List.forall_mem_cons.mp hn
    unfold pairs
    split
    · next k v only =>
      obtain ⟨hk, hv⟩ := hf.merges.spans_entriesOf? first only (k, v) List.mem_cons_self
      refine (sameEnd_part same hk).bind fun key hkey => ?_
      have afterKey := (keeps_part hf hk).result hkey
      refine (sameEnd_part same hv).bind fun part hpart => ?_
      have afterPart := (keeps_part afterKey hv).result hpart
      exact (ih afterPart later).bind fun ps _ => .ok _
    · exact .error .malformed

theorem sameEnd_mapEntries (same : root.SameParts E inclusion inclusion') (hf : f.From root)
    (hn : Within root n) :
    SameEnd (ValueFault.Alike E) (f.mapEntries inclusion n) (f.mapEntries inclusion' n) := by
  unfold mapEntries
  split
  · next es merges used =>
    obtain ⟨hes, hmerges⟩ := Merges.from_source hf.merges _ hn used
    have changed : Filling.From root { f with merges } := ⟨hmerges, hf.pending⟩
    exact (sameEnd_entries same changed hes).map _
  · exact .error .malformed

theorem sameEnd_fill (same : root.SameParts E inclusion inclusion') (hf : f.From root)
    (hn : Within root n) :
    SameEnd (ValueFault.Alike E) (f.fill inclusion n) (f.fill inclusion' n) := by
  unfold fill
  dsimp only
  split
  · exact (sameEnd_mapEntries same hf hn).bind fun p _ => .ok _
  · split
    · exact (sameEnd_mapEntries same hf hn).bind fun p _ => .ok _
    · split
      · have hitems := fun m => hn.item (n := m)
        split
        · exact (sameEnd_parts same hf hitems).bind fun p _ => .ok _
        · exact (sameEnd_pairs same hf hitems).bind fun p _ => .ok _
      · exact .error .malformed

theorem sameEnd_fillEach (same : root.SameParts E inclusion inclusion') (hf : f.From root)
    {ns : List Node} (hn : ∀ n ∈ ns, Within root n) :
    SameEnd (ValueFault.Alike E) (f.fillEach inclusion ns) (f.fillEach inclusion' ns) := by
  induction ns generalizing f with
  | nil => exact .ok f
  | cons n rest ih =>
    obtain ⟨first, later⟩ := List.forall_mem_cons.mp hn
    refine (sameEnd_fill same hf first).bind fun after hafter => ?_
    exact ih ((ends_fill hf first).result hafter) later

theorem sameEnd_fillAll (same : root.SameParts E inclusion inclusion') (depth : Nat)
    (hf : f.From root) :
    SameEnd (ValueFault.Alike E) (fillAll inclusion depth f) (fillAll inclusion' depth f) := by
  induction depth generalizing f with
  | zero => exact .ok f
  | succ depth ih =>
    unfold fillAll
    split
    · exact .ok f
    · have waiting : ∀ n ∈ f.pending.reverse, Within root n := by
        intro n hn
        exact hf.pending n (List.mem_reverse.mp hn)
      have taken : Filling.From root { f with pending := [] } := ⟨hf.merges, by simp⟩
      refine (sameEnd_fillEach same taken waiting).bind fun after hafter => ?_
      exact ih ((ends_fillEach taken waiting).result hafter)

end Filling

theorem Node.sameEnd_datum (same : root.SameParts E inclusion inclusion') :
    SameEnd (ValueFault.Alike E) (root.datum inclusion) (root.datum inclusion') := by
  refine (Filling.sameEnd_part same .itself).bind fun p hp => ?_
  have begun := (Filling.keeps_part (Filling.from_empty root) .itself).result hp
  exact (Filling.sameEnd_fillAll same _ begun).bind fun after _ => .ok _

/-- A text has the same value, or faults that are alike, if what its node includes has. -/
theorem sameEnd_read {text : List Char}
    (same : ∀ root, Node.ofTokens (tokens text) = .ok (some root) →
      root.SameParts E inclusion inclusion') :
    SameEnd (ReadFault.Alike E) (read inclusion text) (read inclusion' text) := by
  unfold read
  split
  · exact .error .unprintable
  · split
    · exact .error (.broken _)
    · exact .ok _
    · next root whole =>
      have value := root.sameEnd_datum (same root whole)
      generalize root.datum inclusion = first at value ⊢
      generalize root.datum inclusion' = second at value ⊢
      cases value with
      | ok d => exact .ok d
      | error alike => exact .error (.valueless alike)

section Congruence

variable {inclusion'' : String → Except ε Datum} {text : List Char}

theorem ReadFault.Alike.eq {f f' : ReadFault ε} (h : ReadFault.Alike Eq f f') : f = f' := by
  cases h with
  | unprintable => rfl
  | broken => rfl
  | valueless alike =>
    cases alike with
    | malformed => rfl
    | unreadable => rfl
    | included same => rw [same]

/-- What a text does not include has no say in its value. -/
theorem read_congr (same : ∀ root, Node.ofTokens (tokens text) = .ok (some root) →
      ∀ target, root.Includes target → inclusion target = inclusion'' target) :
    read inclusion text = read inclusion'' text := by
  have ends := sameEnd_read (fun root whole target includes =>
    SameEnd.of_eq (same root whole target includes))
  generalize read inclusion text = first at ends ⊢
  generalize read inclusion'' text = second at ends ⊢
  cases ends with
  | ok d => rfl
  | error alike => rw [alike.eq]

end Congruence

section Targets

variable {text : List Char} {target : String} {e : ε}

/-- Includes the same, and tells of what fails which target it was for. -/
def telling (inclusion : String → Except ε Datum) (target : String) : Except (String × ε) Datum :=
  (inclusion target).mapError (target, ·)

theorem telling_eq_error {target' : String} (h : telling inclusion target = .error (target', e)) :
    target' = target ∧ inclusion target = .error e := by
  unfold telling at h
  cases had : inclusion target with
  | ok d =>
    rw [had] at h
    cases h
  | error e' =>
    rw [had] at h
    cases h
    exact ⟨rfl, rfl⟩

theorem sameEnd_telling (inclusion : String → Except ε Datum) (text : List Char) :
    SameEnd (ReadFault.Alike fun told e => told.2 = e) (read (telling inclusion) text)
      (read inclusion text) := by
  refine sameEnd_read fun root _ target _ => ?_
  unfold telling
  cases inclusion target with
  | ok d => exact .ok d
  | error e => exact .error rfl

/-- A text whose value is stopped by a part stops at one of the targets that it includes. -/
theorem target_of_read (h : read inclusion text = .error (.valueless (.included e))) :
    ∃ target, read (telling inclusion) text = .error (.valueless (.included (target, e))) := by
  have ends := sameEnd_telling inclusion text
  rw [h] at ends
  generalize read (telling inclusion) text = told at ends ⊢
  cases ends with
  | error alike =>
    cases alike with
    | valueless alike =>
      cases alike with
      | included same =>
        cases same
        exact ⟨_, rfl⟩

theorem read_of_telling
    (h : read (telling inclusion) text = .error (.valueless (.included (target, e)))) :
    read inclusion text = .error (.valueless (.included e)) ∧
      ∃ root, Node.ofTokens (tokens text) = .ok (some root) ∧ root.Includes target ∧
        inclusion target = .error e := by
  constructor
  · have ends := sameEnd_telling inclusion text
    rw [h] at ends
    generalize read inclusion text = plain at ends ⊢
    cases ends with
    | error alike =>
      cases alike with
      | valueless alike =>
        cases alike with
        | included same => rw [← same]
  · cases accounts_of_read h with
    | valueless whole explained =>
      cases explained with
      | included includes failed =>
        obtain ⟨rfl, failed⟩ := telling_eq_error failed
        exact ⟨_, whole, includes, failed⟩

end Targets

end RamlBridge.Yaml
