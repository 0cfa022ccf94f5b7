import RamlBridge.Proofs.Json.Scalars

/-!
Reading back texts that are written in ASCII characters. A character outside ASCII is written by
its code units, and pairs of units are joined when they are read; so a text comes back if no two
halves that stand next to each other in it make up a pair.
-/
namespace RamlBridge.Json

open Text (codeOf ofCode isHalf isHalfCode halfBase)

section Codes

theorem toNat_valid (c : Char) : c.toNat < 0xd800 ∨ 0xdfff < c.toNat ∧ c.toNat < 0x110000 := by
  have valid := c.valid
  have same : c.val.toNat = c.toNat := rfl
  simp only [UInt32.isValidChar, Nat.isValidChar] at valid
  omega

/-- A character stands for a half of a pair, or for itself. -/
theorem codeOf_cases (c : Char) :
    (0xd800 ≤ codeOf c ∧ codeOf c < 0xe000 ∧ c.toNat = halfBase + codeOf c) ∨
      (codeOf c = c.toNat ∧ (c.toNat < 0xd800 ∨ 0xdfff < c.toNat)) := by
  have valid := toNat_valid c
  by_cases half : isHalf c = true
  · have bounds : 0xd800 ≤ c.toNat - halfBase ∧ c.toNat - halfBase < 0xe000 := by
      simpa only [isHalf, isHalfCode, Bool.and_eq_true, decide_eq_true_eq] using half
    refine Or.inl ?_
    rw [codeOf, if_pos half]
    unfold halfBase at bounds ⊢
    omega
  · refine Or.inr ?_
    rw [codeOf, if_neg half]
    omega

theorem codeOf_lt (c : Char) : codeOf c < 0x110000 := by
  have valid := toNat_valid c
  rcases codeOf_cases c with ⟨_, upper, _⟩ | ⟨same, _⟩ <;> omega

theorem codeOf_of_small {c : Char} (h : c.toNat < halfBase) : codeOf c = c.toNat := by
  rcases codeOf_cases c with ⟨_, _, high⟩ | ⟨same, _⟩
  · omega
  · exact same

theorem ofCode_codeOf (c : Char) : ofCode (codeOf c) = c := by
  rcases codeOf_cases c with ⟨lower, upper, high⟩ | ⟨same, _⟩
  · have half : isHalfCode (codeOf c) = true := by
      simp only [isHalfCode, Bool.and_eq_true, decide_eq_true_eq]
      exact ⟨lower, upper⟩
    rw [ofCode, if_pos half, ← high]
    exact Char.ofNat_toNat c
  · rw [same]
    exact ofCode_toNat c

end Codes

def unitsOf (c : Char) : List Nat :=
  if codeOf c < 0x10000 then [codeOf c]
  else [0xd800 + (codeOf c - 0x10000) / 0x400, 0xdc00 + (codeOf c - 0x10000) % 0x400]

def consUnits (ns : List Nat) (tail : Except ReadFault (List Nat × List Char)) :
    Except ReadFault (List Nat × List Char) :=
  tail.map fun p => (ns ++ p.1, p.2)

theorem consUnits_cons (n : Nat) (ns : List Nat)
    (tail : Except ReadFault (List Nat × List Char)) :
    consUnits (n :: ns) tail = consUnit n (consUnits ns tail) := by
  cases tail <;> rfl

theorem consUnits_nil (tail : Except ReadFault (List Nat × List Char)) :
    consUnits [] tail = tail := by
  cases tail <;> rfl

section Characters

variable {opening : Nat} {more : List Char}

theorem textBody_unitEscape {n : Nat} (small : n < 0x10000) (follows : more ≠ []) :
    textBody opening (unitEscape n ++ more) = consUnit n (textBody opening more) := by
  obtain ⟨a, b, c, d, written, known⟩ := unitEscape_eq small
  rw [written]
  exact textBody_codeEscape known follows

/-- The escapes of a character are read as its code units. -/
theorem textBody_codes (c : Char) (follows : more ≠ []) :
    textBody opening (codeEscape c ++ more) = consUnits (unitsOf c) (textBody opening more) := by
  have below := codeOf_lt c
  by_cases small : codeOf c < 0x10000
  · simp only [codeEscape, unitsOf, if_pos small, consUnits_cons, consUnits_nil]
    exact textBody_unitEscape small follows
  · simp only [codeEscape, unitsOf, if_neg small, consUnits_cons, consUnits_nil,
      List.append_assoc]
    rw [textBody_unitEscape (by omega), textBody_unitEscape (by omega) follows]
    intro nothing
    rw [unitEscape] at nothing
    cases nothing

/-- A character that is written in ASCII is read as its code units. -/
theorem textBody_escapedAscii (c : Char) (follows : more ≠ []) :
    textBody opening (escaped true c ++ more) =
      consUnits (unitsOf c) (textBody opening more) := by
  have single (small : c.toNat < 0x80) : unitsOf c = [c.toNat] := by
    have code := codeOf_of_small (c := c) (by unfold halfBase; omega)
    rw [unitsOf, code, if_pos (by omega)]
  have plain (small : c.toNat < 0x80) : consUnits (unitsOf c) (textBody opening more) =
      consUnit c.toNat (textBody opening more) := by
    rw [single small, consUnits_cons, consUnits_nil]
  by_cases short : c ∈ shortEscaped
  · obtain ⟨letter, written, known⟩ := escaped_short true short
    have small : (shortEscaped.all fun d => decide (d.toNat < 0x80)) = true := by decide
    rw [written, plain (of_decide_eq_true (List.all_eq_true.mp small c short))]
    exact textBody_shortEscape known
  · simp only [escaped_other true short, Bool.true_and, Bool.or_eq_true, decide_eq_true_eq]
    by_cases coded : c.toNat < 0x20 ∨ 0x7f ≤ c.toNat
    · rw [if_pos coded]
      exact textBody_codes c follows
    · have quote : c ≠ '"' := fun same => short (same ▸ by decide)
      have backslash : c ≠ '\\' := fun same => short (same ▸ by decide)
      rw [if_neg coded, plain (by omega)]
      exact textBody_plain quote backslash (by omega)

theorem textBody_flatMapAscii (cs rest : List Char) :
    textBody opening (cs.flatMap (escaped true) ++ '"' :: rest) =
      .ok (cs.flatMap unitsOf, rest) := by
  induction cs with
  | nil =>
    change textBody opening ('"' :: rest) = _
    rw [textBody]
    rfl
  | cons c cs ih =>
    rw [List.flatMap_cons, List.append_assoc, textBody_escapedAscii c (by simp), ih]
    rfl

end Characters

/-- No two characters next to each other stand for the halves of a pair. -/
def HalvesApart : List Char → Prop
  | c :: d :: rest => pairChar? (codeOf c) (codeOf d) = none ∧ HalvesApart (d :: rest)
  | _ => True

theorem pairChar?_of_not_low {n m : Nat} (h : m < 0xdc00) : pairChar? n m = none := by
  rw [pairChar?, if_neg]
  omega

theorem pairChar?_codeOf {c : Char} (h : isHalf c = false) (n : Nat) :
    pairChar? n (codeOf c) = none := by
  have valid := toNat_valid c
  rw [codeOf, h, if_neg Bool.false_ne_true, pairChar?, if_neg]
  omega

theorem halvesApart_of_holdsHalf {s : String} (h : Text.holdsHalf s = false) :
    HalvesApart s.toList := by
  have whole : ∀ c ∈ s.toList, isHalf c = false := by
    intro c hc
    simpa only [Bool.not_eq_true] using List.any_eq_false.mp h c hc
  generalize s.toList = cs at whole ⊢
  induction cs with
  | nil => trivial
  | cons c cs ih =>
    have rest := ih fun d hd => whole d (List.mem_cons_of_mem c hd)
    cases cs with
    | nil => trivial
    | cons d ds =>
      have second := whole d (List.mem_cons_of_mem c List.mem_cons_self)
      exact ⟨pairChar?_codeOf second (codeOf c), rest⟩

theorem joinUnits_cons {n m : Nat} {ms : List Nat} (h : pairChar? n m = none) :
    joinUnits (n :: m :: ms) = ofCode n :: joinUnits (m :: ms) := by
  rw [joinUnits, h]

/-- The code units of characters come first with the code of the first one or with half of it. -/
theorem unitsOf_head (c : Char) : ∃ m ms, unitsOf c = m :: ms ∧ (m = codeOf c ∨ m < 0xdc00) := by
  have below := codeOf_lt c
  by_cases small : codeOf c < 0x10000
  · exact ⟨codeOf c, [], if_pos small, Or.inl rfl⟩
  · exact ⟨_, _, if_neg small, Or.inr (by omega)⟩

theorem pairChar?_eq_some {high low : Nat} (hhigh : high < 0x400) (hlow : low < 0x400) {c : Char}
    (h : c.toNat = 0x10000 + high * 0x400 + low) :
    pairChar? (0xd800 + high) (0xdc00 + low) = some c := by
  have first : 0xd800 + high - 0xd800 = high := Nat.add_sub_cancel_left _ _
  have second : 0xdc00 + low - 0xdc00 = low := Nat.add_sub_cancel_left _ _
  rw [pairChar?, if_pos (by omega), first, second, ← h, Char.ofNat_toNat]

theorem joinUnits_pair {c : Char} (large : ¬ codeOf c < 0x10000) (ms : List Nat) :
    joinUnits (unitsOf c ++ ms) = c :: joinUnits ms := by
  have below := codeOf_lt c
  have same : codeOf c = c.toNat := by
    rcases codeOf_cases c with ⟨_, _, _⟩ | ⟨same, _⟩
    · omega
    · exact same
  have pair : pairChar? (0xd800 + (codeOf c - 0x10000) / 0x400)
      (0xdc00 + (codeOf c - 0x10000) % 0x400) = some c := by
    refine pairChar?_eq_some (by omega) (by omega) ?_
    rw [← same]
    omega
  simp only [unitsOf, if_neg large, List.cons_append, List.nil_append, joinUnits, pair]

/-- Characters are joined again out of their code units. -/
theorem joinUnits_flatMap {cs : List Char} (apart : HalvesApart cs) :
    joinUnits (cs.flatMap unitsOf) = cs := by
  induction cs with
  | nil => rfl
  | cons c cs ih =>
    rw [List.flatMap_cons]
    by_cases small : codeOf c < 0x10000
    · have single : unitsOf c = [codeOf c] := if_pos small
      rw [single]
      -- A single unit is joined to the next one only if they make up a pair.
      cases cs with
      | nil => simp only [List.flatMap_nil, List.append_nil, joinUnits, ofCode_codeOf]
      | cons d ds =>
        obtain ⟨m, ms, head, kind⟩ := unitsOf_head d
        have none : pairChar? (codeOf c) m = none := by
          rcases kind with same | low
          · rw [same]
            exact apart.1
          · exact pairChar?_of_not_low low
        have rest := ih apart.2
        rw [List.flatMap_cons, head, List.cons_append] at rest ⊢
        rw [List.cons_append, List.nil_append, joinUnits_cons none, rest, ofCode_codeOf]
    · have rest : HalvesApart cs := by
        cases cs with
        | nil => trivial
        | cons d ds => exact apart.2
      rw [joinUnits_pair small, ih rest]

/-- A text whose halves are apart is read back from ASCII characters. -/
theorem readsText_ascii {s : String} (apart : HalvesApart s.toList) : ReadsText true s := by
  intro opening rest
  rw [quotedBody, textBody_flatMapAscii]
  simp only [Except.map, joinUnits_flatMap apart, String.ofList_toList]

end RamlBridge.Json
