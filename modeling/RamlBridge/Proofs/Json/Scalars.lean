import RamlBridge.Json.Reader
import RamlBridge.Json.Printer
import RamlBridge.Proofs.Decimal.Digits

/-!
Reading quoted texts and integers back. Each character of a text is written as itself or as an
escape, and either is read as that one character, whatever follows it; an integer ends where
neither a digit nor a point nor an exponent follows.
-/
namespace RamlBridge.Json

section Units

theorem hexValue?_digitChar : ∀ d < 16, Text.hexValue? (Nat.digitChar d) = some d := by decide

/-- An escape of a code unit has four digits that denote it. -/
theorem unitEscape_eq {n : Nat} (small : n < 0x10000) : ∃ a b c d,
    unitEscape n = ['\\', 'u', a, b, c, d] ∧ codeUnit? a b c d = some n := by
  refine ⟨_, _, _, _, rfl, ?_⟩
  have digit (i : Nat) := hexValue?_digitChar (n / Nat.pow 16 i % 16) (by omega)
  simp only [codeUnit?, digit]
  have whole : ((n / 4096 % 16 * 16 + n / 256 % 16) * 16 + n / 16 % 16) * 16 + n / 1 % 16 = n := by
    omega
  exact congrArg some whole

end Units

section Characters

variable {opening : Nat} {more : List Char}

theorem textBody_plain {c : Char} (quote : c ≠ '"') (backslash : c ≠ '\\')
    (visible : ¬ c.toNat < 0x20) :
    textBody opening (c :: more) = consUnit c.toNat (textBody opening more) := by
  rw [textBody]
  · rw [if_neg visible]
  · exact quote
  · exact backslash

theorem textBody_shortEscape {letter c : Char} (known : shortEscape? letter = some c) :
    textBody opening ('\\' :: letter :: more) = consUnit c.toNat (textBody opening more) := by
  have other : letter ≠ 'u' := by
    rintro rfl
    cases known
  rw [textBody]
  · rw [known]
  · intro a b c d rest same
    exact absurd same other
  · exact other

theorem textBody_codeEscape {a b c d : Char} {n : Nat} (known : codeUnit? a b c d = some n)
    (follows : more ≠ []) :
    textBody opening ('\\' :: 'u' :: a :: b :: c :: d :: more) =
      consUnit n (textBody opening more) := by
  -- The reader takes an escape only before another character, if only the closing quote.
  obtain ⟨e, rest, rfl⟩ := List.exists_cons_of_ne_nil follows
  rw [textBody]
  simp only [known]

/-- A control character stands for itself, and not for half of a pair. -/
theorem codeEscape_control {c : Char} (control : c.toNat < 0x20) :
    codeEscape c = unitEscape c.toNat := by
  have whole : Text.isHalf c = false := by
    have low : c.toNat - Text.halfBase = 0 := Nat.sub_eq_zero_of_le (by
      unfold Text.halfBase
      omega)
    rw [Text.isHalf, low]
    rfl
  have code : Text.codeOf c = c.toNat := by
    rw [Text.codeOf, whole]
    rfl
  have small : c.toNat < 0x10000 := by omega
  simp only [codeEscape, code, if_pos small]

def shortEscaped : List Char := ['"', '\\', '\n', '\r', '\t', '\x08', '\x0c']

theorem escaped_short (ascii : Bool) {c : Char} (h : c ∈ shortEscaped) :
    ∃ letter, escaped ascii c = ['\\', letter] ∧ shortEscape? letter = some c := by
  simp only [shortEscaped, List.mem_cons, List.not_mem_nil, or_false] at h
  rcases h with rfl | rfl | rfl | rfl | rfl | rfl | rfl
  all_goals exact ⟨_, rfl, rfl⟩

theorem escaped_other (ascii : Bool) {c : Char} (h : c ∉ shortEscaped) :
    escaped ascii c =
      if c.toNat < 0x20 || (ascii && 0x7f ≤ c.toNat) then codeEscape c else [c] := by
  simp only [shortEscaped, List.mem_cons, List.not_mem_nil, or_false, not_or] at h
  obtain ⟨quote, backslash, feed, ret, tab, back, page⟩ := h
  simp only [escaped, beq_iff_eq, if_neg quote, if_neg backslash, if_neg feed, if_neg ret,
    if_neg tab, if_neg back, if_neg page]

/-- What a character is written as is read as its code. -/
theorem textBody_escaped (c : Char) (follows : more ≠ []) :
    textBody opening (escaped false c ++ more) = consUnit c.toNat (textBody opening more) := by
  by_cases short : c ∈ shortEscaped
  · obtain ⟨letter, written, known⟩ := escaped_short false short
    rw [written]
    exact textBody_shortEscape known
  · simp only [escaped_other false short, Bool.false_and, Bool.or_false, decide_eq_true_eq]
    by_cases control : c.toNat < 0x20
    · obtain ⟨h, i, j, k, written, known⟩ := unitEscape_eq (n := c.toNat) (by omega)
      rw [if_pos control, codeEscape_control control, written]
      exact textBody_codeEscape known follows
    · have quote : c ≠ '"' := fun same => short (same ▸ by decide)
      have backslash : c ≠ '\\' := fun same => short (same ▸ by decide)
      rw [if_neg control]
      exact textBody_plain quote backslash control

theorem textBody_flatMap (cs : List Char) (rest : List Char) :
    textBody opening (cs.flatMap (escaped false) ++ '"' :: rest) =
      .ok (cs.map Char.toNat, rest) := by
  induction cs with
  | nil =>
    change textBody opening ('"' :: rest) = _
    rw [textBody]
    rfl
  | cons c cs ih =>
    rw [List.flatMap_cons, List.append_assoc, textBody_escaped c (by simp), ih]
    rfl

end Characters

section Joined

theorem ofCode_toNat (c : Char) : Text.ofCode c.toNat = c := by
  have code : Text.isHalfCode c.toNat = false := by
    have valid := c.valid
    have same : c.val.toNat = c.toNat := rfl
    simp only [UInt32.isValidChar, Nat.isValidChar] at valid
    simp [Text.isHalfCode]
    omega
  rw [Text.ofCode, code]
  exact Char.ofNat_toNat c

theorem pairChar?_toNat (c : Char) (n : Nat) : pairChar? c.toNat n = none := by
  have valid := c.valid
  have same : c.val.toNat = c.toNat := rfl
  simp only [UInt32.isValidChar, Nat.isValidChar] at valid
  rw [pairChar?, if_neg]
  omega

/-- No character is half of a pair, so the codes of characters are joined to those characters. -/
theorem joinUnits_map (cs : List Char) : joinUnits (cs.map Char.toNat) = cs := by
  induction cs with
  | nil => rfl
  | cons c cs ih =>
    cases cs with
    | nil => simp only [List.map_cons, List.map_nil, joinUnits, ofCode_toNat]
    | cons d ds =>
      simp only [List.map_cons, joinUnits, pairChar?_toNat, ofCode_toNat] at ih ⊢
      rw [ih]

end Joined

theorem quotedText_append (ascii : Bool) (s : String) (rest : List Char) :
    quotedText ascii s ++ rest = '"' :: (s.toList.flatMap (escaped ascii) ++ '"' :: rest) := by
  simp only [quotedText, List.cons_append, List.append_assoc, List.nil_append]

/-- A quoted text is read back, and what follows its closing quote is left. -/
def ReadsText (ascii : Bool) (s : String) : Prop :=
  ∀ opening rest,
    quotedBody opening (s.toList.flatMap (escaped ascii) ++ '"' :: rest) = .ok (s, rest)

/-- In plain characters, every text is read back. -/
theorem readsText_plain (s : String) : ReadsText false s := by
  intro opening rest
  rw [quotedBody, textBody_flatMap]
  simp only [Except.map, joinUnits_map, String.ofList_toList]

theorem value_quotedText {ascii : Bool} {s : String} (read : ReadsText ascii s) (fuel : Nat)
    (rest : List Char) :
    value (fuel + 1) (quotedText ascii s ++ rest) = .ok (.text s, rest) := by
  rw [quotedText_append, value, read]
  rfl

/-- What may stand behind a value in a written text: a comma, a gap, a closing bracket or
nothing. -/
def Delimits (rest : List Char) : Prop :=
  ∀ c ∈ rest.head?, c ∈ [',', '\n', ']', '\x7d']

theorem delimits_of_mem {c : Char} (h : c ∈ [',', '\n', ']', '\x7d']) (cs : List Char) :
    Delimits (c :: cs) := by
  rintro _ ⟨⟩
  exact h

section Numbers

variable {rest : List Char}

/-- What holds of the four delimiters holds of the first character behind a value. -/
theorem Delimits.of_each {P : Char → Prop} (h : Delimits rest) (comma : P ',') (gap : P '\n')
    (bracket : P ']') (brace : P '\x7d') : ∀ c ∈ rest.head?, P c := by
  intro c first
  have among := h c first
  simp only [List.mem_cons, List.not_mem_nil, or_false] at among
  rcases among with rfl | rfl | rfl | rfl
  · exact comma
  · exact gap
  · exact bracket
  · exact brace

theorem Delimits.not_isDigit (h : Delimits rest) : ∀ c ∈ rest.head?, c.isDigit = false :=
  h.of_each rfl rfl rfl rfl

theorem fraction_of_delimits (h : Delimits rest) : fraction rest = none := by
  cases rest with
  | nil => rfl
  | cons c cs =>
    have point : c ≠ '.' :=
      h.of_each (P := fun d => d ≠ '.') (by decide) (by decide) (by decide) (by decide) c rfl
    rw [fraction]
    intro d more same
    exact absurd (List.cons.inj same).1 point

theorem exponent_of_delimits (h : Delimits rest) : exponent rest = none := by
  cases rest with
  | nil => rfl
  | cons c cs =>
    have none : (c == 'e' || c == 'E') = false :=
      h.of_each (P := fun d => (d == 'e' || d == 'E') = false) rfl rfl rfl rfl c rfl
    simp only [exponent, none, Bool.false_eq_true, if_false]

theorem numberTail_of_delimits (h : Delimits rest) (negative : Bool) {whole : List Char}
    (few : whole.length ≤ Decimal.mostDigits) :
    numberTail negative whole rest =
      .ok (.int (if negative then -(Decimal.ofDigits whole : Int) else Decimal.ofDigits whole),
        rest) := by
  have short : ¬ Decimal.mostDigits < whole.length := by omega
  simp only [numberTail, fraction_of_delimits h, Option.getD_none, exponent_of_delimits h,
    if_neg short]

theorem takeWhile_digits (h : Delimits rest) (n : Nat) :
    (Decimal.digits n ++ rest).takeWhile Char.isDigit = Decimal.digits n := by
  rw [List.takeWhile_append_of_pos (Decimal.isDigit_of_mem_digits n)]
  have none : rest.takeWhile Char.isDigit = [] := by
    cases rest with
    | nil => rfl
    | cons c cs => exact List.takeWhile_cons_of_neg (by simp [h.not_isDigit c rfl])
  rw [none, List.append_nil]

theorem dropWhile_digits (h : Delimits rest) (n : Nat) :
    (Decimal.digits n ++ rest).dropWhile Char.isDigit = rest := by
  rw [List.dropWhile_append_of_pos (Decimal.isDigit_of_mem_digits n)]
  cases rest with
  | nil => rfl
  | cons c cs => exact List.dropWhile_cons_of_neg (by simp [h.not_isDigit c rfl])

/-- The digits of a number with its sign are read as that number. -/
theorem number_signed (h : Delimits rest) (negative : Bool) {n : Nat}
    (few : (Decimal.digits n).length ≤ Decimal.mostDigits) :
    number ((if negative then ['-'] else []) ++ (Decimal.digits n ++ rest)) =
      .ok (.int (if negative then -(n : Int) else n), rest) := by
  have tail := numberTail_of_delimits h negative few
  rw [Decimal.ofDigits_digits] at tail
  rw [← tail]
  rcases Decimal.digits_eq_cons n with zero | ⟨c, cs, first, given⟩
  · rw [zero]
    cases negative <;> rfl
  · have digit : c.isDigit = true := Decimal.isDigit_of_mem_digits n c (by simp [first])
    have taken := takeWhile_digits h n
    have dropped := dropWhile_digits h n
    have minus : c ≠ '-' := by
      rintro rfl
      cases digit
    rw [first, List.cons_append] at taken dropped
    rw [first, List.cons_append]
    cases negative with
    | false => simp [number, minus, digit, taken, dropped]
    | true => simp [number, digit, taken, dropped]

theorem value_number {c : Char} {cs : List Char} (fuel : Nat)
    (head : c.isDigit = true ∨ c = '-' ∧ cs.head? ≠ some 'I') :
    value (fuel + 1) (c :: cs) = number (c :: cs) := by
  rw [value]
  all_goals
    intro rest same
    obtain ⟨rfl, rfl⟩ := List.cons.inj same
    exact absurd head (by simp)

/-- An integer is read back, and what follows it is left. -/
theorem value_integer (h : Delimits rest) (fuel : Nat) {n : Int}
    (few : (Decimal.digits n.natAbs).length ≤ Decimal.mostDigits) :
    value (fuel + 1) (Decimal.integer n ++ rest) = .ok (.int n, rest) := by
  have read := number_signed h (decide (n < 0)) few
  obtain ⟨c, cs, first, digit⟩ := Decimal.digits_head n.natAbs
  by_cases negative : n < 0
  · have signed : -((n.natAbs : Nat) : Int) = n := by omega
    have finite : c ≠ 'I' := by
      rintro rfl
      cases digit
    simp only [negative, decide_true, if_true, signed, first] at read
    rw [Decimal.integer_eq, if_pos negative, List.append_assoc, first, ← read]
    exact value_number fuel (Or.inr ⟨rfl, by simpa using finite⟩)
  · have signed : ((n.natAbs : Nat) : Int) = n := by omega
    simp only [negative, decide_false, Bool.false_eq_true, if_false, signed, first] at read
    rw [Decimal.integer_eq, if_neg negative, List.append_assoc, first, ← read]
    exact value_number fuel (Or.inl digit)

end Numbers

end RamlBridge.Json
