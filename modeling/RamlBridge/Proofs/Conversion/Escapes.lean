import RamlBridge.Proofs.Conversion.Convertible
import RamlBridge.Proofs.Json.Scalars

/-!
What gets out of a conversion other than a text or a failure that is told: an integer that is too
long, to be read in a schema or to be written, and what cannot be listed in a document.
-/
namespace RamlBridge

/-- A failure of the conversion, and none of reading, of writing or of the settings. -/
def Failure.IsConversion : Failure → Prop
  | .conversion .. | .malformedSchema .. | .malformedConstraint .. | .securityScheme .. => True
  | _ => False

namespace Json

/-- A run of more digits than can be read is no integer. -/
theorem parse_of_manyDigits {c : Char} {cs : List Char} (digits : ∀ d ∈ c :: cs, d.isDigit = true)
    (first : c ≠ '0') (many : Decimal.mostDigits < (c :: cs).length) :
    parse (String.ofList (c :: cs)) = .error ⟨.integerTooLong, 0⟩ := by
  have digit : c.isDigit = true := digits c List.mem_cons_self
  have minus : c ≠ '-' := by
    rintro rfl
    cases digit
  have taken : (c :: cs).takeWhile Char.isDigit = c :: cs := by
    rw [← List.append_nil (c :: cs), List.takeWhile_append_of_pos digits, List.takeWhile_nil]
  have dropped : (c :: cs).dropWhile Char.isDigit = [] := by
    rw [← List.append_nil (c :: cs), List.dropWhile_append_of_pos digits, List.dropWhile_nil]
  have read : number (c :: cs) = .error ⟨.integerTooLong, 0⟩ := by
    have tail : numberTail false (c :: cs) [] = .error ⟨.integerTooLong, 0⟩ := if_pos many
    simpa [number, minus, first, digit, taken, dropped] using tail
  have marked : c ≠ Char.ofNat 0xfeff := by
    rintro rfl
    exact absurd digit (by decide)
  have blank : isBlank c = false := by
    apply Bool.eq_false_iff.mpr
    intro blank
    simp only [isBlank, Bool.or_eq_true, beq_iff_eq] at blank
    rcases blank with ((rfl | rfl) | rfl) | rfl
    all_goals cases digit
  have visible : skipBlanks (c :: cs) = c :: cs := List.dropWhile_cons_of_neg (by simp [blank])
  have head : (c :: cs).head? ≠ some (Char.ofNat 0xfeff) :=
    fun same => marked (Option.some.inj same)
  rw [parse, String.toList_ofList, parseChars, if_neg head, visible, value_number _ (.inl digit),
    read]
  rfl

end Json

namespace Conversion

/-- An outcome is a value, or is told with a failure of the conversion. -/
def IsTold {α : Type} (outcome : Except Stop α) : Prop :=
  (∃ a, outcome = .ok a) ∨ ∃ f, outcome = .error (.failure f) ∧ f.IsConversion

theorem isTold_error_iff {α : Type} {s : Stop} :
    IsTold (.error s : Except Stop α) ↔ ∃ f, s = .failure f ∧ f.IsConversion := by
  simp [IsTold]

/-- An offence is an integer that is too long: one that cannot be read in a schema, or one that
cannot be written in a security scheme. -/
def Offence.IsInteger : Offence → Prop
  | .schema text => IsTooLong text
  | .scheme _ => False
  | .number _ => True

def StopsAtInteger (root : Raml.Root) : Prop :=
  ∃ offence rest, offences root = offence :: rest ∧ offence.IsInteger

/-- An offence is told with a failure of the conversion, unless it is an integer. -/
theorem TellsApart.cases {s : Stop} {offence : Offence} (h : TellsApart s offence) :
    (offence.IsInteger ∧ s = .integerTooLong) ∨
      (¬ offence.IsInteger ∧ ∃ f, s = .failure f ∧ f.IsConversion) := by
  obtain ⟨tells, tooLong⟩ := h
  cases tells with
  | schema text cause =>
    refine .inr ⟨fun long => ?_, _, rfl, trivial⟩
    cases tooLong text rfl long
  | integerTooLong failed => exact .inl ⟨⟨_, failed⟩, rfl⟩
  | scheme name reason => exact .inr ⟨id, _, rfl, trivial⟩
  | number name => exact .inl ⟨trivial, rfl⟩

/-- How a conversion ends, by its first offence and by the document. -/
theorem convert_cases (root : Raml.Root) (indent : Option Int) :
    (IsTold (convert root indent).outcome ∧ ¬ StopsAtInteger root ∧
      ∀ swagger, (document root).outcome = .ok swagger → swagger.IsWritable) ∨
    ((convert root indent).outcome = .error .integerTooLong ∧ StopsAtInteger root) ∨
    (((convert root indent).outcome = .error .integerTooLong ∨
        ∃ fault, (convert root indent).outcome = .error (.unlisted fault)) ∧
      ∃ swagger, (document root).outcome = .ok swagger ∧ ¬ swagger.IsWritable) := by
  have blames := blames_document root
  rw [convert, Report.outcome_bind]
  cases found : offences root with
  | nil =>
    rw [found] at blames
    obtain ⟨swagger, made⟩ := blames
    rw [made, ok_bind]
    rcases documentText_cases swagger indent with ⟨writable, written⟩ | ⟨unwritable, stopped⟩
    · refine .inl ⟨.inl written, ?_, ?_⟩
      · rintro ⟨offence, rest, first, _⟩
        rw [found] at first
        cases first
      · rintro _ ⟨⟩
        exact writable
    · exact .inr (.inr ⟨stopped, swagger, rfl, unwritable⟩)
  | cons offence rest =>
    rw [found] at blames
    obtain ⟨s, stopped, told⟩ := blames
    rw [stopped, error_bind]
    rcases told.cases with ⟨integer, rfl⟩ | ⟨other, f, rfl, conversion⟩
    · exact .inr (.inl ⟨rfl, offence, rest, found, integer⟩)
    · refine .inl ⟨.inr ⟨f, rfl, conversion⟩, ?_, ?_⟩
      · rintro ⟨first, more, same, integer⟩
        rw [found] at same
        cases same
        exact other integer
      · rintro swagger ⟨⟩

/-- A conversion comes to a text or to a failure of its own unless its first offence is an integer
that is too long, or its document cannot be written: it cannot be listed, or holds an integer that
is too long. Nothing but the two gets out of it. -/
theorem convert_isTold_iff (root : Raml.Root) (indent : Option Int) :
    (IsTold (convert root indent).outcome ↔ ¬ StopsAtInteger root ∧
      ∀ swagger, (document root).outcome = .ok swagger → swagger.IsWritable) ∧
    (¬ IsTold (convert root indent).outcome →
      (convert root indent).outcome = .error .integerTooLong ∨
        ∃ fault, (convert root indent).outcome = .error (.unlisted fault)) := by
  rcases convert_cases root indent with
    told | ⟨stopped, integer⟩ | ⟨stopped, swagger, made, unwritable⟩
  · exact ⟨iff_of_true told.1 told.2, fun untold => absurd told.1 untold⟩
  · rw [stopped, isTold_error_iff]
    refine ⟨iff_of_false ?_ fun h => h.1 integer, fun _ => .inl rfl⟩
    rintro ⟨_, ⟨⟩, _⟩
  · refine ⟨iff_of_false ?_ fun h => unwritable (h.2 swagger made), fun _ => stopped⟩
    rcases stopped with stopped | ⟨fault, stopped⟩
    all_goals
      rw [stopped, isTold_error_iff]
      rintro ⟨_, ⟨⟩, _⟩

/-- A schema that is an integer of one digit too many. -/
def longSchema : String :=
  String.ofList ('1' :: List.replicate 4300 '1')

theorem isTooLong_longSchema : IsTooLong longSchema := by
  refine ⟨0, Json.parse_of_manyDigits ?_ (by decide) ?_⟩
  · intro d hd
    rcases List.mem_cons.mp hd with rfl | later
    · decide
    · rw [List.eq_of_mem_replicate later]
      decide
  · rw [List.length_cons, List.length_replicate]
    decide

theorem offences_declaringRoot (text : String) :
    offences (declaringRoot text) = textOffences text := by
  simp [offences, declaringRoot, forestOffences, Raml.places]

theorem stopsAtInteger_of_isTooLong {text : String} (long : IsTooLong text) :
    StopsAtInteger (declaringRoot text) := by
  refine ⟨.schema text, [], ?_, long⟩
  obtain ⟨remaining, failed⟩ := long
  rw [offences_declaringRoot, textOffences, isObject, failed]
  rfl

theorem convert_of_isTooLong {text : String} (long : IsTooLong text) (indent : Option Int) :
    (convert (declaringRoot text) indent).outcome = .error .integerTooLong := by
  have stops := stopsAtInteger_of_isTooLong long
  rcases convert_cases (declaringRoot text) indent with
    ⟨_, short, _⟩ | ⟨stopped, _⟩ | ⟨_, _, made, _⟩
  · exact absurd stops short
  · exact stopped
  · obtain ⟨offence, rest, first, _⟩ := stops
    have blames := blames_document (declaringRoot text)
    rw [made] at blames
    rw [blames.eq_nil] at first
    cases first

/-- A description with a schema that is an integer of one digit too many is accepted, and the
conversion of it neither comes to a text nor is told with a failure. -/
theorem convert_longSchema :
    Raml.Root.read (declaring (.text longSchema)) = .accepted (declaringRoot longSchema) ∧
      (convert (declaringRoot longSchema) none).outcome = .error .integerTooLong ∧
      ¬ IsTold (convert (declaringRoot longSchema) none).outcome := by
  have stopped := convert_of_isTooLong isTooLong_longSchema none
  refine ⟨rfl, stopped, ?_⟩
  rw [stopped, isTold_error_iff]
  rintro ⟨_, ⟨⟩, _⟩

end Conversion

end RamlBridge
