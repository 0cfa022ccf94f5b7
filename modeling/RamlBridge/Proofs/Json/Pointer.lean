import RamlBridge.Decimal.Digits
import RamlBridge.Json.Basic
import RamlBridge.Proofs.Text.Pieces

/-!
JSON Pointers: the way down into a value, one token behind each slash. A slash is written `~1` in a
token and a tilde `~0`, so that a name which holds a slash or one of these is not its own token.
-/
namespace RamlBridge.Json

def readToken : List Char → List Char
  | '~' :: '1' :: rest => '/' :: readToken rest
  | '~' :: '0' :: rest => '~' :: readToken rest
  | c :: rest => c :: readToken rest
  | [] => []

/-- The tokens of a pointer. What stands before the first slash is the value as a whole. -/
def pointerTokens (pointer : String) : List String :=
  ((Text.split '/' pointer.toList).drop 1).map fun token => String.ofList (readToken token)

/-- What stands in a value under a token: a member under its name, or an item under its index. -/
def child? : Json → String → Option Json
  | .object members, token => Entries.find? members token
  | .array items, token => Entries.find? (items.zipIdx.map fun p => (Decimal.text p.2, p.1)) token
  | _, _ => none

def follow : Json → List String → Option Json
  | v, [] => some v
  | v, token :: rest => (v.child? token).bind fun inner => follow inner rest

/-- A name that is its own token. -/
structure IsVerbatim (name : String) : Prop where
  noSlash : '/' ∉ name.toList
  noTilde : Text.holds ['~', '0'] name.toList = false
  noEscapedSlash : Text.holds ['~', '1'] name.toList = false

section Tokens

theorem length_readToken_le (cs : List Char) : (readToken cs).length ≤ cs.length := by
  fun_induction readToken cs with
  | case1 rest ih => exact Nat.le_succ_of_le (Nat.succ_le_succ ih)
  | case2 rest ih => exact Nat.le_succ_of_le (Nat.succ_le_succ ih)
  | case3 c rest _ _ ih => exact Nat.succ_le_succ ih
  | case4 => exact Nat.le_refl 0

/-- A token stands for itself if and only if it holds none of the two escapes. -/
theorem readToken_eq_self_iff {cs : List Char} :
    readToken cs = cs ↔ Text.holds ['~', '0'] cs = false ∧ Text.holds ['~', '1'] cs = false := by
  fun_induction readToken cs with
  | case1 rest ih =>
    constructor
    · intro same
      cases (List.cons.inj same).1
    · rintro ⟨_, none⟩
      cases none
  | case2 rest ih =>
    constructor
    · intro same
      have shorter := length_readToken_le rest
      rw [(List.cons.inj same).2, List.length_cons] at shorter
      omega
    · rintro ⟨none, _⟩
      cases none
  | case3 c rest noSlash noTilde ih =>
    have notHere (digit : Char) (other : ∀ rest', c = '~' → rest = digit :: rest' → False) :
        List.isPrefixOf ['~', digit] (c :: rest) = false := by
      rw [← Bool.not_eq_true, List.isPrefixOf_iff_prefix]
      rintro ⟨rest', split⟩
      cases split
      exact other rest' rfl rfl
    rw [List.cons_inj_right, ih, Text.holds, Text.holds, notHere '0' noTilde, notHere '1' noSlash,
      Bool.false_or, Bool.false_or]
  | case4 => exact ⟨fun _ => ⟨rfl, rfl⟩, fun _ => rfl⟩

theorem pointerTokens_append (pointer name : String) :
    pointerTokens (pointer ++ "/" ++ name) =
      pointerTokens pointer ++
        (Text.split '/' name.toList).map fun token => String.ofList (readToken token) := by
  have text : (pointer ++ "/" ++ name).toList = pointer.toList ++ '/' :: name.toList := by
    rw [String.toList_append, String.toList_append, List.append_assoc]
    rfl
  have given : 1 ≤ (Text.split '/' pointer.toList).length :=
    List.length_pos_iff.mpr (Text.split_ne_nil '/' pointer.toList)
  rw [pointerTokens, text, Text.split_append_separator, List.drop_append_of_le_length given,
    List.map_append]
  rfl

/-- A name behind the last slash of a pointer is one more token if and only if it is its own
token. -/
theorem pointerTokens_append_iff {pointer name : String} :
    pointerTokens (pointer ++ "/" ++ name) = pointerTokens pointer ++ [name] ↔
      IsVerbatim name := by
  rw [pointerTokens_append, List.append_right_inj]
  constructor
  · intro one
    obtain ⟨piece, only, read⟩ := List.map_eq_singleton_iff.mp one
    obtain ⟨noSlash, rfl⟩ := Text.split_eq_singleton only
    have itself : readToken name.toList = name.toList := by
      rw [← String.toList_ofList (l := readToken name.toList), read]
    obtain ⟨noTilde, noEscapedSlash⟩ := readToken_eq_self_iff.mp itself
    exact ⟨noSlash, noTilde, noEscapedSlash⟩
  · intro verbatim
    have itself := readToken_eq_self_iff.mpr ⟨verbatim.noTilde, verbatim.noEscapedSlash⟩
    rw [Text.split_of_not_mem verbatim.noSlash, List.map_singleton, itself, String.ofList_toList]

end Tokens

/-- Tokens are followed one part after the other. -/
theorem follow_append (v : Json) (first second : List String) :
    v.follow (first ++ second) = (v.follow first).bind fun inner => inner.follow second := by
  induction first generalizing v with
  | nil => rfl
  | cons token rest ih =>
    rw [List.cons_append, follow, follow, Option.bind_assoc]
    congr 1
    funext inner
    exact ih inner

end RamlBridge.Json
