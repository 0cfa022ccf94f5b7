import RamlBridge.Datum.Calendar
import RamlBridge.Json.Basic

/-!
The values of a document before any model has read them: scalars of every kind that a document
can hold, and collections of them. The keys of a map are scalars.
-/
namespace RamlBridge

/-- A value without parts; only a pair of two such, which can be a key, has any. -/
inductive Scalar where
  | null
  | bool (b : Bool)
  | int (n : Int)
  | float (x : Binary64)
  | text (s : String)
  | bytes (content : List UInt8)
  | date (d : Date)
  | clock (t : Clock)
  | moment (m : Moment)
  | pair (first second : Scalar)
deriving DecidableEq, Repr, Inhabited

/-- A scalar, a list, a pair out of an ordered list of pairs, a set, or a map. -/
inductive Datum where
  | scalar (s : Scalar)
  | list (items : List Datum)
  | pair (first second : Datum)
  | set (members : List Scalar)
  | map (entries : List (Scalar × Datum))
deriving Inhabited

namespace Scalar

def integer? : Scalar → Option Int
  | .bool b => some (if b then 1 else 0)
  | .int n => some n
  | .float x => x.toInt?
  | _ => none

/-- Whether two scalars are one key: numbers are equal across their kinds, and moments across
their offsets. -/
def sameKey : Scalar → Scalar → Bool
  | .float x, .float y => x.same y
  | .moment s, .moment t => s.same t
  | .pair a b, .pair c d => sameKey a c && sameKey b d
  | a, b =>
    match a.integer?, b.integer? with
    | some m, some n => m == n
    | _, _ => a == b

/-- Whether a scalar counts as given: neither null nor false, nor zero, nor empty. -/
def isGiven : Scalar → Bool
  | .null => false
  | .bool b => b
  | .int n => n != 0
  | .float x => !x.same (.zero false)
  | .text s => s != ""
  | .bytes content => !content.isEmpty
  | _ => true

end Scalar

namespace Datum

def key? : Datum → Option Scalar
  | .scalar s => some s
  | .pair a b =>
    match key? a, key? b with
    | some s, some t => some (.pair s t)
    | _, _ => none
  | _ => none

abbrev null : Datum := .scalar .null

abbrev text (s : String) : Datum := .scalar (.text s)

/-- Whether a value counts as given: an empty one does not. -/
def isGiven : Datum → Bool
  | .scalar s => s.isGiven
  | .list items => !items.isEmpty
  | .pair .. => true
  | .set members => !members.isEmpty
  | .map entries => !entries.isEmpty

mutual

def ofJson : Json → Datum
  | .null => .scalar .null
  | .bool b => .scalar (.bool b)
  | .int n => .scalar (.int n)
  | .float x => .scalar (.float x)
  | .text s => .scalar (.text s)
  | .array items => .list (ofItems items)
  | .object members => .map (ofMembers members)

def ofItems : List Json → List Datum
  | [] => []
  | x :: xs => ofJson x :: ofItems xs

def ofMembers : List (String × Json) → List (Scalar × Datum)
  | [] => []
  | (name, x) :: rest => (.text name, ofJson x) :: ofMembers rest

end

def lookup? : List (Scalar × Datum) → String → Option Datum
  | [], _ => none
  | (key, value) :: rest, name => if key = .text name then some value else lookup? rest name

/-- Sets the value under a key in place, or at the end if the key is new. -/
def putKey : List (Scalar × Datum) → Scalar → Datum → List (Scalar × Datum)
  | [], key, value => [(key, value)]
  | (k, v) :: rest, key, value =>
    if k.sameKey key then (k, value) :: rest else (k, v) :: putKey rest key value

/-- The map entries that a list of pairs denotes: each key once, with its last value. -/
def ofPairs (pairs : List (Scalar × Datum)) : List (Scalar × Datum) :=
  pairs.foldl (fun entries p => putKey entries p.1 p.2) []

theorem forall_putKey {P : Datum → Prop} {es : List (Scalar × Datum)} {k : Scalar} {d : Datum}
    (h : ∀ p ∈ es, P p.2) (hd : P d) : ∀ p ∈ putKey es k d, P p.2 := by
  induction es with
  | nil => exact List.forall_mem_singleton.mpr hd
  | cons q rest ih =>
    obtain ⟨first, later⟩ := List.forall_mem_cons.mp h
    unfold putKey
    split
    · exact List.forall_mem_cons.mpr ⟨hd, later⟩
    · exact List.forall_mem_cons.mpr ⟨first, ih later⟩

theorem forall_ofPairs {P : Datum → Prop} {ps : List (Scalar × Datum)} (h : ∀ p ∈ ps, P p.2) :
    ∀ p ∈ ofPairs ps, P p.2 := by
  suffices ∀ start, (∀ p ∈ start, P p.2) →
      ∀ p ∈ ps.foldl (fun entries p => putKey entries p.1 p.2) start, P p.2 from
    this [] (by simp)
  induction ps with
  | nil => exact fun start hstart => hstart
  | cons q rest ih =>
    obtain ⟨first, later⟩ := List.forall_mem_cons.mp h
    exact fun start hstart => ih later _ (forall_putKey hstart first)

end Datum

end RamlBridge
