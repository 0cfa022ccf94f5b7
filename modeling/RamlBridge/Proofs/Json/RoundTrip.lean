import RamlBridge.Proofs.Entries
import RamlBridge.Proofs.Json.AsciiText
import RamlBridge.Proofs.Json.Tree

/-!
Reading a written value back. The text of a value is read as that value whatever follows it, by
induction on the value; the blanks that a layout puts in are skipped.
-/
namespace RamlBridge.Json

section Blanks

theorem skipBlanks_append {blanks : List Char} (h : ∀ c ∈ blanks, isBlank c = true)
    (cs : List Char) : skipBlanks (blanks ++ cs) = skipBlanks cs :=
  List.dropWhile_append_of_pos h

theorem skipBlanks_of_head {c : Char} (h : isBlank c = false) (cs : List Char) :
    skipBlanks (c :: cs) = c :: cs :=
  List.dropWhile_cons_of_neg (by simp [h])

theorem skipBlanks_gap (layout : Layout) (depth : Nat) (cs : List Char) :
    skipBlanks (layout.gap depth ++ cs) = skipBlanks cs := by
  unfold Layout.gap
  cases layout.indent with
  | none => rfl
  | some width =>
    apply skipBlanks_append
    intro c hc
    rcases List.mem_cons.mp hc with rfl | space
    · rfl
    · rw [List.eq_of_mem_replicate space]
      rfl

theorem comma_eq (layout : Layout) (depth : Nat) :
    ∃ blanks, layout.comma depth = ',' :: blanks ∧
      ∀ cs, skipBlanks (blanks ++ cs) = skipBlanks cs := by
  unfold Layout.comma
  cases layout.indent with
  | none => exact ⟨[' '], rfl, skipBlanks_append (by simp [isBlank])⟩
  | some width => exact ⟨layout.gap depth, rfl, skipBlanks_gap layout depth⟩

theorem delimits_gap (layout : Layout) (depth : Nat) {cs : List Char} (h : Delimits cs) :
    Delimits (layout.gap depth ++ cs) := by
  unfold Layout.gap
  cases layout.indent with
  | none => exact h
  | some width => exact delimits_of_mem (by simp) _

end Blanks

/-- The characters that no value begins with: the blanks, the closing brackets and the mark of a
byte order. -/
def nonStarting : List Char := [' ', '\t', '\n', '\r', ']', '\x7d', Char.ofNat 0xfeff]

/-- Nothing is read from a text that begins with one of them. -/
theorem value_starts {fuel : Nat} {cs : List Char} {r : Json × List Char}
    (h : value fuel cs = .ok r) : ∃ c more, cs = c :: more ∧ c ∉ nonStarting := by
  cases fuel with
  | zero => cases h
  | succ fuel =>
    cases cs with
    | nil => cases h
    | cons c more =>
      refine ⟨c, more, rfl, ?_⟩
      intro hc
      simp only [nonStarting, List.mem_cons, List.not_mem_nil, or_false] at hc
      rcases hc with rfl | rfl | rfl | rfl | rfl | rfl | rfl <;> cases h

section Written

variable {layout : Layout}

/-- The text of a value is read as that value at every depth, by enough fuel, whatever follows. -/
def Reads (layout : Layout) (v : Json) : Prop :=
  ∀ depth fuel rest, Delimits rest → 2 * (render layout depth v).length ≤ fuel →
    value fuel (render layout depth v ++ rest) = .ok (v, rest)

theorem Reads.starts {v : Json} (h : Reads layout v) (depth : Nat) {rest : List Char}
    (delimits : Delimits rest) :
    ∃ c more, render layout depth v ++ rest = c :: more ∧ c ∉ nonStarting :=
  value_starts (h depth _ rest delimits (Nat.le_refl _))

theorem Reads.skipBlanks {v : Json} (h : Reads layout v) (depth : Nat) {rest : List Char}
    (delimits : Delimits rest) :
    skipBlanks (render layout depth v ++ rest) = render layout depth v ++ rest := by
  obtain ⟨c, more, first, starts⟩ := h.starts depth delimits
  have visible : isBlank c = false := by
    simp only [nonStarting, List.mem_cons, not_or] at starts
    simp [isBlank, starts]
  rw [first, skipBlanks_of_head visible]

def itemsTail (layout : Layout) (depth : Nat) (xs : List Json) (rest : List Char) : List Char :=
  renderItems layout (depth + 1) xs ++ (layout.gap depth ++ ']' :: rest)

theorem itemsTail_cons (layout : Layout) (depth : Nat) (x : Json) (xs : List Json)
    (rest : List Char) :
    itemsTail layout depth (x :: xs) rest =
      layout.comma (depth + 1) ++
        (render layout (depth + 1) x ++ itemsTail layout depth xs rest) := by
  simp only [itemsTail, renderItems, List.append_assoc]

theorem delimits_comma (layout : Layout) (depth : Nat) (cs : List Char) :
    Delimits (layout.comma depth ++ cs) := by
  obtain ⟨blanks, comma, -⟩ := comma_eq layout depth
  rw [comma]
  exact delimits_of_mem (by simp) _

theorem delimits_itemsTail (layout : Layout) (depth : Nat) (xs : List Json) (rest : List Char) :
    Delimits (itemsTail layout depth xs rest) := by
  cases xs with
  | nil => exact delimits_gap layout depth (delimits_of_mem (by simp) rest)
  | cons x xs =>
    rw [itemsTail_cons]
    exact delimits_comma layout (depth + 1) _

theorem items_written {depth : Nat} {x : Json} {xs : List Json}
    (read : ∀ y ∈ x :: xs, Reads layout y) (rest : List Char) {fuel : Nat}
    (enough : 2 * (render layout (depth + 1) x ++ itemsTail layout depth xs []).length ≤ fuel) :
    items fuel (render layout (depth + 1) x ++ itemsTail layout depth xs rest) =
      .ok (x :: xs, rest) := by
  -- The fuel is bounded by the text of the items alone: what follows the array is not read here.
  induction xs generalizing x fuel with
  | nil =>
    simp only [itemsTail, renderItems, List.length_append, List.length_cons] at enough
    obtain ⟨fuel, rfl⟩ : ∃ k, fuel = k + 1 := ⟨fuel - 1, by omega⟩
    have first := read x List.mem_cons_self (depth + 1) fuel
      (itemsTail layout depth [] rest) (delimits_itemsTail layout depth [] rest) (by omega)
    have closed : skipBlanks (itemsTail layout depth [] rest) = ']' :: rest :=
      skipBlanks_gap layout depth _
    rw [items, first]
    simp only [bind, Except.bind, closed]
  | cons y ys ih =>
    obtain ⟨blanks, comma, skipped⟩ := comma_eq layout (depth + 1)
    rw [itemsTail_cons, comma] at enough
    simp only [List.length_append, List.length_cons] at enough
    obtain ⟨fuel, rfl⟩ : ∃ k, fuel = k + 1 := ⟨fuel - 1, by omega⟩
    have first := read x List.mem_cons_self (depth + 1) fuel
      (itemsTail layout depth (y :: ys) rest) (delimits_itemsTail layout depth (y :: ys) rest)
      (by omega)
    have others : ∀ z ∈ y :: ys, Reads layout z := fun z hz =>
      read z (List.mem_cons_of_mem x hz)
    have shorter : 2 * (render layout (depth + 1) y ++ itemsTail layout depth ys []).length ≤
        fuel := by
      rw [List.length_append]
      omega
    have next := ih others shorter
    have visible := (others y List.mem_cons_self).skipBlanks (depth + 1)
      (delimits_itemsTail layout depth ys rest)
    rw [items, first, itemsTail_cons, comma]
    simp only [bind, Except.bind, List.cons_append, skipBlanks_of_head (c := ',') rfl, skipped,
      visible, next]

def membersTail (layout : Layout) (depth : Nat) (ms : List (String × Json)) (rest : List Char) :
    List Char :=
  renderMembers layout (depth + 1) ms ++ (layout.gap depth ++ '\x7d' :: rest)

/-- A member of an object that is followed by the others. -/
def memberText (layout : Layout) (depth : Nat) (m : String × Json) (tail : List Char) :
    List Char :=
  quotedText layout.ascii m.1 ++ (':' :: ' ' :: (render layout (depth + 1) m.2 ++ tail))

theorem membersTail_cons (layout : Layout) (depth : Nat) (m : String × Json)
    (ms : List (String × Json)) (rest : List Char) :
    membersTail layout depth (m :: ms) rest =
      layout.comma (depth + 1) ++
        memberText layout depth m (membersTail layout depth ms rest) := by
  simp [membersTail, memberText, renderMembers, List.append_assoc]

theorem delimits_membersTail (layout : Layout) (depth : Nat) (ms : List (String × Json))
    (rest : List Char) : Delimits (membersTail layout depth ms rest) := by
  cases ms with
  | nil => exact delimits_gap layout depth (delimits_of_mem (by simp) rest)
  | cons m ms =>
    rw [membersTail_cons]
    exact delimits_comma layout (depth + 1) _

theorem skipBlanks_space (cs : List Char) : skipBlanks (' ' :: cs) = skipBlanks cs := rfl

theorem members_written {depth : Nat} {m : String × Json} {ms : List (String × Json)}
    (names : ∀ p ∈ m :: ms, ReadsText layout.ascii p.1)
    (read : ∀ p ∈ m :: ms, Reads layout p.2) (rest : List Char) {fuel : Nat}
    (enough : 2 * (memberText layout depth m (membersTail layout depth ms [])).length ≤ fuel) :
    members fuel (memberText layout depth m (membersTail layout depth ms rest)) =
      .ok (m :: ms, rest) := by
  induction ms generalizing m fuel with
  | nil =>
    simp only [memberText, List.length_append, List.length_cons] at enough
    obtain ⟨fuel, rfl⟩ : ∃ k, fuel = k + 1 := ⟨fuel - 1, by omega⟩
    have delimits := delimits_membersTail layout depth [] rest
    have first := read m List.mem_cons_self (depth + 1) fuel _ delimits (by omega)
    have visible := (read m List.mem_cons_self).skipBlanks (depth + 1) delimits
    have closed : skipBlanks (membersTail layout depth [] rest) = '\x7d' :: rest :=
      skipBlanks_gap layout depth _
    rw [memberText, quotedText_append, members, names m List.mem_cons_self]
    simp only [bind, Except.bind, skipBlanks_of_head (c := ':') rfl, skipBlanks_space, visible,
      first, closed]
  | cons n ns ih =>
    obtain ⟨blanks, comma, skipped⟩ := comma_eq layout (depth + 1)
    rw [membersTail_cons, comma, memberText] at enough
    simp only [List.length_append, List.length_cons] at enough
    obtain ⟨fuel, rfl⟩ : ∃ k, fuel = k + 1 := ⟨fuel - 1, by omega⟩
    have delimits := delimits_membersTail layout depth (n :: ns) rest
    have first := read m List.mem_cons_self (depth + 1) fuel _ delimits (by omega)
    have visible := (read m List.mem_cons_self).skipBlanks (depth + 1) delimits
    have shorter : 2 * (memberText layout depth n (membersTail layout depth ns [])).length ≤
        fuel := by omega
    have next := ih (fun p hp => names p (List.mem_cons_of_mem m hp))
      (fun p hp => read p (List.mem_cons_of_mem m hp)) shorter
    have opening : skipBlanks (memberText layout depth n (membersTail layout depth ns rest)) =
        memberText layout depth n (membersTail layout depth ns rest) := by
      rw [memberText, quotedText_append, skipBlanks_of_head rfl]
    rw [memberText, quotedText_append, members, names m List.mem_cons_self]
    simp only [bind, Except.bind, skipBlanks_of_head (c := ':') rfl, skipBlanks_space, visible,
      first]
    rw [membersTail_cons, comma]
    simp only [List.cons_append, skipBlanks_of_head (c := ',') rfl, skipped, opening, next]

theorem fuel_succ {c : Char} {more : List Char} {fuel : Nat}
    (enough : 2 * (c :: more).length ≤ fuel) : ∃ k, fuel = k + 1 ∧ 2 * more.length ≤ k := by
  rw [List.length_cons] at enough
  exact ⟨fuel - 1, by omega, by omega⟩

theorem value_array {cs more : List Char} {c : Char} (first : skipBlanks cs = c :: more)
    (inside : c ≠ ']') (fuel : Nat) :
    value (fuel + 1) ('[' :: cs) =
      (items fuel (skipBlanks cs)).map fun p => (.array p.1, p.2) := by
  rw [value, first]
  split
  · next same => exact absurd (List.cons.inj same).1 inside
  · rfl

theorem value_object {cs more : List Char} {c : Char} (first : skipBlanks cs = c :: more)
    (inside : c ≠ '\x7d') (fuel : Nat) :
    value (fuel + 1) ('\x7b' :: cs) =
      (members fuel (skipBlanks cs)).map fun p => (.object (Entries.ofList p.1), p.2) := by
  rw [value, first]
  split
  · next same => exact absurd (List.cons.inj same).1 inside
  · rfl

theorem reads_array {xs : List Json} (read : ∀ x ∈ xs, Reads layout x) :
    Reads layout (.array xs) := by
  intro depth fuel rest delimits enough
  cases xs with
  | nil =>
    rw [render] at enough ⊢
    obtain ⟨fuel, rfl, -⟩ := fuel_succ enough
    rfl
  | cons x xs =>
    rw [render] at enough ⊢
    obtain ⟨fuel, rfl, more⟩ := fuel_succ enough
    have tail := delimits_itemsTail layout depth xs rest
    obtain ⟨c, cs, first, starts⟩ := (read x List.mem_cons_self).starts (depth + 1) tail
    have inside : c ≠ ']' := by
      rintro rfl
      exact starts (by decide)
    have shorter : 2 * (render layout (depth + 1) x ++ itemsTail layout depth xs []).length ≤
        fuel := by
      simp only [itemsTail, List.length_append] at more ⊢
      omega
    have body := items_written read rest shorter
    have visible : skipBlanks (layout.gap (depth + 1) ++
        (render layout (depth + 1) x ++ itemsTail layout depth xs rest)) =
          render layout (depth + 1) x ++ itemsTail layout depth xs rest := by
      rw [skipBlanks_gap, (read x List.mem_cons_self).skipBlanks (depth + 1) tail]
    have opened := value_array (visible.trans first) inside fuel
    rw [visible, body] at opened
    simp only [Except.map] at opened
    simpa only [itemsTail, List.cons_append, List.append_assoc, List.nil_append] using opened

theorem reads_object {ms : List (String × Json)} (distinct : (Entries.names ms).Nodup)
    (names : ∀ m ∈ ms, ReadsText layout.ascii m.1) (read : ∀ m ∈ ms, Reads layout m.2) :
    Reads layout (.object ms) := by
  intro depth fuel rest delimits enough
  cases ms with
  | nil =>
    rw [render] at enough ⊢
    obtain ⟨fuel, rfl, -⟩ := fuel_succ enough
    rfl
  | cons m ms =>
    rw [render] at enough ⊢
    obtain ⟨fuel, rfl, more⟩ := fuel_succ enough
    have shorter : 2 * (memberText layout depth m (membersTail layout depth ms [])).length ≤
        fuel := by
      simp only [memberText, membersTail, List.length_append, List.length_cons,
        List.length_nil] at more ⊢
      omega
    have body := members_written names read rest shorter
    have visible : skipBlanks (layout.gap (depth + 1) ++
        memberText layout depth m (membersTail layout depth ms rest)) =
          memberText layout depth m (membersTail layout depth ms rest) := by
      rw [skipBlanks_gap, memberText, quotedText_append, skipBlanks_of_head rfl]
    have first : ∃ cs, memberText layout depth m (membersTail layout depth ms rest) =
        '"' :: cs := ⟨_, by rw [memberText, quotedText_append]⟩
    obtain ⟨cs, first⟩ := first
    have opened := value_object (visible.trans first) (by decide) fuel
    rw [visible, body] at opened
    simp only [Except.map, Entries.ofList_of_nodup distinct] at opened
    simpa only [memberText, membersTail, List.cons_append, List.append_assoc, List.nil_append]
      using opened

/-- The texts that a value holds itself are read back: a text, and the names of members. -/
def IsReadable (ascii : Bool) : Json → Prop
  | .text s => ReadsText ascii s
  | .object members => ∀ m ∈ members, ReadsText ascii m.1
  | _ => True

theorem isReadable_plain (v : Json) : IsReadable false v := by
  cases v with
  | text s => exact readsText_plain s
  | object members => exact fun m _ => readsText_plain m.1
  | null | bool | int | float | array => trivial

/-- Every faithful value is read from its text, in every layout in which its texts are read. -/
theorem reads_of_faithful (v : Json) (faithful : v.Faithful)
    (readable : v.Everywhere (IsReadable layout.ascii)) : Reads layout v := by
  induction v using tree_induction with
  | null =>
    intro depth fuel rest _ enough
    rw [render] at enough ⊢
    obtain ⟨fuel, rfl, -⟩ := fuel_succ enough
    rfl
  | bool b =>
    intro depth fuel rest _ enough
    cases b
    all_goals
      rw [render] at enough ⊢
      obtain ⟨fuel, rfl, -⟩ := fuel_succ enough
      rfl
  | int n =>
    intro depth fuel rest delimits enough
    rw [render] at enough ⊢
    obtain ⟨c, cs, first⟩ := List.exists_cons_of_ne_nil (Decimal.integer_ne_nil n)
    rw [first] at enough
    obtain ⟨fuel, rfl, -⟩ := fuel_succ enough
    exact value_integer delimits fuel faithful.exact
  | float x => exact absurd faithful.exact id
  | text s =>
    intro depth fuel rest _ enough
    rw [render] at enough ⊢
    obtain ⟨fuel, rfl, -⟩ := fuel_succ enough
    exact value_quotedText readable fuel rest
  | array xs ih =>
    have inside := (everywhere_array.mp readable).2
    exact reads_array fun x hx => ih x hx (faithful.item hx) (inside x hx)
  | object ms ih =>
    obtain ⟨names, inside⟩ := everywhere_object.mp readable
    exact reads_object faithful.names names fun m hm =>
      ih m hm (faithful.member hm) (inside m hm)

/-- A faithful value is what its text denotes, if the texts in it are read back. -/
theorem parse_written_of_readable {v : Json} (faithful : v.Faithful)
    (readable : v.Everywhere (IsReadable layout.ascii)) : parse (v.written layout) = .ok v := by
  have reads := reads_of_faithful v faithful readable
  have ends : Delimits [] := fun c first => by cases first
  have read := reads 0 (2 * (render layout 0 v).length + 2) [] ends (by omega)
  have visible := reads.skipBlanks 0 ends
  obtain ⟨c, cs, first, starts⟩ := reads.starts 0 ends
  rw [List.append_nil] at read visible first
  have unmarked : (render layout 0 v).head? ≠ some (Char.ofNat 0xfeff) := by
    rw [first]
    rintro same
    rw [Option.some.inj same] at starts
    exact starts (by decide)
  rw [parse, written, String.toList_ofList, parseChars, if_neg unmarked, visible, read]
  rfl

/-- A faithful value is what its text denotes, on one line or on indented lines of any width. -/
theorem parse_written (ascii : layout.ascii = false) {v : Json} (faithful : v.Faithful) :
    parse (v.written layout) = .ok v :=
  parse_written_of_readable faithful (ascii ▸ everywhere_of_forall isReadable_plain v)

/-- No two halves of a pair stand next to each other in the texts that a value holds itself. -/
def IsApart : Json → Prop
  | .text s => HalvesApart s.toList
  | .object members => ∀ m ∈ members, HalvesApart m.1.toList
  | _ => True

theorem apart_single {name : String} {v : Json} (hname : HalvesApart name.toList)
    (h : v.Everywhere IsApart) : (Json.object [(name, v)]).Everywhere IsApart := by
  rw [everywhere_object]
  exact ⟨fun m hm => List.mem_singleton.mp hm ▸ hname, fun m hm => List.mem_singleton.mp hm ▸ h⟩

theorem isReadable_of_isApart (v : Json) (apart : v.IsApart) : IsReadable true v := by
  cases v with
  | text s => exact readsText_ascii apart
  | object members => exact fun m hm => readsText_ascii (apart m hm)
  | null | bool | int | float | array => trivial

/-- In ASCII characters, a faithful value is what its text denotes if the halves of pairs in it
are apart. -/
theorem parse_written_ascii {v : Json} (faithful : v.Faithful) (apart : v.Everywhere IsApart) :
    parse (v.written .asciiLine) = .ok v :=
  parse_written_of_readable faithful (apart.imp isReadable_of_isApart)

end Written

end RamlBridge.Json
