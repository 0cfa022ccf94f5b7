import RamlBridge.Proofs.Conversion.Document

/-!
The parameters that every path sees: those of the base URI, and the variables of its prefix.
-/
namespace RamlBridge.Conversion

/-- What a base URI declares for every path. Without a hoisted prefix that is nothing; otherwise
it is the declared parameters, and behind them a text that must be given for every other variable
of the prefix. -/
def rootDeclarations (baseUri : Option BaseUri) (declared : Entries Raml.Parameter) :
    List (String × Raml.Parameter) :=
  match baseUri with
  | none => []
  | some uri =>
    if uri.hoistedPrefix = "" then []
    else
      declared ++ (uri.hoistedParameters.filter (· ∉ declared.names)).map (·, .plain true)

/-- Adds a variable of a hoisted prefix unless there is a parameter of that name. -/
def addVariable (parameters : Entries Raml.Parameter) (name : String) : Entries Raml.Parameter :=
  if parameters.contains name then parameters else parameters.put name (.plain true)

/-- A variable that is not declared is set whether it came before or not: if it did, it was set to
the same parameter. -/
theorem addVariable_eq_put {parameters : Entries Raml.Parameter} {name : String}
    (plain : ∀ p, parameters.find? name = some p → p = .plain true) :
    addVariable parameters name = parameters.put name (.plain true) := by
  by_cases there : parameters.contains name = true
  · obtain ⟨p, hp⟩ := Option.isSome_iff_exists.mp there
    rw [addVariable, if_pos there, Entries.put_of_find? (plain p hp ▸ hp)]
  · rw [addVariable, if_neg there]

theorem addVariable_of_mem {parameters : Entries Raml.Parameter} {name : String}
    (h : name ∈ parameters.names) : addVariable parameters name = parameters := by
  rw [addVariable, if_pos (Entries.contains_iff.mpr h)]

theorem names_subset_addVariable {parameters : Entries Raml.Parameter} {name other : String}
    (h : other ∈ parameters.names) : other ∈ (addVariable parameters name).names := by
  by_cases there : parameters.contains name = true
  · rwa [addVariable, if_pos there]
  · rw [addVariable, if_neg there, Entries.names_put]
    exact mem_addNew.mpr (Or.inl h)

theorem mem_addVariable {parameters : Entries Raml.Parameter} {name : String}
    {p : String × Raml.Parameter} (h : p ∈ addVariable parameters name) :
    p ∈ parameters ∨ p.2 = .plain true := by
  by_cases there : parameters.contains name = true
  · rw [addVariable, if_pos there] at h
    exact Or.inl h
  · rw [addVariable, if_neg there] at h
    rcases Entries.mem_put h with before | rfl
    · exact Or.inl before
    · exact Or.inr rfl

/-- Adding variables in turn sets those that are not declared. The declared names stay, and what
else has been added so far is plain. -/
theorem foldl_addVariable {declared : List String} (hoisted : List String)
    {parameters : Entries Raml.Parameter} (keeps : ∀ name ∈ declared, name ∈ parameters.names)
    (plain : ∀ p ∈ parameters, p.1 ∉ declared → p.2 = .plain true) :
    hoisted.foldl addVariable parameters =
      parameters.putAll ((hoisted.filter (· ∉ declared)).map (·, .plain true)) := by
  induction hoisted generalizing parameters with
  | nil => rfl
  | cons name rest ih =>
    by_cases hname : name ∈ declared
    · have dropped : (name :: rest).filter (· ∉ declared) = rest.filter (· ∉ declared) :=
        List.filter_cons_of_neg (by simpa using hname)
      rw [List.foldl_cons, addVariable_of_mem (keeps name hname), dropped]
      exact ih keeps plain
    · have kept : (name :: rest).filter (· ∉ declared) = name :: rest.filter (· ∉ declared) :=
        List.filter_cons_of_pos (by simpa using hname)
      have later : ∀ p ∈ addVariable parameters name, p.1 ∉ declared → p.2 = .plain true := by
        intro p hp undeclared
        rcases mem_addVariable hp with before | added
        · exact plain p before undeclared
        · exact added
      rw [List.foldl_cons, kept, ih (fun other h => names_subset_addVariable (keeps other h)) later,
        addVariable_eq_put fun p hp => plain (name, p) (Entries.mem_of_find? hp) hname]
      rfl

/-- The parameters that every path sees are what the base URI declares. -/
theorem rootParameters_eq (baseUri : Option BaseUri) {declared : Entries Raml.Parameter}
    (distinct : declared.names.Nodup) :
    rootParameters baseUri declared = Entries.ofList (rootDeclarations baseUri declared) := by
  cases baseUri with
  | none => rfl
  | some uri =>
    by_cases noPrefix : uri.hoistedPrefix = ""
    · simp only [rootParameters, rootDeclarations, if_pos noPrefix]
      rfl
    · simp only [rootParameters, rootDeclarations, if_neg noPrefix]
      have undeclared : ∀ p ∈ declared, p.1 ∉ declared.names → p.2 = .plain true :=
        fun p hp hname => absurd (List.mem_map_of_mem hp) hname
      rw [Entries.ofList_append, Entries.ofList_of_nodup distinct]
      exact foldl_addVariable uri.hoistedParameters (fun _ h => h) undeclared

theorem rootDeclarations_of_prefix_empty {baseUri : Option BaseUri} (h : prefixOf baseUri = "")
    (declared : Entries Raml.Parameter) : rootDeclarations baseUri declared = [] := by
  cases baseUri with
  | none => rfl
  | some uri => exact if_pos h

/-- Every path sees only declared parameters and plain ones. -/
theorem mem_rootParameters {baseUri : Option BaseUri} {declared : Entries Raml.Parameter}
    {p : String × Raml.Parameter} (h : p ∈ rootParameters baseUri declared) :
    p ∈ declared ∨ p.2 = .plain true := by
  have added (hoisted : List String) {parameters : Entries Raml.Parameter}
      (hp : p ∈ hoisted.foldl addVariable parameters) :
      p ∈ parameters ∨ p.2 = .plain true := by
    induction hoisted generalizing parameters with
    | nil => exact Or.inl hp
    | cons name rest ih =>
      rcases ih hp with before | plain
      · exact mem_addVariable before
      · exact Or.inr plain
  cases baseUri with
  | none => exact absurd h List.not_mem_nil
  | some uri =>
    by_cases noPrefix : uri.hoistedPrefix = ""
    · rw [rootParameters, if_pos noPrefix] at h
      exact absurd h List.not_mem_nil
    · rw [rootParameters, if_neg noPrefix] at h
      exact added uri.hoistedParameters h

end RamlBridge.Conversion
