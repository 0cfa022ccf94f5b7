import RamlBridge.Proofs.Decimal.Digits
import RamlBridge.Proofs.Raml.BodyNames

/-!
Bodies that name no media type are bodies of the media type of the document. To file each of them
under that type in the document itself, at every depth, changes nothing in what is read.
-/
namespace RamlBridge.Raml

open Checked Datum

section Changes

def changeValues (change : Scalar → Datum → Datum) : Datum → Datum
  | .map es => .map (es.map fun p => (p.1, change p.1 p.2))
  | d => d

def changePair (f : Datum → Datum) : Datum → Datum
  | .list [k, d] => .list [k, f d]
  | .pair k d => .pair k (f d)
  | d => d

/-- A group of entries with their values changed, however the entries are written. -/
def changeGroup (f : Datum → Datum) : Datum → Datum
  | .map es => .map (es.map fun p => (p.1, f p.2))
  | .list items => .list (items.map (changePair f))
  | .pair a b => .pair (changePair f a) (changePair f b)
  | d => d

mutual

/-- A resource with its methods changed, and those of all resources below it. -/
def changeMethods (f : Datum → Datum) : Datum → Datum
  | .map es => .map (changeParts f es)
  | d => d

def changeParts (f : Datum → Datum) : List (Scalar × Datum) → List (Scalar × Datum)
  | [] => []
  | (k, d) :: rest =>
    (k, if k = .text "resources" then changeForest f d
      else if k = .text "actions" then changeGroup f d
      else if isPath k then changeMethods f d
      else if (method? k).isSome then f d
      else d) :: changeParts f rest

def changeForest (f : Datum → Datum) : Datum → Datum
  | .map es => .map (changeTrees f es)
  | .list items => .list (changeItems f items)
  | .pair a b => .pair (changeItem f a) (changeItem f b)
  | d => d

def changeTrees (f : Datum → Datum) : List (Scalar × Datum) → List (Scalar × Datum)
  | [] => []
  | (k, d) :: rest => (k, changeMethods f d) :: changeTrees f rest

def changeItems (f : Datum → Datum) : List Datum → List Datum
  | [] => []
  | d :: ds => changeItem f d :: changeItems f ds

def changeItem (f : Datum → Datum) : Datum → Datum
  | .list [k, d] => .list [k, changeMethods f d]
  | .pair k d => .pair k (changeMethods f d)
  | d => d

end

def changeTop (f : Datum → Datum) (k : Scalar) (d : Datum) : Datum :=
  if k = .text "resources" then changeForest f d
  else if isPath k then changeMethods f d
  else d

def changeAllMethods (f : Datum → Datum) : Datum → Datum := changeValues (changeTop f)

theorem orEmpty_changeValues (change : Scalar → Datum → Datum) (d : Datum) :
    orEmpty (changeValues change d) = changeValues change (orEmpty d) := by
  cases d with
  | scalar s => cases s <;> rfl
  | list | pair | set | map => rfl

/-- What is read of maps alike is read alike of every value. -/
theorem read_changeValues {α : Type} {read : Datum → α} {change : Scalar → Datum → Datum}
    (h : ∀ es, read (.map (es.map fun p => (p.1, change p.1 p.2))) = read (.map es)) (d : Datum) :
    read (changeValues change d) = read d := by
  cases d with
  | map es => exact h es
  | scalar | list | pair | set => rfl

theorem alike_changeValues {R : Datum → Datum → Prop} {f : Datum → Datum} (h : ∀ d, R (f d) d)
    (es : List (Scalar × Datum)) : Alike R (es.map fun p => (p.1, f p.2)) es :=
  List.forall₂_map_left_iff.mpr (List.forall₂_same.mpr fun p _ => ⟨rfl, h p.2⟩)

theorem byKey_changeValues {K : Scalar → Datum → Datum → Prop} {change : Scalar → Datum → Datum}
    (h : ∀ k d, K k (change k d) d) (es : List (Scalar × Datum)) :
    ByKey K (es.map fun p => (p.1, change p.1 p.2)) es :=
  List.forall₂_map_left_iff.mpr (List.forall₂_same.mpr fun p _ => ⟨rfl, h p.1 p.2⟩)

end Changes

section Kept

variable {mediaType : Datum} {f : Datum → Datum}

theorem groupAlike_changeGroup {S : Datum → Datum → Prop} (h : ∀ d, S (f d) d) (d : Datum) :
    GroupAlike S (changeGroup f d) d := by
  have pair (d : Datum) : PairAlike S (changePair f d) d := by
    unfold changePair
    split
    · exact .list _ (h _)
    · exact .pair _ (h _)
    · exact .same _
  unfold changeGroup
  split
  · exact .map (alike_changeValues h _)
  · exact .list (List.forall₂_map_left_iff.mpr (List.forall₂_same.mpr fun d _ => pair d))
  · exact .pair (pair _) (pair _)
  · exact .same _

/-- A change of methods after which each of them is read as before. -/
structure KeepsMethods (mediaType : Datum) (f : Datum → Datum) : Prop where
  read : ∀ d, Action.read mediaType (f d) = Action.read mediaType d
  shape : ∀ d, orEmpty (f d) = f (orEmpty d)

theorem KeepsMethods.same (keeps : KeepsMethods mediaType f) (d : Datum) :
    Action.ReadAlike Eq mediaType (f d) d := by
  rw [Action.ReadAlike, keeps.read]
  exact .refl (fun _ => rfl) _

-- By recursion on the value, one theorem for each way in which resources nest: as values of
-- paths, or in a group that is a map, a list of pairs or a pair.
mutual

theorem readAlike_changeMethods (keeps : KeepsMethods mediaType f) :
    ∀ d, Resource.ReadAlike Eq mediaType (changeMethods f d) d
  | .map es => Resource.readAlike_map (byKey_changeParts keeps es)
  | .scalar _ => .refl (fun _ => rfl) mediaType _
  | .list _ => .refl (fun _ => rfl) mediaType _
  | .pair _ _ => .refl (fun _ => rfl) mediaType _
  | .set _ => .refl (fun _ => rfl) mediaType _

theorem byKey_changeParts (keeps : KeepsMethods mediaType f) :
    ∀ es, ByKey (InResource (Resource.ReadAlike Eq mediaType) (Action.ReadAlike Eq mediaType))
      (changeParts f es) es
  | [] => .nil
  | (k, d) :: rest => by
    have below := readAlike_changeMethods keeps d
    have forest := groupAlike_changeForest keeps d
    refine .cons ⟨rfl, ?_⟩ (byKey_changeParts keeps rest)
    by_cases inResources : k = .text "resources"
    · rw [if_pos inResources, inResources]
      exact .ofResources (forest.related_looseEntries (.refl (fun _ => rfl) mediaType))
    rw [if_neg inResources]
    by_cases inActions : k = .text "actions"
    · rw [if_pos inActions, inActions]
      exact .ofActions ((groupAlike_changeGroup keeps.same d).related_looseEntries
        (.refl (fun _ => rfl) mediaType))
    rw [if_neg inActions]
    by_cases path : isPath k = true
    · rw [if_pos path]
      exact .ofPath path below.orEmpty
    rw [if_neg path]
    by_cases method : (method? k).isSome = true
    · rw [if_pos method]
      exact .ofMethod (by simpa using path) method (keeps.shape d ▸ keeps.same (orEmpty d))
    · rw [if_neg method]
      exact .refl (.refl (fun _ => rfl) mediaType) (.refl (fun _ => rfl) mediaType) k d

theorem groupAlike_changeForest (keeps : KeepsMethods mediaType f) :
    ∀ d, GroupAlike (Resource.ReadAlike Eq mediaType) (changeForest f d) d
  | .map es => .map (alike_changeTrees keeps es)
  | .list items => .list (pairsAlike_changeItems keeps items)
  | .pair a b => .pair (pairAlike_changeItem keeps a) (pairAlike_changeItem keeps b)
  | .scalar _ => .same _
  | .set _ => .same _

theorem alike_changeTrees (keeps : KeepsMethods mediaType f) :
    ∀ es, Alike (Resource.ReadAlike Eq mediaType) (changeTrees f es) es
  | [] => .nil
  | (_, d) :: rest =>
    .cons ⟨rfl, readAlike_changeMethods keeps d⟩ (alike_changeTrees keeps rest)

theorem pairsAlike_changeItems (keeps : KeepsMethods mediaType f) :
    ∀ ds, List.Forall₂ (PairAlike (Resource.ReadAlike Eq mediaType)) (changeItems f ds) ds
  | [] => .nil
  | d :: ds => .cons (pairAlike_changeItem keeps d) (pairsAlike_changeItems keeps ds)

theorem pairAlike_changeItem (keeps : KeepsMethods mediaType f) :
    ∀ d, PairAlike (Resource.ReadAlike Eq mediaType) (changeItem f d) d
  | .list [k, d] => .list k (readAlike_changeMethods keeps d)
  | .pair k d => .pair k (readAlike_changeMethods keeps d)
  | .list [] => .same _
  | .list [_] => .same _
  | .list (_ :: _ :: _ :: _) => .same _
  | .scalar _ => .same _
  | .set _ => .same _
  | .map _ => .same _

end

/-- A description is read as before if each of its methods is. -/
theorem Root.read_changeAllMethods {d : Datum} (keeps : KeepsMethods (mediaTypeOf d) f) :
    Root.read (changeAllMethods f d) = Root.read d := by
  cases d with
  | map es =>
    refine (Related.imp (fun _ _ => Root.Corresponds.eq) ?_).eq
    refine Root.related_read (byKey_changeValues ?_ es)
    intro k d
    unfold changeTop
    by_cases inResources : k = .text "resources"
    · rw [if_pos inResources, inResources]
      exact .ofResources ((groupAlike_changeForest keeps d).related_looseEntries
        (.refl (fun _ => rfl) _))
    rw [if_neg inResources]
    by_cases path : isPath k = true
    · rw [if_pos path]
      exact .ofPath path (readAlike_changeMethods keeps d).orEmpty
    · rw [if_neg path]
      exact .refl (.refl (fun _ => rfl) _) (readSchemas_refl fun _ => rfl) k d
  | scalar | list | pair | set => rfl

end Kept

section Filing

/-- Whether a body can be filed: it names no media type, and each of its keys has a text. -/
def isFileable (es : List (Scalar × Datum)) : Bool :=
  lacksMediaType es && es.all fun p => hasText p.1

section Filed

variable (chosen : List (Scalar × Datum) → Bool) (m : String)

/-- A body under a media type, if it is one of those chosen. -/
def fileBody : Datum → Datum
  | .map es => if chosen es then .map [(.text m, .map es)] else .map es
  | d => d

def fileInResponse (k : Scalar) (d : Datum) : Datum :=
  if k = .text "body" then fileBody chosen m d else d

def fileResponses : Datum → Datum :=
  changeValues fun _ => changeValues (fileInResponse chosen m)

def fileInMethod (k : Scalar) (d : Datum) : Datum :=
  if k = .text "body" then fileBody chosen m d
  else if k = .text "responses" then fileResponses chosen m d
  else d

def fileMethod : Datum → Datum := changeValues (fileInMethod chosen m)

/-- A description with the chosen ones of all its bodies under a media type. -/
def fileBodies : Datum → Datum :=
  changeAllMethods (fileMethod chosen m)

end Filed

variable {mediaType : Datum} {m : String}

theorem Body.readAll_fileBody (known : bodyKey mediaType = .accepted (.text m))
    (slash : '/' ∈ m.toList) (d : Datum) :
    Body.readAll mediaType (fileBody isFileable m d) = Body.readAll mediaType d := by
  cases d with
  | map es =>
    by_cases fileable : isFileable es = true
    · obtain ⟨lacks, texts⟩ := Bool.and_eq_true_iff.mp fileable
      obtain ⟨given, noSlash⟩ := lacksMediaType_iff.mp lacks
      -- What is filed has one key, which holds a slash, so that nothing is filed again.
      have holds : holdsSlash [(.text m, .map es)] = true := by
        simpa [holdsSlash, isMediaType, Scalar.plainText]
      rw [fileBody, if_pos fileable, Body.readAll_of_slash holds,
        Body.readAll_of_noSlash given noSlash, keyedByText_eq _ es, if_pos texts, known]
      rfl
    · rw [fileBody, if_neg fileable]
  | scalar | list | pair | set => rfl

theorem Response.read_filed (known : bodyKey mediaType = .accepted (.text m))
    (slash : '/' ∈ m.toList) (d : Datum) :
    Response.read mediaType (changeValues (fileInResponse isFileable m) d) =
      Response.read mediaType d := by
  refine read_changeValues (fun es => ?_) d
  refine (Related.imp (fun _ _ => Response.Corresponds.eq) ?_).eq
  refine Response.related_read (byKey_changeValues ?_ es)
  intro k d
  unfold fileInResponse
  by_cases body : k = .text "body"
  · rw [if_pos body, body]
    refine .ofHere ?_
    rw [Body.readAll_fileBody known slash]
    exact .refl (alike_refl fun _ => rfl) _
  · rw [if_neg body]
    exact .refl (fun _ => .refl (alike_refl fun _ => rfl) _) k d

theorem Response.readAll_fileResponses (known : bodyKey mediaType = .accepted (.text m))
    (slash : '/' ∈ m.toList) (d : Datum) :
    Response.readAll mediaType (fileResponses isFileable m d) = Response.readAll mediaType d := by
  refine read_changeValues (fun es => ?_) d
  refine (Related.imp (fun _ _ => Alike.eq) ?_).eq
  refine Response.related_readAll (alike_changeValues ?_ es)
  intro d
  rw [orEmpty_changeValues, Response.read_filed known slash]
  exact .refl (fun _ => rfl) _

theorem Action.read_fileMethod (known : bodyKey mediaType = .accepted (.text m))
    (slash : '/' ∈ m.toList) (d : Datum) :
    Action.read mediaType (fileMethod isFileable m d) = Action.read mediaType d := by
  refine read_changeValues (fun es => ?_) d
  refine (Related.imp (fun _ _ => Action.Corresponds.eq) ?_).eq
  refine Action.related_read (byKey_changeValues ?_ es)
  intro k d
  unfold fileInMethod
  by_cases body : k = .text "body"
  · rw [if_pos body, body]
    refine .ofBodies ?_
    rw [Body.readAll_fileBody known slash]
    exact .refl (alike_refl fun _ => rfl) _
  rw [if_neg body]
  by_cases responses : k = .text "responses"
  · rw [if_pos responses, responses]
    refine .ofResponses ?_
    rw [Response.readAll_fileResponses known slash]
    exact .refl (alike_refl fun _ => ⟨rfl, alike_refl (fun _ => rfl) _⟩) _
  · rw [if_neg responses]
    exact .refl (fun _ => rfl) k d

theorem keepsMethods_fileMethod (known : bodyKey mediaType = .accepted (.text m))
    (slash : '/' ∈ m.toList) : KeepsMethods mediaType (fileMethod isFileable m) :=
  ⟨Action.read_fileMethod known slash, orEmpty_changeValues _⟩

/-- The media type of the bodies that name none: that of the document, or else the default. -/
def mediaTypeFor (d : Datum) : String :=
  match mediaTypeOf d with
  | .scalar (.text s) => if s = "" then defaultMediaType else s
  | _ => defaultMediaType

theorem bodyKey_of_named {d : Datum}
    (named : mediaTypeOf d = .null ∨ ∃ s, mediaTypeOf d = .text s) :
    bodyKey (mediaTypeOf d) = .accepted (.text (mediaTypeFor d)) := by
  rcases named with absent | ⟨s, given⟩
  · rw [mediaTypeFor, absent]
    rfl
  · rw [mediaTypeFor, given]
    by_cases empty : s = ""
    · rw [empty]
      rfl
    · have isGiven : (Datum.text s).isGiven = true := by
        simpa only [Datum.isGiven, Scalar.isGiven, bne_iff_ne, ne_eq]
      rw [bodyKey, if_pos isGiven]
      simp only [if_neg empty]
      rfl

/-- Filing every body that names no media type under that of the document, at every depth, makes
no difference to what is read or refused, as long as the keys of the body have texts. In what is
read, these bodies stand under that media type alone, and the others under the texts of their own
keys. -/
theorem read_fileBodies {d : Datum}
    (named : mediaTypeOf d = .null ∨ ∃ s, mediaTypeOf d = .text s)
    (slash : '/' ∈ (mediaTypeFor d).toList) :
    Root.read (fileBodies isFileable (mediaTypeFor d) d) = Root.read d ∧
    ∀ root, Root.read d = .accepted root → ∀ keys r, Leads root.resources keys r →
      ∀ method action, (method, action) ∈ r.actions →
        ∃ a, MethodAt d keys method a ∧ BodiesNamed (mediaTypeFor d) a action := by
  have known := bodyKey_of_named named
  refine ⟨Root.read_changeAllMethods (keepsMethods_fileMethod known slash), ?_⟩
  intro root accepted keys r leads method action hmem
  obtain ⟨a, source, read⟩ := source_of_method accepted leads hmem
  exact ⟨a, source, bodiesNamed_of_read known a action read⟩

/-- A description in which a request names no media type, while a response names one. -/
def unfiled : Datum :=
  petsApi "text/xml" [(.text "POST", .map
    [(.text "body", .map [(.text "schema", .text "Pet")]),
      (.text "responses", .map
        [(.text "200", .map [(.text "body", .map [(.text "text/csv", .null)])])])])]

def filedAction : Action :=
  ⟨none, [], [], [("text/xml", ⟨some "Pet", .null⟩)],
    [("200", ⟨none, [("text/csv", ⟨none, .null⟩)]⟩)]⟩

theorem read_unfiled : ∃ root, Root.read unfiled = .accepted root ∧
    root.resources = [("/pets", ⟨none, none, [], [("post", filedAction)], []⟩)] := by
  refine ⟨_, read_petsApi ?_, rfl⟩
  change Resource.ofEntries _ [_] = _
  rw [Resource.ofEntries_eq]
  rfl

/-- The body of the request is filed under the media type of the description. -/
theorem read_fileBodies_unfiled :
    Root.read (fileBodies isFileable (mediaTypeFor unfiled) unfiled) = Root.read unfiled ∧
      ∃ root a, Root.read unfiled = .accepted root ∧
        Leads root.resources ["/pets"] ⟨none, none, [], [("post", filedAction)], []⟩ ∧
        MethodAt unfiled ["/pets"] "post" a ∧ BodiesNamed "text/xml" a filedAction := by
  obtain ⟨same, named⟩ := read_fileBodies (d := unfiled) (Or.inr ⟨"text/xml", rfl⟩) (by decide)
  obtain ⟨root, accepted, resources⟩ := read_unfiled
  have leads : Leads root.resources ["/pets"] ⟨none, none, [], [("post", filedAction)], []⟩ := by
    rw [resources]
    exact .here List.mem_cons_self
  obtain ⟨a, source, bodies⟩ := named root accepted _ _ leads "post" _ List.mem_cons_self
  exact ⟨same, root, a, accepted, leads, source, bodies⟩

def petsBody (d : Datum) : Datum :=
  petsApi "text/xml" [(.text "POST", .map [(.text "body", d)])]

theorem Action.read_body (mediaType d : Datum) :
    Action.read mediaType (.map [(.text "body", d)]) =
      map (fun bodies => ⟨none, [], [], bodies, []⟩)
        (under (.key "body") (Body.readAll mediaType d)) := by
  change _ <*> under (.key "body") (Body.readAll mediaType d) <*> _ = _
  cases Body.readAll mediaType d <;> rfl

theorem Resource.read_post (mediaType : Datum) (es : List (Scalar × Datum)) :
    Resource.read mediaType (.map [(.text "POST", .map es)]) =
      map (fun action => ⟨none, none, [], [("post", action)], []⟩)
        (under (.key "actions") (under (.key "post") (Action.read mediaType (.map es)))) := by
  have action : entries (Action.read mediaType) (.map [(.text "post", .map es)]) =
      map (fun action => [("post", action)])
        (under (.key "post") (Action.read mediaType (.map es))) := by
    change entriesOf [(.text "post", Action.read mediaType (.map es))] = _
    cases Action.read mediaType (.map es) <;> rfl
  change Resource.ofEntries mediaType [(.text "POST", .map es)] = _
  rw [Resource.ofEntries_eq]
  change _ <*> under _ (entries (Action.read mediaType) (.map [(.text "post", .map es)])) <*> _ = _
  rw [action]
  cases Action.read mediaType (.map es) <;> rfl

/-- A body whose key has no text is refused, though it would be accepted once it is filed. -/
theorem read_fileBodies_overlong :
    let d := petsBody (.map [(.int Decimal.overlong, .null)])
    (∃ root, Root.read (fileBodies lacksMediaType (mediaTypeFor d) d) = .accepted root) ∧
      ∃ faults, Root.read d = .refused faults := by
  intro d
  let es : List (Scalar × Datum) := [(.int Decimal.overlong, .null)]
  have unshown : (Scalar.int Decimal.overlong).plainText = none := Decimal.integerText?_overlong
  have noSlash : holdsSlash es = false := by
    simp only [es, holdsSlash, isMediaType, unshown, List.any_cons, List.any_nil, Option.any_none,
      Bool.or_false]
  have untexted : ¬ (es.all fun p => hasText p.1) = true := by
    simp only [es, hasText, unshown, List.all_cons, Option.isSome_none, Bool.false_and,
      Bool.false_eq_true, not_false_eq_true]
  constructor
  · have filed : fileBodies lacksMediaType (mediaTypeFor d) d =
        petsBody (fileBody lacksMediaType "text/xml" (.map es)) := rfl
    rw [filed, fileBody, if_pos (lacksMediaType_iff.mpr ⟨List.cons_ne_nil _ _, noSlash⟩),
      petsBody, read_petsApi_eq, Resource.read_post, Action.read_body]
    exact ⟨_, rfl⟩
  · have refused : Body.readAll (.text "text/xml") (.map es) = fault .tooManyDigits := by
      rw [Body.readAll_of_noSlash (List.cons_ne_nil _ _) noSlash, keyedByText_eq, if_neg untexted]
      rfl
    have body : d = petsApi "text/xml" [(.text "POST", .map [(.text "body", .map es)])] := rfl
    rw [body, read_petsApi_eq, Resource.read_post, Action.read_body, refused]
    exact ⟨_, rfl⟩

end Filing

end RamlBridge.Raml
