import RamlBridge.Yaml.Tokens
import RamlBridge.Yaml.Tag

/-!
The nodes of a YAML document, with their tags resolved and their aliases replaced by what they
stand for. Nodes have numbers, and an alias has the number of its node.
-/
namespace RamlBridge.Yaml

inductive Node where
  | scalar (number : Nat) (tag text : String)
  | sequence (number : Nat) (tag : String) (items : List Node)
  | mapping (number : Nat) (tag : String) (entries : List (Node × Node))
deriving Inhabited

namespace Node

def number : Node → Nat
  | .scalar n .. | .sequence n .. | .mapping n .. => n

def tag : Node → String
  | .scalar _ t _ | .sequence _ t _ | .mapping _ t _ => t

def empty : Node := .scalar 0 Tag.null ""

end Node

/-- The tokens still to be read, the anchors so far, and the number of the next node. An anchor has
no node yet while its node is being read. -/
structure Source where
  tokens : List Token
  anchors : List (String × Option Node)
  number : Nat
deriving Inhabited

namespace Source

def fault (s : Source) : SyntaxFault :=
  match s.tokens with
  | .broken f :: _ => f
  | _ => .malformed

def drop (s : Source) : Source := { s with tokens := s.tokens.tail }

def next (s : Source) : Option Token := s.tokens.head?

/-- The source of a document. Number zero is that of empty places. -/
def ofTokens (ts : List Token) : Source := ⟨ts, [], 1⟩

def numbered (s : Source) (make : Nat → Node) : Node × Source :=
  (make s.number, { s with number := s.number + 1 })

end Source

abbrev Handles := List (String × String)

def defaultHandles : Handles := [("!", "!"), ("!!", "tag:yaml.org,2002:")]

def handlePrefix? (handles : Handles) (name : String) : Option String :=
  (handles.find? (·.1 == name)).map Prod.snd

structure Properties where
  anchor : Option String
  tag : Option (Option String × String)

def properties : List Token → Properties × List Token
  | .anchor a :: .tag h t :: rest => (⟨some a, some (h, t)⟩, rest)
  | .tag h t :: .anchor a :: rest => (⟨some a, some (h, t)⟩, rest)
  | .anchor a :: rest => (⟨some a, none⟩, rest)
  | .tag h t :: rest => (⟨none, some (h, t)⟩, rest)
  | rest => (⟨none, none⟩, rest)

/-- The fault of a tag whose handle is not known. The token behind a tag that comes first is looked
at before. -/
def handleFault : List Token → SyntaxFault
  | .tag .. :: .broken f :: _ => f
  | _ => .malformed

def fullTag (handles : Handles) (ts : List Token) : Option (Option String × String) →
    Except SyntaxFault (Option String)
  | none => .ok none
  | some (none, t) => .ok (some t)
  | some (some h, t) =>
    match handlePrefix? handles h with
    | some p => .ok (some (p ++ t))
    | none => .error (handleFault ts)

/-- The tag of a collection, or the given one if it has none of its own. -/
def collectionTag (tag : Option String) (default : String) : String :=
  match tag with
  | none | some "!" => default
  | some t => t

/-- The tag of a scalar. A plain one without a tag, and any with the tag that says nothing, takes
the tag that its text implies. -/
def scalarTag (tag : Option String) (text : String) (plain : Bool) : String :=
  match tag with
  | some "!" => Tag.implied text
  | some t => t
  | none => if plain then Tag.implied text else Tag.text

def bindAnchor (anchor : Option String) (n : Node) (s : Source) : Source :=
  match anchor with
  | none => s
  | some a => { s with anchors := (a, some n) :: s.anchors.filter (·.1 != a) }

mutual

/-- Reads a node. A block may stand only where blocks are allowed, and the items of a block
sequence may stand without an indentation of their own only as the value of a key. -/
def node (handles : Handles) (block bare : Bool) : Nat → Source → Except SyntaxFault (Node × Source)
  | 0, s => .error s.fault
  | fuel + 1, s =>
    match s.tokens with
    | .reference name :: rest =>
      match s.anchors.find? (·.1 == name) with
      | some (_, some n) => .ok (n, { s with tokens := rest })
      | some (_, none) => .error .recursive
      | none => .error .malformed
    | _ => do
      let (p, rest) := properties s.tokens
      let tag ← fullTag handles s.tokens p.tag
      let bound := p.anchor.any fun a => s.anchors.any (·.1 == a)
      let anchors := match p.anchor with
        | some a => (a, none) :: s.anchors
        | none => s.anchors
      let s : Source := { s with tokens := rest, anchors }
      if bound then .error s.fault
      else
        let (n, s) ← content handles block bare tag p.anchor.isSome fuel s
        .ok (n, bindAnchor p.anchor n s)

def content (handles : Handles) (block bare : Bool) (tag : Option String) (anchored : Bool) :
    Nat → Source → Except SyntaxFault (Node × Source)
  | 0, s => .error s.fault
  | fuel + 1, s =>
    let sequence (p : List Node × Source) : Node × Source :=
      p.2.numbered (.sequence · (collectionTag tag Tag.sequence) p.1)
    let mapping (p : List (Node × Node) × Source) : Node × Source :=
      p.2.numbered (.mapping · (collectionTag tag Tag.mapping) p.1)
    match s.next with
    | some (.scalar text plain) => .ok (s.drop.numbered (.scalar · (scalarTag tag text plain) text))
    | some .bracketOpen => (flowItems handles true fuel s.drop).map sequence
    | some .braceOpen => (flowEntries handles true fuel s.drop).map mapping
    | other =>
      if bare && other == some .dash then (bareItems handles fuel s).map sequence
      else if block && other == some .sequenceStart then
        (blockItems handles fuel s.drop).map sequence
      else if block && other == some .mappingStart then
        (blockEntries handles fuel s.drop).map mapping
      else if anchored || tag.isSome then .ok (s.numbered (.scalar · (scalarTag tag "" true) ""))
      else .error s.fault

def blockItems (handles : Handles) : Nat → Source → Except SyntaxFault (List Node × Source)
  | 0, s => .error s.fault
  | fuel + 1, s =>
    match s.next with
    | some .dash => do
      let s := s.drop
      let (n, s) ← match s.next with
        | some .dash | some .blockEnd => .ok (.empty, s)
        | _ => node handles true false fuel s
      let (ns, s) ← blockItems handles fuel s
      .ok (n :: ns, s)
    | some .blockEnd => .ok ([], s.drop)
    | _ => .error s.fault

/-- Reads items that have no indentation of their own. -/
def bareItems (handles : Handles) : Nat → Source → Except SyntaxFault (List Node × Source)
  | 0, s => .error s.fault
  | fuel + 1, s =>
    match s.next with
    | some .dash => do
      let s := s.drop
      let (n, s) ← match s.next with
        | some .dash | some .key | some .value | some .blockEnd => .ok (.empty, s)
        | _ => node handles true false fuel s
      let (ns, s) ← bareItems handles fuel s
      .ok (n :: ns, s)
    | _ => .ok ([], s)

/-- Reads a key or a value of a block mapping, which may be empty. -/
def blockPart (handles : Handles) : Nat → Source → Except SyntaxFault (Node × Source)
  | 0, s => .error s.fault
  | fuel + 1, s =>
    match s.next with
    | some .key | some .value | some .blockEnd => .ok (.empty, s)
    | _ => node handles true true fuel s

def blockEntries (handles : Handles) :
    Nat → Source → Except SyntaxFault (List (Node × Node) × Source)
  | 0, s => .error s.fault
  | fuel + 1, s =>
    match s.next with
    | some .blockEnd => .ok ([], s.drop)
    | some .key => do
      let (k, s) ← blockPart handles fuel s.drop
      let (v, s) ← match s.next with
        | some .value => blockPart handles fuel s.drop
        | _ => .ok (.empty, s)
      let (rest, s) ← blockEntries handles fuel s
      .ok ((k, v) :: rest, s)
    | _ => .error s.fault

/-- Reads a key or a value inside brackets, which may be empty before the given closing token. -/
def flowPart (handles : Handles) (closing : Token) :
    Nat → Source → Except SyntaxFault (Node × Source)
  | 0, s => .error s.fault
  | fuel + 1, s =>
    if s.next == some .comma || s.next == some closing || s.next == some .value then .ok (.empty, s)
    else node handles false false fuel s

def flowValue (handles : Handles) (closing : Token) :
    Nat → Source → Except SyntaxFault (Node × Source)
  | 0, s => .error s.fault
  | fuel + 1, s =>
    match s.next with
    | some .value =>
      let s := s.drop
      if s.next == some .comma || s.next == some closing then .ok (.empty, s)
      else node handles false false fuel s
    | _ => .ok (.empty, s)

/-- Reads the items inside brackets. An item with a key is a mapping of one entry. -/
def flowItems (handles : Handles) (first : Bool) :
    Nat → Source → Except SyntaxFault (List Node × Source)
  | 0, s => .error s.fault
  | fuel + 1, s =>
    if s.next == some .bracketClose then .ok ([], s.drop)
    else if !first && s.next != some .comma then .error s.fault
    else
      let s := if first then s else s.drop
      match s.next with
      | some .key => do
        let (k, s) ← flowPart handles .bracketClose fuel s.drop
        let (v, s) ← flowValue handles .bracketClose fuel s
        let (n, s) := s.numbered (.mapping · Tag.mapping [(k, v)])
        let (ns, s) ← flowItems handles false fuel s
        .ok (n :: ns, s)
      | some .bracketClose => .ok ([], s.drop)
      | _ => do
        let (n, s) ← node handles false false fuel s
        let (ns, s) ← flowItems handles false fuel s
        .ok (n :: ns, s)

/-- Reads the entries inside braces. A key without a mark has no value. -/
def flowEntries (handles : Handles) (first : Bool) :
    Nat → Source → Except SyntaxFault (List (Node × Node) × Source)
  | 0, s => .error s.fault
  | fuel + 1, s =>
    if s.next == some .braceClose then .ok ([], s.drop)
    else if !first && s.next != some .comma then .error s.fault
    else
      let s := if first then s else s.drop
      match s.next with
      | some .key => do
        let (k, s) ← flowPart handles .braceClose fuel s.drop
        let (v, s) ← flowValue handles .braceClose fuel s
        let (rest, s) ← flowEntries handles false fuel s
        .ok ((k, v) :: rest, s)
      | some .braceClose => .ok ([], s.drop)
      | _ => do
        let (k, s) ← node handles false false fuel s
        let (rest, s) ← flowEntries handles false fuel s
        .ok ((k, .empty) :: rest, s)

end

/-- The handles that directives declare, and whether a version was among them. No handle and no
version may be declared twice, and the version has to be one that is known. -/
def directives (versioned : Bool) (declared : Handles) :
    List Token → Except SyntaxFault (Handles × List Token)
  | .directive d :: rest =>
    match d with
    | .version major =>
      if versioned || major != 1 then .error .malformed else directives true declared rest
    | .handle name tagPrefix =>
      if declared.any (·.1 == name) then .error .malformed
      else directives versioned (declared ++ [(name, tagPrefix)]) rest
    | .other => directives versioned declared rest
  | rest => .ok (declared ++ defaultHandles, rest)

def endsContent : Option Token → Bool
  | none | some (.directive _) | some .documentStart | some .documentEnd => true
  | _ => false

/-- The node of the only document of a stream, if there is one. -/
def Node.ofTokens (ts : List Token) : Except SyntaxFault (Option Node) :=
  let fuel := 4 * ts.length + 8
  let finish (p : Node × Source) : Except SyntaxFault (Option Node) :=
    match p.2.tokens.dropWhile (· == .documentEnd) with
    | [] => .ok (some p.1)
    | rest => .error (Source.ofTokens rest).fault
  match ts with
  | [] => .ok none
  | .directive _ :: _ | .documentStart :: _ => do
    let (handles, rest) ← directives false [] ts
    match rest with
    | .documentStart :: rest =>
      if endsContent rest.head? then finish (.empty, .ofTokens rest)
      else (node handles true false fuel (.ofTokens rest)) >>= finish
    | rest => .error (Source.ofTokens rest).fault
  | _ => (node defaultHandles true false fuel (.ofTokens ts)) >>= finish

end RamlBridge.Yaml
