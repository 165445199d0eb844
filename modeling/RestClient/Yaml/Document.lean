import RestClient.Yaml.Scan

/-!
# From tokens to a document

The grammar of tokens: `Document.ofTokens` makes the tree of a stream that holds one document or
none. A node that is left out where one could stand is an empty plain scalar.

Anchors get numbers: a name that is used as an anchor gets the count of names that were anchors
before it, the same name anew each time. An alias refers to the number that its name has at that
place; of several nodes with one number the last one is meant.
-/

namespace RestClient.Yaml

/-- **A node with an anchor.** Its number is what aliases were given when they were read; two nodes
may have the same one, and the later wins. -/
structure Anchored where
  number : Nat
  /-- Its place among the beginnings of nodes. -/
  place : Nat
  node : Node
  deriving Repr

/-- The document of a stream: its root, the nodes with anchors, and the size by which the following
of aliases is bounded. -/
structure Document where
  /-- Nothing if the stream has no document. -/
  root? : Option Node
  anchored : List Anchored
  /-- The count of scalars and aliases and of beginnings and ends of collections. -/
  size : Nat
  deriving Repr

/-- The node that an anchor's number refers to. -/
def Document.target? (d : Document) (number : Nat) : Option Node :=
  let candidates := d.anchored.filter (·.number = number)
  let last := candidates.foldl (fun best a =>
    match best with
    | some (b : Anchored) => if b.place < a.place then some a else some b
    | none => some a) none
  last.map (·.node)

/-! ## Reading tokens -/

/-- **What is known between two tokens**: what is still to be read, the anchors and handles so far,
and how many beginnings and ends there were. -/
structure Composing where
  tokens : List Token
  /-- The names of anchors with their numbers. -/
  names : List (String × Nat) := []
  anchored : List Anchored := []
  size : Nat := 0
  /-- The handles of tags and what they stand for. -/
  handles : List (String × String) := []

/-- A part of the grammar. -/
abbrev Grammar := StateT Composing (Except Error)

namespace Grammar

/-- The stream does not go on as it should. -/
def malformed {α : Type} : Grammar α := throw .malformed

/-- The next token. -/
def peek : Grammar (Option Token) := return (← get).tokens.head?

/-- Passes over a token. -/
def skip : Grammar Unit := modify fun s => { s with tokens := s.tokens.tail }

/-- Passes over a token if it comes next, and tells whether it did. -/
def accept (t : Token) : Grammar Bool := do
  if (← peek) = some t then
    skip
    return true
  else return false

/-- Passes over a token that has to come next. -/
def require (t : Token) : Grammar Unit := do
  unless ← accept t do malformed

/-- Counts beginnings and ends. -/
def count (n : Nat) : Grammar Unit := modify fun s => { s with size := s.size + n }

/-- The number that a name gets as an anchor: the count of the names before it. A name that is used
again gets a new number, and is then the last of its name. -/
def number (name : String) : Grammar Nat := do
  let s ← get
  let n := s.names.length
  set { s with names := (name, n) :: s.names.filter (·.1 ≠ name) }
  return n

/-- The node where none is written. -/
def empty : Grammar Node := do
  count 1
  return .empty none

/-- The full text of a tag. The tag `!` alone says nothing of a scalar. -/
def tagText (handle suffix : String) : Grammar String := do
  if handle.isEmpty then return suffix
  match (← get).handles.lookup handle with
  | some expansion => return expansion ++ suffix
  | none => malformed

/-- The tag and the anchor of a node, in either order. -/
structure Properties where
  tag : Option String := none
  anchor : Option String := none

/-- A tag, if one comes next. -/
def tag? : Grammar (Option String) := do
  match ← peek with
  | some (.tag handle suffix) =>
    skip
    return some (← tagText handle suffix)
  | _ => return none

/-- An anchor, if one comes next. -/
def anchor? : Grammar (Option String) := do
  match ← peek with
  | some (.anchor name) =>
    skip
    return some name
  | _ => return none

/-- The properties of a node. -/
def properties : Grammar Properties := do
  match ← anchor? with
  | some a => return ⟨← tag?, some a⟩
  | none =>
    let t ← tag?
    return ⟨t, ← if t.isSome then anchor? else pure none⟩

/-- Reads a node and keeps it under its anchor. The number is given before the node is read, so
anchors inside of it come later. -/
def anchoring (anchor : Option String) (node : Grammar Node) : Grammar Node := do
  match anchor with
  | none => node
  | some name =>
    let n ← number name
    let place := (← get).size
    let node ← node
    modify fun s => { s with anchored := ⟨n, place, node⟩ :: s.anchored }
    return node

/-- Whether an entry of a mapping in block form is empty before this token. -/
def endsEntry : Option Token → Bool
  | some .key | some .value | some .blockEnd => true
  | _ => false

/-- **Where a node may stand.** It decides whether collections in block form may begin there and in
which column their items may be. -/
inductive Position where
  /-- Inside of brackets. -/
  | flow
  | block
  /-- As a key or a value of a mapping in block form, where a sequence may stand in the column of
  the mapping. -/
  | entry
  deriving DecidableEq

/-- A node that has properties and nothing else. -/
def unwritten (p : Properties) : Grammar Node :=
  if p.tag.isSome || p.anchor.isSome then do
    count 1
    return .empty (p.tag)
  else malformed

mutual

/-- **A node**: an alias alone, or properties and then a content, which may be missing if there are
properties. -/
def node (position : Position) : Nat → Grammar Node
  | 0 => malformed
  | fuel + 1 => do
    match ← peek with
    | some (.alias name) =>
      skip
      count 1
      match (← get).names.lookup name with
      | some n => return .alias n
      | none => throw .unknownAnchor
    | _ =>
      let p ← properties
      anchoring p.anchor (content position p fuel)

/-- The content of a node, after its properties. -/
def content (position : Position) (p : Properties) : Nat → Grammar Node
  | 0 => malformed
  | fuel + 1 => do
    let next ← peek
    let inBlock := position ≠ .flow
    match next with
    | some (.scalar style text) =>
      skip
      count 1
      return .scalar (p.tag.filter (· ≠ "!")) style text
    | some .item =>
      if position = .entry then
        count 1
        let items ← sameColumnItems fuel
        count 1
        return .seq p.tag items
      else unwritten p
    | some (.opens c) =>
      if c.isFlow || inBlock then
        skip
        count 1
        let n ← collection p.tag c fuel
        count 1
        return n
      else unwritten p
    | _ => unwritten p

/-- A collection, from after its first token to its last one. -/
def collection (tag : Option String) (c : Collection) : Nat → Grammar Node
  | 0 => malformed
  | fuel + 1 =>
    match c with
    | .blockSeq => return .seq tag (← blockItems fuel)
    | .blockMap => return .map tag (← blockEntries fuel)
    | .flowSeq => return .seq tag (← flowItems true fuel)
    | .flowMap => return .map tag (← flowEntries true fuel)

/-- The items of a sequence in block form. -/
def blockItems : Nat → Grammar (List Node)
  | 0 => malformed
  | fuel + 1 => do
    if ← accept .item then
      let next ← peek
      let n ← if next = some .item || next = some .blockEnd then empty else node .block fuel
      return n :: (← blockItems fuel)
    else
      require .blockEnd
      return []

/-- The items of a sequence in the column of the mapping around it. -/
def sameColumnItems : Nat → Grammar (List Node)
  | 0 => malformed
  | fuel + 1 => do
    if ← accept .item then
      let next ← peek
      let n ← if next = some .item || endsEntry next then empty else node .block fuel
      return n :: (← sameColumnItems fuel)
    else return []

/-- A key or a value of a mapping in block form. -/
def entryNode : Nat → Grammar Node
  | 0 => malformed
  | fuel + 1 => do if endsEntry (← peek) then empty else node .entry fuel

/-- The entries of a mapping in block form. -/
def blockEntries : Nat → Grammar (List (Node × Node))
  | 0 => malformed
  | fuel + 1 => do
    if ← accept .key then
      let k ← entryNode fuel
      let v ← if ← accept .value then entryNode fuel else empty
      return (k, v) :: (← blockEntries fuel)
    else
      require .blockEnd
      return []

/-- A value inside of brackets, where the collection may end before it. -/
def flowValue (close : Token) : Nat → Grammar Node
  | 0 => malformed
  | fuel + 1 => do
    if ← accept .value then
      let next ← peek
      if next = some .comma || next = some close then empty else node .flow fuel
    else empty

/-- A mapping of one entry that is an item of a sequence in brackets, from after its key token. -/
def singlePair : Nat → Grammar Node
  | 0 => malformed
  | fuel + 1 => do
    count 1
    let close := Token.closes .flowSeq
    let next ← peek
    let k ← if next = some .value || next = some .comma || next = some close then do
        skip
        empty
      else node .flow fuel
    let v ← flowValue close fuel
    count 1
    return .map none [(k, v)]

/-- The items of a sequence in brackets. -/
def flowItems (first : Bool) : Nat → Grammar (List Node)
  | 0 => malformed
  | fuel + 1 => do
    let close := Token.closes .flowSeq
    if ← accept close then return []
    unless first do require .comma
    if ← accept close then return []
    let n ← if ← accept .key then singlePair fuel else node .flow fuel
    return n :: (← flowItems false fuel)

/-- The entries of a mapping in brackets. -/
def flowEntries (first : Bool) : Nat → Grammar (List (Node × Node))
  | 0 => malformed
  | fuel + 1 => do
    let close := Token.closes .flowMap
    if ← accept close then return []
    unless first do require .comma
    if ← accept close then return []
    let entry ←
      if ← accept .key then do
        let next ← peek
        let k ← if next = some .value || next = some .comma || next = some close then empty
          else node .flow fuel
        pure (k, ← flowValue close fuel)
      else do
        let k ← node .flow fuel
        pure (k, ← empty)
    return entry :: (← flowEntries false fuel)

end

/-! ## The stream -/

/-- The handles that need no directive. -/
def standardHandles : List (String × String) := [("!", "!"), ("!!", "tag:yaml.org,2002:")]

/-- The directives before a document: at most one version, which has to be known, and no handle
twice. -/
def directives (versionSeen : Bool) (handles : List (String × String)) :
    List Token → Except Error (List (String × String) × List Token)
  | .directive (.version major minor) :: rest =>
    if versionSeen || major ≠ 1 || (minor ≠ 1 && minor ≠ 2) then .error .malformed
    else directives true handles rest
  | .directive (.handle handle expansion) :: rest =>
    if (handles.lookup handle).isSome then .error .malformed
    else directives versionSeen (handles ++ [(handle, expansion)]) rest
  | rest => .ok (handles, rest)

/-- Whether a document is empty before this token. -/
def endsDocument : Option Token → Bool
  | none | some (.directive _) | some .documentStart | some .documentEnd => true
  | _ => false

/-- The root of a document, from after its first token. -/
def root (fuel : Nat) : Grammar Node := do
  if endsDocument (← peek) then empty else node .block fuel

/-- Makes sure that nothing comes after the document. That there is another document is an error of
its own. -/
def close (rest : List Token) : Except Error Unit :=
  match rest.dropWhile (· = .documentEnd) with
  | [] => .ok ()
  | .documentStart :: _ | .directive _ :: _ => .error .moreDocuments
  | _ => .error .malformed

end Grammar

open Grammar in
/-- **The document of a stream of tokens.** There is one document at most, with or without a mark in
front of it; directives need the mark. -/
def Document.ofTokens (ts : List Token) : Except Error Document := do
  if ts.isEmpty then return ⟨none, [], 1⟩
  let (own, rest) ← directives false [] ts
  let explicit := rest.head? = some .documentStart
  if !explicit && rest.length ≠ ts.length then .error .malformed
  let start : Composing :=
    { tokens := if explicit then rest.tail else rest, handles := own ++ standardHandles }
  let fuel := 6 * ts.length + 8
  let (n, s) ← (if explicit then root fuel else node .block fuel).run start
  close s.tokens
  return ⟨some n, s.anchored, s.size⟩

/-- **The document of a stream**, from its text. -/
def Document.parse (s : String) : Except Error Document := tokens s.toList >>= Document.ofTokens

end RestClient.Yaml
