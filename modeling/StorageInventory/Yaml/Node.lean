import StorageInventory.Yaml.Token

/-!
# Nodes

The nodes of a YAML document, read from its tokens. `budget` bounds the depth of the reading; a
reader takes a token off the front at least with every second call, so three times the number of
tokens is enough.
-/

namespace StorageInventory.Yaml

/-- A node of a document. -/
inductive Node
  | scalar (text : String) (style : Style) (tag : Option String)
  | seq (items : List Node)
  | map (entries : List (Node × Node))
  /-- The node that has the anchor. -/
  | alias (anchor : Nat)
  deriving Repr

namespace Node

/-- What stands where a node is left out. -/
def empty (tag : Option String := none) : Node := scalar "" .plain tag

end Node

/-- The tokens to come, and the names that are known. -/
structure Source where
  tokens : List Token
  /-- What the handles of tags stand for. -/
  handles : List (String × String) := []
  /-- The anchors by name. -/
  names : List (String × Nat) := []
  /-- The nodes that have anchors, those that begin later in front. -/
  anchored : List (Nat × Node) := []

namespace Source

/-- The next token. -/
def head? (s : Source) : Option Token := s.tokens.head?

/-- Whether the next token is one of the given ones. -/
def stopsAt (s : Source) (ts : List Token) : Bool := s.head?.any ts.contains

/-- The source behind the next token. -/
def next (s : Source) : Source := { s with tokens := s.tokens.tail }

/-- The source behind the token `t`, which must come next. -/
def skip (s : Source) (t : Token) : Option Source := if s.head? = some t then some s.next else none

/-- What may stand in front of a node. -/
structure Properties where
  anchor : Option String := none
  tag : Option String := none

/-- The tag that a handle and a suffix name. -/
def tag? (s : Source) (handle suffix : String) : Option String :=
  if handle.isEmpty then some suffix else (s.handles.lookup handle).map (· ++ suffix)

/-- Reads an anchor and a tag, which stand in either order. -/
def properties (s : Source) : Option (Properties × Source) :=
  match s.tokens with
  | .anchor name :: .tag handle suffix :: rest => do
    some ({ anchor := name, tag := ← s.tag? handle suffix }, { s with tokens := rest })
  | .tag handle suffix :: .anchor name :: rest => do
    some ({ anchor := name, tag := ← s.tag? handle suffix }, { s with tokens := rest })
  | .anchor name :: rest => some ({ anchor := name }, { s with tokens := rest })
  | .tag handle suffix :: rest => do
    some ({ tag := ← s.tag? handle suffix }, { s with tokens := rest })
  | _ => some ({}, s)

/-- Gives an anchor its number, which is the number of names before it. -/
def declare (s : Source) (p : Properties) : Option Nat × Source :=
  match p.anchor with
  | none => (none, s)
  | some name =>
    let n := s.names.length
    (some n, { s with names := (name, n) :: s.names.filter (·.1 ≠ name) })

/-- Remembers the node of an anchor. It begins after the first `before` nodes that had anchors, and
in front of those that were found inside it. -/
def remember (s : Source) (before : Nat) (anchor : Option Nat) (node : Node) : Source :=
  match anchor with
  | none => s
  | some n =>
    let inside := s.anchored.length - before
    { s with anchored := s.anchored.take inside ++ (n, node) :: s.anchored.drop inside }

mutual

/-- Reads a node. Only where `block` holds may it be a block collection, and only where `bare` holds
a sequence that is no further in than the mapping around it. -/
def node : Nat → Bool → Bool → Source → Option (Node × Source)
  | 0, _, _, _ => none
  | budget + 1, block, bare, s =>
    match s.head? with
    | some (.alias name) => do return (.alias (← s.names.lookup name), s.next)
    | _ => do
      let (p, s) ← s.properties
      let (anchor, s) := s.declare p
      let before := s.anchored.length
      let (node, s) ← match s.head? with
        | some (.scalar text style) =>
          some (Node.scalar text style (p.tag.filter (· ≠ "!")), s.next)
        | some .flowSequence => do
          let (items, s) ← flowItems budget true s.next
          some (.seq items, s)
        | some .flowMapping => do
          let (entries, s) ← flowEntries budget true s.next
          some (.map entries, s)
        | some .blockSequence => do
          guard block
          let (items, s) ← blockItems budget [.item, .blockEnd] s.next
          some (.seq items, ← s.skip .blockEnd)
        | some .blockMapping => do
          guard block
          let (entries, s) ← blockEntries budget s.next
          some (.map entries, s)
        | head =>
          if bare ∧ head = some .item then do
            let (items, s) ← blockItems budget [.item, .key, .value, .blockEnd] s
            some (.seq items, s)
          else if p.anchor.isSome ∨ p.tag.isSome then some (.empty p.tag, s)
          else none
      return (node, s.remember before anchor node)

/-- Reads a node, or an empty one where one of the given tokens comes next. -/
def nodeUnless : Nat → List Token → Bool → Bool → Source → Option (Node × Source)
  | 0, _, _, _, _ => none
  | budget + 1, ends, block, bare, s =>
    if s.stopsAt ends then some (.empty, s) else node budget block bare s

/-- Reads the items of a block sequence. `ends` are the tokens that leave an item out. -/
def blockItems : Nat → List Token → Source → Option (List Node × Source)
  | 0, _, _ => none
  | budget + 1, ends, s =>
    if s.head? = some .item then do
      let (item, s) ← nodeUnless budget ends true false s.next
      let (items, s) ← blockItems budget ends s
      return (item :: items, s)
    else some ([], s)

/-- Reads the entries of a block mapping and its end. -/
def blockEntries : Nat → Source → Option (List (Node × Node) × Source)
  | 0, _ => none
  | budget + 1, s =>
    match s.head? with
    | some .key => do
      let ends := [.key, .value, .blockEnd]
      let (key, s) ← nodeUnless budget ends true true s.next
      let (value, s) ←
        if s.head? = some .value then nodeUnless budget ends true true s.next
        else some (.empty, s)
      let (entries, s) ← blockEntries budget s
      return ((key, value) :: entries, s)
    | some .blockEnd => some ([], s.next)
    | _ => none

/-- Reads the items of a flow sequence and its end. An item may be a key with a value, which counts
as a mapping of one entry. -/
def flowItems : Nat → Bool → Source → Option (List Node × Source)
  | 0, _, _ => none
  | budget + 1, first, s =>
    if s.head? = some .flowSequenceEnd then some ([], s.next)
    else do
      let s ← if first then some s else s.skip .comma
      if s.head? = some .flowSequenceEnd then return ([], s.next)
      let (item, s) ←
        if s.head? = some .key then do
          let s := s.next
          let ends := [.comma, .flowSequenceEnd]
          let (key, s) ←
            if s.stopsAt (.value :: ends) then some (.empty, s.next) else node budget false false s
          let (value, s) ←
            if s.head? = some .value then nodeUnless budget ends false false s.next
            else some (.empty, s)
          some (.map [(key, value)], s)
        else node budget false false s
      let (items, s) ← flowItems budget false s
      return (item :: items, s)

/-- Reads the entries of a flow mapping and its end. An entry may be a node without a value. -/
def flowEntries : Nat → Bool → Source → Option (List (Node × Node) × Source)
  | 0, _, _ => none
  | budget + 1, first, s =>
    if s.head? = some .flowMappingEnd then some ([], s.next)
    else do
      let s ← if first then some s else s.skip .comma
      if s.head? = some .flowMappingEnd then return ([], s.next)
      let ends := [.comma, .flowMappingEnd]
      let (entry, s) ←
        if s.head? = some .key then do
          let (key, s) ← nodeUnless budget (.value :: ends) false false s.next
          let (value, s) ←
            if s.head? = some .value then nodeUnless budget ends false false s.next
            else some (.empty, s)
          some ((key, value), s)
        else do
          let (key, s) ← node budget false false s
          some ((key, .empty), s)
      let (entries, s) ← flowEntries budget false s
      return (entry :: entries, s)

end

end Source

end StorageInventory.Yaml
