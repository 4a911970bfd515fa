import StorageInventory.Yaml.Node

/-!
# Documents

A YAML text that holds one document, or none at all. A second document is an error, and so is what
stands behind the first without the mark that begins one.
-/

namespace StorageInventory.Yaml

/-- A document. -/
structure Document where
  /-- The document's node; none in a text without one. -/
  root : Option Node
  /-- The nodes that have anchors, those that begin later in front. -/
  anchored : List (Nat × Node) := []

namespace Document

/-- Whether a version is one whose rules are known. -/
def isKnownVersion (major minor : Nat) : Bool := major == 1 && (minor == 1 || minor == 2)

/-- The handles that need no directive. -/
def standardHandles : List (String × String) := [("!", "!"), ("!!", "tag:yaml.org,2002:")]

/-- Reads the directives in front of a document: at most one version, and each handle once. -/
def directives? (versioned : Bool) (handles : List (String × String)) :
    List Token → Option (List (String × String) × List Token)
  | .version major minor :: rest =>
    if versioned || !isKnownVersion major minor then none else directives? true handles rest
  | .handle name stem :: rest =>
    if (handles.lookup name).isSome then none
    else directives? versioned ((name, stem) :: handles) rest
  | rest => some (handles, rest)

/-- Reads the node of a document; it may be left out behind the mark that begins a document. -/
def root? (marked : Bool) (s : Source) : Option (Node × Source) :=
  if marked ∧ s.head?.all [Token.documentStart, .documentEnd].contains then some (.empty, s)
  else s.node (3 * s.tokens.length + 4) true false

/-- The document of some tokens. -/
def ofTokens? (tokens : List Token) : Option Document :=
  match tokens with
  | [] => some { root := none }
  | _ => do
    let (handles, rest) ← directives? false [] tokens
    let marked := rest.head? = some .documentStart
    guard (marked ∨ rest.length = tokens.length)
    let source : Source :=
      { tokens := if marked then rest.tail else rest, handles := handles ++ standardHandles }
    let (root, s) ← root? marked source
    guard (s.tokens.all (· = .documentEnd))
    return { root, anchored := s.anchored }

/-- The document of a text. -/
def ofText? (text : String) : Option Document := do ofTokens? (← Token.ofText? text.toList)

/-- The node itself, or the one that it stands for: of two with its anchor, the one that begins
later. -/
def resolve (d : Document) (n : Node) : Option Node :=
  match n with
  | .alias anchor => d.anchored.lookup anchor
  | n => some n

end Document

end StorageInventory.Yaml
