import StorageInventory.Failure

/-!
# File trees

A file tree as data: what stands at each place, and the names that a directory lists. A path is a
text that is followed from the root over directories and links to a place. Every question about a
file begins with following its path.
-/

namespace StorageInventory

/-- The names on the way from the root, none of them empty, `.` or `..`. -/
abbrev Place := List String

/-- How a program ends. -/
inductive Ending
  | code (n : Nat)
  | signal (n : Nat)
  /-- The program does not end by itself. -/
  | never
  deriving DecidableEq, Repr

/-- How a program ends that sends itself a signal and then does nothing more. One signal stops it
for good, and some do not touch it. -/
def Ending.ofSignal (n : Nat) : Ending :=
  if n = 19 then .never
  else if [0, 17, 18, 20, 21, 22, 23, 28].contains n then .code 0
  else .signal n

/-- What a program does when it is run. -/
structure Reply where
  stdout : List UInt8 := []
  stderr : List UInt8 := []
  ending : Ending := .code 0
  deriving DecidableEq, Repr

/-- What stands at a place. -/
inductive Entry
  | directory
  /-- A file, with its text when its bytes are one. -/
  | file (text? : Option String)
  /-- A file that can be run, with its reply to each list of arguments. -/
  | program (reply : List String → Reply)
  | link (target : String)

/-- A file tree. -/
structure FileTree where
  node? : Place → Option Entry
  /-- The names in a directory, in the order in which it lists them. -/
  names : Place → List String

namespace Path

/-- The steps of a path. One that ends with a slash ends with a step to the directory itself. -/
def steps (path : String) : List String :=
  let steps := (Text.piecesAt path '/').filter (!·.isEmpty)
  if Text.endsWith path "/" then steps ++ ["."] else steps

/-- Whether a path begins at the root. -/
def isAbsolute (path : String) : Bool := Text.beginsWith path "/"

/-- A path below another, or the path itself when it begins at the root. -/
def join (base path : String) : String :=
  if isAbsolute path || base.isEmpty then path
  else if Text.endsWith base "/" then base ++ path
  else base ++ "/" ++ path

/-- The path of a place. -/
def ofPlace (place : Place) : String := "/" ++ "/".intercalate place

/-- The last name of a path; none when the path ends with a step upwards or has no name. -/
def lastName? (path : String) : Option String :=
  let names := (Text.piecesAt path '/').filter fun name => !name.isEmpty && name != "."
  names.getLast?.filter (· != "..")

end Path

namespace FileTree

/-- The place reached by steps, or the place at which a link stands in the way and the steps that
its target and the rest of the path call for. -/
inductive Walk
  | reached (place : Place)
  | redirected (place : Place) (steps : List String)
  deriving DecidableEq, Repr

/-- Where a link at a directory leads: its target's steps, from the root or from there. -/
def redirect (place : Place) (target : String) (rest : List String) : Walk :=
  .redirected (if Path.isAbsolute target then [] else place) (Path.steps target ++ rest)

/-- The greatest number of bytes in a name. -/
def greatestName : Nat := 255

/-- The greatest number of bytes in a path. -/
def greatestPath : Nat := 4095

/-- Takes steps until a link is met. -/
def walk (t : FileTree) : Place → List String → Except FileError Walk
  | place, [] => .ok (.reached place)
  | place, step :: rest =>
    match t.node? place with
    | some .directory =>
      if step = "." then t.walk place rest
      else if step = ".." then t.walk place.dropLast rest
      else if greatestName < step.utf8ByteSize then .error .nameTooLong
      else match t.node? (place ++ [step]) with
        | none => .error .notFound
        | some (.link target) => .ok (redirect place target rest)
        | some _ => t.walk (place ++ [step]) rest
    | _ => .error .notDirectory

/-- Takes steps over at most `links` links. -/
def follow (t : FileTree) (links : Nat) (place : Place) (steps : List String) :
    Except FileError Place :=
  match t.walk place steps with
  | .error e => .error e
  | .ok (.reached place) => .ok place
  | .ok (.redirected place steps) =>
    match links with
    | 0 => .error .tooManyLinks
    | links + 1 => t.follow links place steps

/-- The greatest number of links on the way to a place. -/
def greatestLinks : Nat := 40

/-- The place that a path leads to; links are followed, the last one too. -/
def place (t : FileTree) (path : String) : Except FileError Place :=
  if path.toList.contains '\x00' then .error .nulInPath
  else if greatestPath < path.utf8ByteSize then .error .nameTooLong
  else t.follow greatestLinks [] (Path.steps path)

/-- What a path leads to. -/
def find? (t : FileTree) (path : String) : Option Entry :=
  match t.place path with
  | .ok place => t.node? place
  | .error _ => none

/-- Whether a path leads anywhere. -/
def holds (t : FileTree) (path : String) : Bool := (t.find? path).isSome

/-- Whether a path leads to a directory. -/
def isDirectory (t : FileTree) (path : String) : Bool :=
  match t.find? path with
  | some .directory => true
  | _ => false

/-- Whether a path leads to a file. -/
def isFile (t : FileTree) (path : String) : Bool :=
  match t.find? path with
  | some (.file _) | some (.program _) => true
  | _ => false

/-- The names in the directory that a path leads to; none for what is no directory. -/
def list (t : FileTree) (path : String) : List String :=
  match t.place path with
  | .ok place => t.names place
  | .error _ => []

/-- The path of the place that a path leads to. -/
def canonical (t : FileTree) (path : String) : Except FileError String :=
  (t.place path).map Path.ofPlace

/-- The text of the file that a path leads to. -/
def read (t : FileTree) (path : String) : Except FileError String := do
  match t.node? (← t.place path) with
  | some (.file (some text)) => .ok text
  | some .directory => .error .isDirectory
  | some (.file none) | some (.program _) | some (.link _) => .error .notText
  | none => .error .notFound

/-- The target of the link that stands at a path. -/
def linkTarget? (t : FileTree) (path : String) : Option String :=
  let steps := Path.steps path
  match t.follow greatestLinks [] steps.dropLast, steps.getLast? with
  | .ok place, some name =>
    match t.node? (place ++ [name]) with
    | some (.link target) => some target
    | _ => none
  | _, _ => none

end FileTree

end StorageInventory
