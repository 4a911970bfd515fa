import StorageInventory.FileTree.Basic

/-!
# Building file trees

A file tree from entries that are put in one after the other. Directories on the way to an entry
are made when they are missing, and links on the way are followed.
-/

namespace StorageInventory.FileTree

/-- The tree of the entries at the given places; of two at one place the first counts. A directory
lists the entries in it in order. -/
def ofEntries (entries : List (Place × Entry)) : FileTree where
  node? place :=
    if place.isEmpty then some .directory else (entries.find? (·.1 = place)).map (·.2)
  names place := entries.filterMap fun (p, _) =>
    if p.dropLast = place then p.getLast? else none

/-- The place that steps lead to, with directories made where nothing stands. Nothing can be made
behind a link that leads nowhere. -/
def makeDirectories (entries : List (Place × Entry)) (place : Place) :
    List String → List (Place × Entry) × Place
  | [] => (entries, place)
  | step :: rest =>
    let next := place ++ [step]
    match (ofEntries entries).node? next with
    | none => makeDirectories (entries ++ [(next, .directory)]) next rest
    | some _ =>
      let found := (ofEntries entries).place (Path.ofPlace next)
      makeDirectories entries (found.toOption.getD next) rest

/-- Puts an entry at a path, in place of one that stands there. -/
def put (entries : List (Place × Entry)) (path : String) (entry : Entry) :
    List (Place × Entry) :=
  let steps := Path.steps path
  let (entries, parent) := makeDirectories entries [] steps.dropLast
  match steps.getLast? with
  | none => entries
  | some name =>
    let place := parent ++ [name]
    if entries.any (·.1 = place) then
      entries.map fun (p, old) => (p, if p = place then entry else old)
    else entries ++ [(place, entry)]

/-- Makes the directory at a path, unless something stands there. -/
def putDirectory (entries : List (Place × Entry)) (path : String) : List (Place × Entry) :=
  (makeDirectories entries [] (Path.steps path)).1

end StorageInventory.FileTree
