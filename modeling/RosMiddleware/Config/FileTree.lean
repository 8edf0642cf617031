import RosMiddleware.Config.FileSystem

/-!
A file system that is a tree of files. Paths lead through directories by their names, from the
root or from the directory that is worked in, and `..` leads up, from the root to itself.
-/
namespace RosMiddleware.Config

inductive Entry
  | file (content : ByteArray)
  | directory
deriving Inhabited

/-- What the tree holds, under paths of names from the root. -/
structure FileTree where
  entries : List (List (List UInt8) × Entry) := []
  working : List (List UInt8) := []
deriving Inhabited

namespace FileTree

/-- The entry at a place. The directories on the way to an entry are there as well. -/
def entry? (t : FileTree) (place : List (List UInt8)) : Option Entry :=
  if place.isPrefixOf t.working then some .directory
  else
    match t.entries.find? fun e => e.1 == place with
    | some e => some e.2
    | none => if t.entries.any fun e => place.isPrefixOf e.1 then some .directory else none

/-- The most bytes in one name. -/
def longestName : Nat := 255

/-- The most bytes in a path. -/
def longestPath : Nat := 4095

def dot : UInt8 := 0x2E

/-- The place that the names lead to from another. A name is measured where it is looked up. -/
def walk (t : FileTree) :
    List (List UInt8) → List (List UInt8) → Except ReadFault (List (List UInt8))
  | [], place => .ok place
  | name :: names, place =>
    match t.entry? place with
    | none => .error .missing
    | some (.file _) => .error .notADirectory
    | some .directory =>
      if name = [] ∨ name = [dot] then t.walk names place
      else if name = [dot, dot] then t.walk names place.dropLast
      else if longestName < name.length then .error .nameTooLong
      else t.walk names (place ++ [name])

/-- The bytes of a file. The path itself is checked before any of its names. -/
def content (t : FileTree) (path : Path) : Except ReadFault ByteArray :=
  let bytes := path.bytes.toList
  if bytes.contains 0 then .error .nulInName
  else if longestPath < bytes.length then .error .nameTooLong
  else if bytes = [] then .error .missing
  else
    let start := if bytes.head? = some Path.slash then [] else t.working
    match t.walk path.names start with
    | .error fault => .error fault
    | .ok place =>
      match t.entry? place with
      | none => .error .missing
      | some .directory => .error .isADirectory
      | some (.file content) => .ok content

def fileSystem (t : FileTree) : FileSystem := ⟨t.content⟩

end FileTree

end RosMiddleware.Config
