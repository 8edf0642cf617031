import Std.Data.ExtTreeMap
import Std.Data.ExtTreeSet
import RosMiddleware.Error

/-!
Containers for the results of queries: names, each with its types. A container is given to
a query without entries and without storage; one that has either is in use until it is
finished.
-/
namespace RosMiddleware

/-- Types under names, both in ascending order. -/
abbrev TypesByName := Std.ExtTreeMap String (Std.ExtTreeSet String)

def TypesByName.add (m : TypesByName) (name type : String) : TypesByName :=
  Std.ExtTreeMap.insert m name (((m[name]?).getD ∅).insert type)

structure NamesAndTypes where
  names : List String := []
  /-- The types of the name at the same place. -/
  types : List (List String) := []
  /-- The number of entries there is room for. -/
  storage : Nat := 0
deriving DecidableEq, Repr, Inhabited

namespace NamesAndTypes

def isZero (c : NamesAndTypes) : Bool := c.names.isEmpty && c.types.isEmpty && c.storage == 0

def checkZero (c : NamesAndTypes) : Except Error Unit :=
  if c.isZero then .ok () else .error .outputInUse

def entrySize : Nat := 24

/-- The most bytes that can be asked for at once. -/
def largestRequest : Nat := (1 <<< 63) - 1

def reserve (c : NamesAndTypes) (size : Nat) : Except Error NamesAndTypes :=
  match c.checkZero with
  | .error e => .error e
  | .ok () =>
    if largestRequest < entrySize * size then .error .outputTooLarge
    else .ok { c with storage := size }

/-- Back to no entries and no storage. -/
def finish (_ : NamesAndTypes) : NamesAndTypes := {}

def push (c : NamesAndTypes) (name : String) (types : List String) : NamesAndTypes where
  names := c.names ++ [name]
  types := c.types ++ [types]
  storage := max c.storage (c.names.length + 1)

/-- No entries, but the storage stays. -/
def clear (c : NamesAndTypes) : NamesAndTypes := { c with names := [], types := [] }

/-- The entries of a map, in a container that is not in use. -/
def fill (c : NamesAndTypes) (entries : TypesByName) : Except Error NamesAndTypes :=
  match c.reserve entries.size with
  | .error e => .error e
  | .ok room =>
    let entries := entries.toList
    .ok { room with
      names := entries.map fun entry => entry.1
      types := entries.map fun entry => entry.2.toList }

def entries (c : NamesAndTypes) : List (String × List String) := c.names.zip c.types

def get? (c : NamesAndTypes) (name : String) : Option (List String) :=
  (c.entries.find? fun entry => entry.1 == name).map Prod.snd

end NamesAndTypes

end RosMiddleware
