/-!
# Paths

A path is a text in which slashes separate the names to follow. Several slashes in a row
count as one. A dot stays where it is and two dots lead to the directory above.
-/

namespace ChipEight.Path

/-- The names of a path, dots included. -/
def parts (path : String) : List String := (path.splitOn "/").filter (· ≠ "")

/-- A path that starts with a slash starts at the root. -/
def isAbsolute (path : String) : Bool := path.toList.head? == some '/'

/-- A path that ends with a slash names a directory. -/
def namesDirectory (path : String) : Bool := path.toList.getLast? == some '/'

/-- The name of what a path leads to. A path that ends with two dots, or holds no name at
all, has the empty one. -/
def fileName (path : String) : String :=
  match ((parts path).filter (· ≠ ".")).getLast? with
  | some name => if name = ".." then "" else name
  | none => ""

end ChipEight.Path
