import ChipEight.Word
import ChipEight.FileTree.Path

/-!
# Trees of files

A tree holds the files and directories around a working directory. Following a path needs a
directory at every step, so what is wrong with a path is found at the first name that fails:
it is missing, it lies below a file, or it is longer than a name can be. Above the working
directory, and below the root, the tree knows directories but nothing that is in them.

Reading and creating are the only things that are done with a file. Links, permissions and
the removal of files are outside this theory.
-/

namespace ChipEight

/-- Why a file can not be read or created. -/
inductive FileError
  /-- A path can not hold the character with number zero. -/
  | nulInPath
  | notFound
  | notDirectory
  | isDirectory
  | nameTooLong
  /-- Any other reason, in the words of the system. -/
  | other (reason : String)
  deriving DecidableEq, Repr

/-- The system's wording with its number. -/
def FileError.message : FileError → String
  | nulInPath => "file name contained an unexpected NUL byte"
  | notFound => "No such file or directory (os error 2)"
  | notDirectory => "Not a directory (os error 20)"
  | isDirectory => "Is a directory (os error 21)"
  | nameTooLong => "File name too long (os error 36)"
  | other reason => reason

/-- Where the shortest way to a place starts. -/
inductive Origin
  /-- So many levels above the working directory. -/
  | above (levels : Nat)
  | root
  deriving DecidableEq, Repr

/-- A place in a tree: where the way starts and the names on it, the last one first. -/
structure Place where
  origin : Origin
  names : List String
  deriving DecidableEq, Repr

namespace Place

/-- Where a path starts. -/
def start (path : String) : Place := ⟨if Path.isAbsolute path then .root else .above 0, []⟩

/-- The directory that holds a place. Nothing is above the root. -/
def parent (place : Place) : Place :=
  match place.names, place.origin with
  | _ :: names, _ => { place with names }
  | [], .above levels => ⟨.above (levels + 1), []⟩
  | [], .root => place

/-- The place that one name of a path leads to. -/
def child (place : Place) (name : String) : Place :=
  if name = "." then place
  else if name = ".." then place.parent
  else { place with names := name :: place.names }

/-- The place that a path leads to, whatever is there. -/
def ofPath (path : String) : Place := (Path.parts path).foldl child (start path)

end Place

/-- What can be at a place. -/
inductive Node
  | file (content : Array Byte)
  | directory
  deriving DecidableEq, Repr

/-- A tree, as the list of what was put into it, the newest first. -/
structure FileTree where
  entries : List (Place × Node)
  deriving Repr

namespace FileTree

/-- A tree with an empty working directory. -/
def empty : FileTree := ⟨[]⟩

/-- What is at a place. There is a directory wherever a way can start, and above it. -/
def node? (tree : FileTree) (place : Place) : Option Node :=
  match tree.entries.find? (·.1 = place) with
  | some (_, node) => some node
  | none => if place.names.isEmpty then some .directory else none

/-- Puts something at a place. -/
def putAt (tree : FileTree) (place : Place) (node : Node) : FileTree :=
  ⟨(place, node) :: tree.entries⟩

/-- Makes a directory at a place where nothing is. -/
def makeDirectory (tree : FileTree) (place : Place) : FileTree :=
  if (tree.node? place).isNone then tree.putAt place .directory else tree

/-- Makes all directories that following names leads through. Two dots leave a directory, but
it has to be there. -/
def makeDirectories (tree : FileTree) (place : Place) : (names : List String) → FileTree
  | [] => tree.makeDirectory place
  | name :: names => (tree.makeDirectory place).makeDirectories (place.child name) names

/-- Puts something where a path leads to. The directories on the way are made as needed. -/
def put (tree : FileTree) (path : String) (node : Node) : FileTree :=
  (tree.makeDirectories (.start path) (Path.parts path).dropLast).putAt (.ofPath path) node

/-- There has to be a directory at a place. -/
def demandDirectory (tree : FileTree) (place : Place) : Except FileError Unit :=
  match tree.node? place with
  | some .directory => .ok ()
  | some (.file _) => .error .notDirectory
  | none => .error .notFound

/-- The longest name, in bytes. -/
def longestName : Nat := 255

/-- The longest path, in bytes. -/
def longestPath : Nat := 4095

/-- Follows one name of a path. Only a directory can be left by a name. -/
def follow (tree : FileTree) (place : Place) (name : String) : Except FileError Place := do
  tree.demandDirectory place
  if name.utf8ByteSize > longestName then throw .nameTooLong
  return place.child name

/-- What is wrong with a path wherever it leads. -/
def checkPath (path : String) : Except FileError Unit :=
  if path.toList.contains '\x00' then .error .nulInPath
  else if path.utf8ByteSize > longestPath then .error .nameTooLong
  else if path = "" then .error .notFound
  else .ok ()

/-- Follows names one after the other. -/
def followAll (tree : FileTree) (start : Place) (names : List String) : Except FileError Place :=
  names.foldlM tree.follow start

/-- The content of a file. -/
def read (tree : FileTree) (path : String) : Except FileError (Array Byte) := do
  checkPath path
  let place ← tree.followAll (.start path) (Path.parts path)
  match tree.node? place with
  | none => throw .notFound
  | some .directory => throw .isDirectory
  | some (.file content) => if Path.namesDirectory path then throw .notDirectory else return content

/-- Makes an empty file. A file that is there already loses its content. The directory it is
in has to be there. -/
def create (tree : FileTree) (path : String) : Except FileError FileTree := do
  checkPath path
  match (Path.parts path).getLast? with
  | none => throw .isDirectory
  | some name =>
    let directory ← tree.followAll (.start path) (Path.parts path).dropLast
    tree.demandDirectory directory
    if Path.namesDirectory path || name = "." || name = ".." then throw .isDirectory
    let place ← tree.follow directory name
    if tree.node? place = some .directory then throw .isDirectory
    return tree.putAt place (.file #[])

end FileTree
end ChipEight
