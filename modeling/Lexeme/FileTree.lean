/-!
# File trees

The files that a command can read, as a tree held in memory, and what reading a path in it comes
to.

## Main Definitions

* `ReadFailure` — why a path cannot be read as text
* `FileTree` — the files below a working directory
* `FileTree.read` — the bytes of the file that a path leads to

## Design Notes

A path is walked name by name from the working directory, and every name but the last has to lead
to a directory. Nothing is known of what is outside the tree but that it is directories: walking
up from the working directory, or starting at the root, stays among them, and no name leads from
there to anywhere.
-/

namespace Lexeme

/-- Why a path cannot be read as text. -/
inductive ReadFailure
  /-- A name on the path leads nowhere. -/
  | notFound
  /-- A name on the path that is not the last one leads to a file. -/
  | notDirectory
  /-- The path leads to a directory. -/
  | isDirectory
  /-- The file holds bytes that are no UTF-8 text. -/
  | notText
  /-- The system gives another reason. -/
  | other (reason : String)
  deriving DecidableEq

/-- The reason as it is shown. -/
def ReadFailure.reason : ReadFailure → String
  | notFound => "No such file or directory (os error 2)"
  | notDirectory => "Not a directory (os error 20)"
  | isDirectory => "Is a directory (os error 21)"
  | notText => "stream did not contain valid UTF-8"
  | other reason => reason

/-- The parts of a text between its slashes. -/
def splitAtSlashes : List Char → List (List Char)
  | [] => [[]]
  | c :: rest =>
    match splitAtSlashes rest with
    | [] => [[c]]
    | part :: parts => if c = '/' then [] :: part :: parts else (c :: part) :: parts

/-- The names that a path is made of. -/
def pathNames (path : String) : List String := (splitAtSlashes path.toList).map String.ofList

/-- The files below a working directory. -/
structure FileTree where
  /-- Each file's names from the working directory down, and its bytes. -/
  files : List (List String × ByteArray)

namespace FileTree

/-- What a path leads to. -/
inductive Place
  /-- A directory outside the tree. -/
  | outside
  /-- A directory of the tree, by its names, the last one first. -/
  | directory (up : List String)
  /-- A file, by its bytes. -/
  | file (bytes : ByteArray)

/-- A tree of the given files. Of two with the same path the later one counts. -/
def ofFiles (files : List (String × ByteArray)) : FileTree :=
  ⟨files.reverse.map fun file =>
    ((pathNames file.1).filter fun name => name ≠ "" && name ≠ ".", file.2)⟩

/-- What the names from the working directory down lead to. -/
def look (tree : FileTree) (up : List String) : Except ReadFailure Place :=
  let names := up.reverse
  match tree.files.lookup names with
  | some bytes => .ok (.file bytes)
  | none =>
    if tree.files.any fun file => names.isPrefixOf file.1 then .ok (.directory up)
    else .error .notFound

/-- Goes from a place to what a name leads to there. -/
def enter (tree : FileTree) (place : Place) (name : String) : Except ReadFailure Place :=
  match place with
  | .file _ => .error .notDirectory
  | .outside =>
    if name = "" || name = "." || name = ".." then .ok .outside else .error .notFound
  | .directory up =>
    if name = "" || name = "." then .ok place
    else if name = ".." then .ok (if up.isEmpty then .outside else .directory up.tail)
    else tree.look (name :: up)

/-- The bytes of the file that a path leads to. -/
def read (tree : FileTree) (path : String) : Except ReadFailure ByteArray :=
  let start := if path.toList.head? = some '/' then Place.outside else .directory []
  if path.isEmpty then .error .notFound
  else match (pathNames path).foldlM tree.enter start with
    | .ok (.file bytes) => .ok bytes
    | .ok _ => .error .isDirectory
    | .error failure => .error failure

end FileTree

end Lexeme
