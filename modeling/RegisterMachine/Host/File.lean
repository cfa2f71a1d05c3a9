import RegisterMachine.Text.Utf8

/-! # Files

A host's files as a tree of directories: paths are sequences of names, each of which leads to a file
with its bytes or to a directory. Reading and replacing files fails for the reasons, and with the
words, of the operating system.

A path is walked from its first name to its last, so of two reasons to fail the one further left counts.
The name `.` stays in a directory and `..` leaves it. What lies above the top directory is in the tree
under names that begin with `..`, or with `/` for a path from the root.
-/

namespace RegisterMachine

/-! ## Errors -/

inductive FileError where
  | notFound
  | isDirectory
  /-- The path goes through a file. -/
  | notDirectory
  | invalidName
  /-- A name, or the whole path, has too many bytes. -/
  | nameTooLong
  | notText
  /-- Another reason, as the system puts it. -/
  | other (reason : String)
deriving DecidableEq, Repr

def FileError.message : FileError → String
  | .notFound => "No such file or directory (os error 2)"
  | .isDirectory => "Is a directory (os error 21)"
  | .notDirectory => "Not a directory (os error 20)"
  | .invalidName => "file name contained an unexpected NUL byte"
  | .nameTooLong => "File name too long (os error 36)"
  | .notText => "stream did not contain valid UTF-8"
  | .other reason => reason

/-! ## Trees -/

inductive FileNode where
  | file (bytes : List UInt8)
  | directory
deriving DecidableEq, Repr

structure FileTree where
  /-- The nodes with the names that lead to them. The top directory is not listed. -/
  nodes : List (List String × FileNode) := []
deriving DecidableEq, Repr

def textOfFile (bytes : List UInt8) : Except FileError String :=
  match Text.Utf8.decode? bytes with
  | some text => .ok text
  | none => .error .notText

namespace FileTree

/-! ## Paths -/

def maxNameSize : Nat := 255

def maxPathSize : Nat := 4095

/-- The steps of a path: what stands between its slashes. -/
def steps (path : String) : List String :=
  ((path.toList.splitOn '/').filter (· != [])).map String.ofList

/-- The names in a path. The name of the directory itself leads nowhere new. -/
def names (path : String) : List String :=
  (steps path).filter (· != ".")

/-- Whether names lead to the top directory, or to one above it. -/
def isAbove (names : List String) : Bool :=
  names.all fun name => name == ".." || name == "/"

/-- The names of the directory around the one with the given names. The root is its own. -/
def parent (names : List String) : List String :=
  if isAbove names then if names.head? = some "/" then names else names ++ [".."]
  else names.dropLast

/-- The node that names lead to. A directory exists as soon as something is in it. -/
def node? (tree : FileTree) (names : List String) : Option FileNode :=
  if isAbove names then some .directory
  else
    match tree.nodes.find? fun entry => entry.1 == names with
    | some entry => some entry.2
    | none =>
      if tree.nodes.any fun entry => names.isPrefixOf entry.1 then some .directory else none

def lookup (tree : FileTree) (directory : List String) (name : String) :
    Except FileError (Option FileNode) :=
  if maxNameSize < name.utf8ByteSize then .error .nameTooLong
  else .ok (tree.node? (directory ++ [name]))

/-- Goes from a directory to the one that a step leads to. -/
def enter (tree : FileTree) (directory : List String) (step : String) :
    Except FileError (List String) :=
  if step = "." then .ok directory
  else if step = ".." then .ok (parent directory)
  else
    match tree.lookup directory step with
    | .error e => .error e
    | .ok (some .directory) => .ok (directory ++ [step])
    | .ok (some (.file _)) => .error .notDirectory
    | .ok none => .error .notFound

/-- Walks from a directory up to the last step, which is not taken if it is a name. -/
def walk (tree : FileTree) (directory : List String) :
    List String → Except FileError (List String × Option String)
  | [] => .ok (directory, none)
  | [step] => .ok (if step = "." || step = ".." then (directory, none) else (directory, some step))
  | step :: next :: rest =>
    match tree.enter directory step with
    | .ok directory => walk tree directory (next :: rest)
    | .error e => .error e

/-- Finds the directory in which a path ends, and its last name. There is none if the path ends in a
step that leads to a directory without naming it. -/
def locate (tree : FileTree) (path : String) : Except FileError (List String × Option String) :=
  if path.toList.contains (Char.ofNat 0) then .error .invalidName
  else if path = "" then .error .notFound
  else if maxPathSize < path.utf8ByteSize then .error .nameTooLong
  else tree.walk (if path.startsWith "/" then ["/"] else []) (steps path)

/-! ## Reading and writing -/

def read (tree : FileTree) (path : String) : Except FileError (List UInt8) :=
  match tree.locate path with
  | .error e => .error e
  | .ok (_, none) => .error .isDirectory
  | .ok (directory, some name) =>
    match tree.lookup directory name with
    | .error e => .error e
    | .ok none => .error .notFound
    | .ok (some .directory) => .error .isDirectory
    | .ok (some (.file bytes)) => if path.endsWith "/" then .error .notDirectory else .ok bytes

/-- Makes a file or replaces its bytes. A slash at the end of the path asks for a directory. -/
def write (tree : FileTree) (path : String) (bytes : List UInt8) :
    Except FileError Unit × FileTree :=
  match tree.locate path with
  | .error e => (.error e, tree)
  | .ok (_, none) => (.error .isDirectory, tree)
  | .ok (directory, some name) =>
    if path.endsWith "/" then (.error .isDirectory, tree)
    else
      match tree.lookup directory name with
      | .error e => (.error e, tree)
      | .ok (some .directory) => (.error .isDirectory, tree)
      | .ok _ =>
        let names := directory ++ [name]
        (.ok (), ⟨(names, .file bytes) :: tree.nodes.filter fun entry => entry.1 != names⟩)

end FileTree

end RegisterMachine
