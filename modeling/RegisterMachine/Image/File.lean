import RegisterMachine.Image.Binary
import RegisterMachine.Image.Text

/-! # Image files

The name of a file decides its format: names with the extension `bin`, in either case, hold binary
images, all others text images. Loading and saving make the same choice.
-/

namespace RegisterMachine

inductive ImageFormat where
  | text
  | binary
deriving DecidableEq, Repr

namespace ImageFormat

/-- The last name in a path, if it is a name at all. -/
def fileName? (path : String) : Option String :=
  match (FileTree.names path).getLast? with
  | some name => if name = ".." then none else some name
  | none => none

/-- What follows the last dot of a name, unless that dot is its first character. -/
def extension? (name : String) : Option String :=
  match (name.toList.splitOn '.').reverse with
  | last :: before :: rest =>
    if before.isEmpty && rest.isEmpty then none else some (String.ofList last)
  | _ => none

def ofPath (path : String) : ImageFormat :=
  match (fileName? path).bind extension? with
  | some extension => if extension.map Char.toLower = "bin" then .binary else .text
  | none => .text

end ImageFormat

namespace Image

def decode (format : ImageFormat) (content : List UInt8) : Except ImageError Image :=
  match format with
  | .binary => ofBytes content
  | .text =>
    match textOfFile content with
    | .ok text => parse text
    | .error e => .error (.file e)

def encode (format : ImageFormat) (image : Image) : List UInt8 :=
  match format with
  | .binary => image.toBytes
  | .text => Text.Utf8.encode image.render

def load (read : String → Except FileError (List UInt8)) (path : String) :
    Except ImageError Image :=
  match read path with
  | .ok content => decode (.ofPath path) content
  | .error e => .error (.file e)

def save (tree : FileTree) (path : String) (image : Image) : Except ImageError Unit × FileTree :=
  match tree.write path (encode (.ofPath path) image) with
  | (.ok (), tree) => (.ok (), tree)
  | (.error e, tree) => (.error (.file e), tree)

end Image

end RegisterMachine
