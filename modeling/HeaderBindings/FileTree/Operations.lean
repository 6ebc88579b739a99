import HeaderBindings.FileTree.Place

/-!
# Reading, writing and making directories

Each operation either fails with the system's reason, and then leaves the tree as
it was, or succeeds.  Only `makeDirectories` may fail half way, with the
directories made so far left in the tree.
-/

namespace HeaderBindings
namespace FileTree

section Looking

/-- The absolute path without links of an entry that is there. -/
def canonical? (tree : FileTree) (path : Path) : Option Path :=
  match tree.place .look path with
  | .ok (.taken location _) => some ⟨"/" ++ "/".intercalate location⟩
  | _ => none

/-- Whether a path leads to a directory. -/
def isDirectory (tree : FileTree) (path : Path) : Bool :=
  match tree.place .look path with
  | .ok (.taken _ .directory) => true
  | _ => false

/-- The bytes of a file. -/
def readBytes (tree : FileTree) (path : Path) : Except OsError ByteArray :=
  match tree.place .look path with
  | .error e => .error e
  | .ok (.taken _ (.file content)) => .ok content
  | .ok (.taken _ .directory) => .error .isDirectory
  | .ok _ => .error .notFound

/-- The text of a file. -/
def readText (tree : FileTree) (path : Path) : Except OsError String :=
  match tree.readBytes path with
  | .error e => .error e
  | .ok content =>
      match String.fromUTF8? content with
      | some text => .ok text
      | none => .error .notUtf8

end Looking

section Changing

/-- The tree with a file written, new or in place of its old content. -/
def write (tree : FileTree) (path : Path) (content : ByteArray) : Except OsError FileTree :=
  match tree.place .write path with
  | .error e => .error e
  | .ok (.taken location (.file _)) => .ok (tree.put location (.file content))
  | .ok (.taken _ _) => .error .isDirectory
  | .ok (.free directory name) => .ok (tree.put (directory ++ [name]) (.file content))

/-- The tree with a new entry; the name must be free. -/
def make (tree : FileTree) (path : Path) (entry : Entry) : Except OsError FileTree :=
  match tree.place .make path with
  | .error e => .error e
  | .ok (.taken _ _) => .error .alreadyExists
  | .ok (.free directory name) => .ok (tree.put (directory ++ [name]) entry)

/-- A path and its next paths above it, at most `count` of them, the path itself first. -/
def ancestorsUpTo : Nat → Path → List Path
  | 0, _ => []
  | count + 1, path =>
      match path.parent? with
      | none => [path]
      | some parent => path :: ancestorsUpTo count parent

/-- A path and all paths above it; each has one component less than the one before. -/
def ancestors (path : Path) : List Path :=
  ancestorsUpTo (path.components.length + 1) path

/-- The tree after a directory was asked for that may be there already. -/
def ensureDirectory (tree : FileTree) (path : Path) : FileTree × Except OsError Unit :=
  match tree.make path .directory with
  | .ok made => (made, .ok ())
  | .error e =>
      if e = .alreadyExists && tree.isDirectory path then (tree, .ok ()) else (tree, .error e)

/-- Makes the first of a list of nested directories, innermost first, and those that it is
missing on the way. -/
def makeNested (tree : FileTree) : List Path → FileTree × Except OsError Unit
  | [] => (tree, .ok ())
  | path :: above =>
      match tree.ensureDirectory path with
      | (_, .error .notFound) =>
          match makeNested tree above with
          | (made, .ok ()) => made.ensureDirectory path
          | failed => failed
      | result => result

/-- Makes a directory and those above it that are missing. -/
def makeDirectories (tree : FileTree) (path : Path) : FileTree × Except OsError Unit :=
  tree.makeNested
    ((ancestors path).filter fun above => !above.text.isEmpty && above.parent?.isSome)

end Changing

end FileTree
end HeaderBindings
