import HeaderBindings.FileTree.Basic

/-!
# Finding the place that a path names

A path is followed segment by segment from the root or the working directory.
A link on the way is replaced by its target, at most `maxLinks` times.

The search ends at a *place*: an entry that is there, or a name that is free in a
directory that is there.
-/

namespace HeaderBindings
namespace FileTree

/-- What a path is followed for. -/
inductive Purpose where
  /-- To look at what is there; a link at the end is followed. -/
  | look
  /-- To write a file, new or old; a link at the end is followed, and a slash at the end is
  refused because a file is not a directory. -/
  | write
  /-- To make a new entry; a link at the end counts as an entry. -/
  | make
deriving DecidableEq

/-- Where a path leads. -/
inductive Place where
  /-- An entry; `location` is where it really stands. -/
  | taken (location : Location) (entry : Entry)
  /-- A free name in a directory. -/
  | free (directory : Location) (name : String)

/-- How many links one path may lead through. -/
def maxLinks : Nat := 40

/-- The longest name of an entry, in bytes. -/
def maxName : Nat := 255

/-- The longest path, in bytes. -/
def maxPath : Nat := 4095

/-- The segments of a path that say something about the way: names, `.` and `..`. -/
def waySegments (path : Path) : List String :=
  (path.segments.filter fun segment => segment ≠ []).map String.ofList

/-- Whether a path ends with a slash, and so asks for a directory. -/
def endsWithSlash (path : Path) : Bool :=
  path.text.toList.getLast? = some '/'

/-- Follows segments from a directory up to the first link, which `onLink` goes on from.
`slash` says whether the end must be a directory. -/
def followNames (tree : FileTree) (purpose : Purpose)
    (onLink : Bool → Location → List String → Except OsError Place)
    (slash : Bool) (directory : Location) : List String → Except OsError Place
  | [] => .ok (.taken directory .directory)
  | segment :: rest =>
      if segment = "." then followNames tree purpose onLink slash directory rest
      else if segment = ".." then followNames tree purpose onLink slash directory.dropLast rest
      else if rest.isEmpty && slash && purpose = .write then .error .isDirectory
      else if maxName < segment.utf8ByteSize then .error .nameTooLong
      else
        match tree.entryAt? (directory ++ [segment]) with
        | none => if rest.isEmpty then .ok (.free directory segment) else .error .notFound
        | some .directory =>
            followNames tree purpose onLink slash (directory ++ [segment]) rest
        | some (.file content) =>
            if rest.isEmpty && (!slash || purpose = .make) then
              .ok (.taken (directory ++ [segment]) (.file content))
            else .error .notDirectory
        | some (.link target) =>
            if rest.isEmpty && purpose = .make then
              .ok (.taken (directory ++ [segment]) (.link target))
            else
              onLink (slash || (rest.isEmpty && endsWithSlash target))
                (if target.isAbsolute then [] else directory) (waySegments target ++ rest)

/-- Follows segments from a directory, through at most `links` links. -/
def follow (tree : FileTree) (purpose : Purpose) (links : Nat) :
    Bool → Location → List String → Except OsError Place :=
  match links with
  | 0 => followNames tree purpose fun _ _ _ => .error .tooManyLinks
  | links + 1 => followNames tree purpose (follow tree purpose links)

/-- The place that a path names. -/
def place (tree : FileTree) (purpose : Purpose) (path : Path) : Except OsError Place :=
  if path.text.toList.contains '\x00' then .error .nulInPath
  else if path.text.isEmpty then .error .notFound
  else if maxPath < path.text.utf8ByteSize then .error .nameTooLong
  else
    follow tree purpose maxLinks (endsWithSlash path)
      (if path.isAbsolute then [] else tree.working) (waySegments path)

end FileTree
end HeaderBindings
