import HeaderBindings.Path

/-!
# A tree of files

The tree holds files, directories and symbolic links, each at a *location*: the
list of names that leads to it from the root.  It is kept as a flat list, so that
an operation changes one entry and leaves the others alone.

**Results.**
* `entryAt?_put_self`, `entryAt?_put_of_ne`: putting an entry changes that one location.
-/

namespace HeaderBindings

/-- Why the system refuses an operation on files or programs. -/
inductive OsError where
  | notFound
  | permissionDenied
  | alreadyExists
  | notDirectory
  | isDirectory
  | nameTooLong
  | tooManyLinks
  /-- A path with a NUL in it. -/
  | nulInPath
  /-- A program name with a NUL in it. -/
  | nulInProgram
  /-- A file read as text that is not UTF-8. -/
  | notUtf8
deriving DecidableEq

/-- The system's wording. -/
def OsError.message : OsError → String
  | .notFound => "No such file or directory (os error 2)"
  | .permissionDenied => "Permission denied (os error 13)"
  | .alreadyExists => "File exists (os error 17)"
  | .notDirectory => "Not a directory (os error 20)"
  | .isDirectory => "Is a directory (os error 21)"
  | .nameTooLong => "File name too long (os error 36)"
  | .tooManyLinks => "Too many levels of symbolic links (os error 40)"
  | .nulInPath => "file name contained an unexpected NUL byte"
  | .nulInProgram => "nul byte found in provided data"
  | .notUtf8 => "stream did not contain valid UTF-8"

/-- The names that lead from the root to an entry. -/
abbrev Location := List String

/-- What stands at a location. -/
inductive Entry where
  | file (content : ByteArray)
  | directory
  | link (target : Path)

/-- Files, directories and links, and the directory that relative paths start from. -/
structure FileTree where
  working : Location
  entries : List (Location × Entry)

namespace FileTree

section Entries

/-- What stands at a location; the root is always a directory. -/
def entryAt? (tree : FileTree) (location : Location) : Option Entry :=
  if location = [] then some .directory else tree.entries.lookup location

/-- Entries with one location set; its old place in the list is kept. -/
def putIn (location : Location) (entry : Entry) :
    List (Location × Entry) → List (Location × Entry)
  | [] => [(location, entry)]
  | (other, old) :: rest =>
      if location = other then (location, entry) :: rest
      else (other, old) :: putIn location entry rest

/-- The tree with one location set. -/
def put (tree : FileTree) (location : Location) (entry : Entry) : FileTree :=
  { tree with entries := putIn location entry tree.entries }

theorem lookup_putIn_self (location : Location) (entry : Entry)
    (entries : List (Location × Entry)) :
    (putIn location entry entries).lookup location = some entry := by
  induction entries with
  | nil => simp [putIn]
  | cons head rest ih =>
      obtain ⟨other, old⟩ := head
      by_cases h : location = other
      · simp [putIn, h]
      · have hb : (location == other) = false := by simp [h]
        simpa [putIn, h, List.lookup_cons, hb] using ih

theorem lookup_putIn_of_ne {location other : Location} (h : other ≠ location) (entry : Entry)
    (entries : List (Location × Entry)) :
    (putIn location entry entries).lookup other = entries.lookup other := by
  have hb : (other == location) = false := by simp [h]
  induction entries with
  | nil => simp [putIn, List.lookup_cons, hb]
  | cons head rest ih =>
      obtain ⟨first, old⟩ := head
      by_cases hl : location = first
      · subst hl
        simp [putIn, List.lookup_cons, hb]
      · by_cases ho : other = first
        · subst ho
          simp [putIn, hl]
        · have hf : (other == first) = false := by simp [ho]
          simp [putIn, hl, List.lookup_cons, hf, ih]

@[simp] theorem entryAt?_put_self (tree : FileTree) {location : Location} (entry : Entry)
    (h : location ≠ []) :
    (tree.put location entry).entryAt? location = some entry := by
  simp [entryAt?, put, h, lookup_putIn_self]

theorem entryAt?_put_of_ne (tree : FileTree) {location other : Location} (entry : Entry)
    (h : other ≠ location) :
    (tree.put location entry).entryAt? other = tree.entryAt? other := by
  simp [entryAt?, put, lookup_putIn_of_ne h]

end Entries

/-- A tree that holds nothing but a working directory. -/
def empty : FileTree where
  working := ["tmp", "work"]
  entries := [(["tmp"], .directory), (["tmp", "work"], .directory)]

/-- The regular files below the working directory, with their paths from there. -/
def workingFiles (tree : FileTree) : List (Path × ByteArray) :=
  tree.entries.filterMap fun (location, entry) =>
    match entry, tree.working.isPrefixOf? location with
    | .file content, some names => some (⟨"/".intercalate names⟩, content)
    | _, _ => none

end FileTree
end HeaderBindings
