import HeaderBindings.Text.Search

/-!
# Paths

A path is kept as it was written, because that is how it is shown.  Two paths name
the same place when their *components* agree: repeated and trailing slashes and
inner `.` segments do not count, a leading `.` and every `..` do.

**Results.**
* `same_refl`, `same_symm`, `same_trans`: naming the same place is an equivalence.
* `isBelow_congr`: being below a directory depends on the components only.
-/

namespace HeaderBindings

/-- A path as it was written. -/
structure Path where
  text : String
deriving DecidableEq, Inhabited

namespace Path

/-- One step of a path. -/
inductive Component where
  /-- The slash that an absolute path starts with. -/
  | root
  /-- A `.` at the start of a relative path. -/
  | here
  /-- A `..`. -/
  | up
  | name (text : String)
deriving DecidableEq

section Components

/-- The texts between the slashes. -/
def segments (path : Path) : List (List Char) :=
  Text.splitOn '/' path.text.toList

/-- Whether a path starts at the root. -/
def isAbsolute (path : Path) : Bool :=
  path.text.toList.head? = some '/'

/-- Whether a path starts with a `.` segment. -/
def startsHere (path : Path) : Bool :=
  path.segments.head? = some ['.']

/-- Whether a segment says nothing: it is empty or a `.`. -/
def isIdle (segment : List Char) : Bool :=
  segment = [] || segment = ['.']

/-- The step that a segment stands for, wherever it stands. -/
def stepOf (segment : List Char) : Option Component :=
  if isIdle segment then none
  else if segment = ['.', '.'] then some .up
  else some (.name (String.ofList segment))

/-- How a path starts: at the root, with a `.`, or with a step. -/
def lead (path : Path) : List Component :=
  if path.isAbsolute then [.root] else if path.startsHere then [.here] else []

/-- The steps of a path. -/
def components (path : Path) : List Component :=
  path.lead ++ path.segments.filterMap stepOf

/-- Whether two paths have the same components. -/
def same (p q : Path) : Bool :=
  p.components = q.components

/-- Whether a path starts with all components of a directory. -/
def isBelow (path directory : Path) : Bool :=
  directory.components.isPrefixOf path.components

theorem same_refl (p : Path) : p.same p = true := by
  simp [same]

theorem same_symm {p q : Path} (h : p.same q = true) : q.same p = true := by
  simp only [same, decide_eq_true_eq] at h ⊢
  exact h.symm

theorem same_trans {p q r : Path} (hpq : p.same q = true) (hqr : q.same r = true) :
    p.same r = true := by
  simp only [same, decide_eq_true_eq] at hpq hqr ⊢
  exact hpq.trans hqr

theorem isBelow_congr {p q : Path} (directory : Path) (h : p.same q = true) :
    p.isBelow directory = q.isBelow directory := by
  simp only [same, decide_eq_true_eq] at h
  simp [isBelow, h]

end Components

section Building

/-- The text that a component is written as. -/
def Component.text : Component → String
  | .root => "/"
  | .here => "."
  | .up => ".."
  | .name text => text

/-- A path inside a directory.  An absolute path stays as it is, and a slash is put in only
where the directory does not end with one. -/
def join (directory path : Path) : Path :=
  if path.isAbsolute then path
  else
    match directory.text.toList.getLast? with
    | none => path
    | some '/' => ⟨directory.text ++ path.text⟩
    | some _ => ⟨directory.text ++ "/" ++ path.text⟩

/-- The path that is written with the given components. -/
def ofComponents (components : List Component) : Path :=
  components.foldl (fun path component => path.join ⟨component.text⟩) ⟨""⟩

/-- A path without its `.` components. -/
def withoutHere (path : Path) : Path :=
  ofComponents (path.components.filter fun component => component ≠ .here)

end Building

section Parent

/-- Segments without the idle ones at the end. -/
def trimIdle (segments : List (List Char)) : List (List Char) :=
  (segments.reverse.dropWhile isIdle).reverse

/-- The part of a path's text that comes before its segments, and the segments after it. -/
def leadAndBody (path : Path) : List Char × List (List Char) :=
  if path.isAbsolute || path.startsHere then
    (path.text.toList.take 1, Text.splitOn '/' (path.text.toList.drop 1))
  else ([], path.segments)

/-- The path without its last component, if there is one to leave out. -/
def parent? (path : Path) : Option Path :=
  let (lead, body) := path.leadAndBody
  match trimIdle body with
  | [] => if path.startsHere then some ⟨""⟩ else none
  | segment :: rest =>
      let kept := trimIdle (segment :: rest).dropLast
      some ⟨String.ofList (lead ++ Text.join ['/'] kept)⟩

end Parent

end Path
end HeaderBindings
