import HeaderBindings.Proofs.HeaderSpellings

/-!
# Keys of headers that are not there

The key of a header that is not there is made from its text: its components without `.`,
written one after the other.  It is a normal form of the path.

**Texts.**  A path is determined, up to `.` components, by whether it starts at the root and by
its *telling* segments, those other than the empty one and `.` (`Path.route_eq_iff`).  The
telling segments of two texts with a slash between them are those of one text and then those of
the other (`Path.tellingSegments_slash`), so a segment that is put in changes the key exactly if
it is telling, the very beginning and the very end of the text apart.

**Results.**
* `visitKey_eq_iff_of_missing`: missing headers with the same route have the same key.
* `visitKey_visitKey`: a key that is missing too is its own key.
* `FileTree.keys_are_normal_forms`: which headers share a key.
-/

namespace HeaderBindings
namespace Path

section Telling

/-- The segments of a path that say something: not the empty ones and not `.`. -/
def tellingSegments (path : Path) : List (List Char) :=
  path.segments.filter fun segment => !isIdle segment

theorem stepOf_eq_none_iff (segment : List Char) :
    stepOf segment = none ↔ isIdle segment = true := by
  unfold stepOf
  split
  · next hidle => simp [hidle]
  · next htelling => split <;> simp [htelling]

/-- The steps of a path are those of its telling segments. -/
theorem steps_eq_filterMap (path : Path) :
    path.steps = path.tellingSegments.filterMap stepOf := by
  rw [steps, tellingSegments, List.filterMap_filter]
  refine List.filterMap_congr fun segment _ => ?_
  cases hidle : isIdle segment with
  | true => simp [(stepOf_eq_none_iff segment).2 hidle]
  | false => simp

/-- The texts of the steps of a path are its telling segments. -/
theorem map_text_steps (path : Path) :
    (path.steps.map fun component => component.text.toList) = path.tellingSegments := by
  rw [steps, tellingSegments, List.map_filterMap, ← List.filterMap_eq_filter]
  refine List.filterMap_congr fun segment _ => ?_
  cases hstep : stepOf segment with
  | none =>
      have hidle := (stepOf_eq_none_iff segment).1 hstep
      simp [Option.guard, hidle]
  | some component =>
      have htelling : isIdle segment = false := by
        rw [Bool.eq_false_iff, Ne, ← stepOf_eq_none_iff, hstep]
        simp
      simp [Option.guard, htelling, text_of_stepOf hstep]

theorem steps_eq_iff (p q : Path) :
    p.steps = q.steps ↔ p.tellingSegments = q.tellingSegments := by
  constructor
  · intro hsteps
    rw [← map_text_steps, ← map_text_steps, hsteps]
  · intro htelling
    rw [steps_eq_filterMap, steps_eq_filterMap, htelling]

/-- Two paths have the same route if both or neither start at the root and their telling segments
are the same. -/
theorem route_eq_iff (p q : Path) :
    p.route = q.route ↔
      p.isAbsolute = q.isAbsolute ∧ p.tellingSegments = q.tellingSegments := by
  have hroot (path : Path) : .root ∉ path.steps :=
    fun hmem => (isStep_of_mem_steps hmem).ne_root rfl
  rw [route_eq, route_eq, ← steps_eq_iff]
  cases hp : p.isAbsolute <;> cases hq : q.isAbsolute
  case true.true => simp
  case false.false => simp
  -- The root cannot stand where the other path has a step.
  case true.false =>
    have hne : .root :: p.steps ≠ q.steps := fun heq => hroot q (heq ▸ List.mem_cons_self)
    simpa using hne
  case false.true =>
    have hne : p.steps ≠ .root :: q.steps := fun heq => hroot p (heq ▸ List.mem_cons_self)
    simpa using hne

end Telling

section Slashes

/-- The telling segments of two texts with a slash between them. -/
theorem tellingSegments_slash (before after : String) :
    tellingSegments ⟨before ++ "/" ++ after⟩ =
      tellingSegments ⟨before⟩ ++ tellingSegments ⟨after⟩ := by
  have htext : (before ++ "/" ++ after).toList = before.toList ++ '/' :: after.toList := by
    simp
  simp only [tellingSegments, segments, htext, Text.splitOn_append_cons, List.filter_append]

theorem isIdle_iff (segment : String) :
    isIdle segment.toList = true ↔ segment = "" ∨ segment = "." := by
  have hdot : segment.toList = ['.'] ↔ segment = "." := by
    rw [← String.toList_inj]
    rfl
  simp [isIdle, hdot]

/-- A single segment says nothing if it is empty or a `.`. -/
theorem tellingSegments_eq_nil_iff {segment : String} (hslash : '/' ∉ segment.toList) :
    tellingSegments ⟨segment⟩ = [] ↔ segment = "" ∨ segment = "." := by
  rw [tellingSegments, segments, Text.splitOn_of_not_mem hslash, ← isIdle_iff]
  simp

/-- A text with a slash in it starts at the root if it does so before the slash, or if there is
nothing before the slash. -/
theorem isAbsolute_slash (before after : String) :
    isAbsolute ⟨before ++ "/" ++ after⟩ = (before = "" || isAbsolute ⟨before⟩) := by
  have htext : (before ++ "/" ++ after).toList = before.toList ++ '/' :: after.toList := by
    simp
  rw [isAbsolute, isAbsolute, htext]
  by_cases hbefore : before = ""
  · simp [hbefore]
  · have hfilled : before.toList ≠ [] := by simpa using hbefore
    simp [hbefore, List.head?_append_of_ne_nil _ hfilled]

end Slashes

section Edits

variable {segment : String} (hslash : '/' ∉ segment.toList)
include hslash

/-- A segment between two slashes matters exactly if it is telling. -/
theorem route_insert_iff (before after : String) :
    route ⟨before ++ "/" ++ segment ++ "/" ++ after⟩ = route ⟨before ++ "/" ++ after⟩ ↔
      segment = "" ∨ segment = "." := by
  have htext : before ++ "/" ++ segment ++ "/" ++ after =
      before ++ "/" ++ (segment ++ "/" ++ after) := by
    simp only [String.append_assoc]
  rw [route_eq_iff, htext, isAbsolute_slash, isAbsolute_slash, tellingSegments_slash,
    tellingSegments_slash, tellingSegments_slash, ← tellingSegments_eq_nil_iff hslash]
  simp

/-- Of the segments before a path, only a `.` before a relative path and the empty one before the
root do not matter. -/
theorem route_leading_iff (path : Path) :
    route ⟨segment ++ "/" ++ path.text⟩ = path.route ↔
      (segment = "" ∧ path.isAbsolute = true) ∨ (segment = "." ∧ path.isAbsolute = false) := by
  have hrelative : isAbsolute ⟨segment⟩ = false := by
    rw [isAbsolute, decide_eq_false_iff_not]
    exact fun hhead => hslash (List.mem_of_head? hhead)
  have htelling : tellingSegments ⟨segment⟩ ++ path.tellingSegments = path.tellingSegments ↔
      segment = "" ∨ segment = "." := by
    rw [← tellingSegments_eq_nil_iff hslash]
    simp
  rw [route_eq_iff, isAbsolute_slash, hrelative, tellingSegments_slash, htelling]
  by_cases hempty : segment = ""
  · cases path.isAbsolute <;> simp [hempty]
  · cases path.isAbsolute <;> simp [hempty]

/-- A segment behind a path matters exactly if it is telling or there is nothing before it. -/
theorem route_trailing_iff (path : Path) :
    route ⟨path.text ++ "/" ++ segment⟩ = path.route ↔
      path.text ≠ "" ∧ (segment = "" ∨ segment = ".") := by
  have habsolute : (decide (path.text = "") || path.isAbsolute) = path.isAbsolute ↔
      path.text ≠ "" := by
    by_cases hempty : path.text = ""
    · simp [isAbsolute, hempty]
    · simp [hempty]
  rw [route_eq_iff, isAbsolute_slash, tellingSegments_slash, habsolute,
    ← tellingSegments_eq_nil_iff hslash]
  simp

end Edits

section Normal

/-- Leaving out the `.` components keeps the others. -/
theorem route_withoutHere (path : Path) : path.withoutHere.route = path.route := by
  rw [route, components_withoutHere, route, List.filter_filter]
  simp

end Normal

end Path

section Keys

variable {tree : FileTree} {p q : Path}

theorem visitKey_of_missing (hp : tree.canonical? p = none) :
    visitKey tree p = Path.ofComponents p.route := by
  rw [visitKey, hp]
  rfl

/-- Missing headers have keys with the same components exactly if they have the same route. -/
theorem visitKey_same_iff_of_missing (hp : tree.canonical? p = none)
    (hq : tree.canonical? q = none) :
    (visitKey tree p).same (visitKey tree q) = true ↔ p.route = q.route := by
  rw [Path.same, decide_eq_true_eq, components_visitKey_of_missing hp,
    components_visitKey_of_missing hq]

/-- The keys of missing headers with the same route are written alike. -/
theorem visitKey_eq_iff_of_missing (hp : tree.canonical? p = none)
    (hq : tree.canonical? q = none) : visitKey tree p = visitKey tree q ↔ p.route = q.route := by
  constructor
  · intro heq
    rw [← visitKey_same_iff_of_missing hp hq, heq]
    exact Path.same_refl _
  · intro hroute
    rw [visitKey_of_missing hp, visitKey_of_missing hq, hroute]

/-- A key that is missing like its header is its own key. -/
theorem visitKey_visitKey (hp : tree.canonical? p = none)
    (hkey : tree.canonical? (visitKey tree p) = none) :
    visitKey tree (visitKey tree p) = visitKey tree p := by
  have hwritten : visitKey tree p = p.withoutHere := visitKey_of_missing hp
  rw [visitKey_eq_iff_of_missing hkey hp, hwritten, Path.route_withoutHere]

end Keys

namespace FileTree

section NormalForms

/-- The key of a header that is not there is a normal form of its path.

Two such headers have the same key exactly if their components other than `.` are the same, and
then the keys are also written alike.  In the texts, this is so exactly if both or neither start
at the root and their segments other than the empty one and `.` are the same.  So a segment that
is put between two slashes changes the key exactly if it is not empty and not a `.`; before a
path, only a `.` before a relative path and a slash before the root do not change it; behind a
path, only a slash and a `.` do not.  A key that is not there either is its own key. -/
theorem keys_are_normal_forms (tree : FileTree) (p q : Path) (hp : tree.canonical? p = none)
    (hq : tree.canonical? q = none) :
    ((visitKey tree p).same (visitKey tree q) = true ↔ p.route = q.route) ∧
    (visitKey tree p = visitKey tree q ↔ p.route = q.route) ∧
    ((visitKey tree p).same (visitKey tree q) = true ↔
      p.isAbsolute = q.isAbsolute ∧ p.tellingSegments = q.tellingSegments) ∧
    (∀ before segment after : String, '/' ∉ segment.toList →
      p.text = before ++ "/" ++ segment ++ "/" ++ after → q.text = before ++ "/" ++ after →
        ((visitKey tree p).same (visitKey tree q) = true ↔ segment = "" ∨ segment = ".")) ∧
    (∀ segment : String, '/' ∉ segment.toList → p.text = segment ++ "/" ++ q.text →
      ((visitKey tree p).same (visitKey tree q) = true ↔
        (segment = "" ∧ q.isAbsolute = true) ∨ (segment = "." ∧ q.isAbsolute = false))) ∧
    (∀ segment : String, '/' ∉ segment.toList → p.text = q.text ++ "/" ++ segment →
      ((visitKey tree p).same (visitKey tree q) = true ↔
        q.text ≠ "" ∧ (segment = "" ∨ segment = "."))) ∧
    (tree.canonical? (visitKey tree p) = none →
      visitKey tree (visitKey tree p) = visitKey tree p) := by
  have hkeys := visitKey_same_iff_of_missing hp hq
  refine ⟨hkeys, visitKey_eq_iff_of_missing hp hq, hkeys.trans (Path.route_eq_iff p q), ?_, ?_, ?_,
    visitKey_visitKey hp⟩
  · intro before segment after hslash hlong hshort
    obtain rfl : p = ⟨before ++ "/" ++ segment ++ "/" ++ after⟩ := congrArg Path.mk hlong
    obtain rfl : q = ⟨before ++ "/" ++ after⟩ := congrArg Path.mk hshort
    exact hkeys.trans (Path.route_insert_iff hslash before after)
  · intro segment hslash htext
    obtain rfl : p = ⟨segment ++ "/" ++ q.text⟩ := congrArg Path.mk htext
    exact hkeys.trans (Path.route_leading_iff hslash q)
  · intro segment hslash htext
    obtain rfl : p = ⟨q.text ++ "/" ++ segment⟩ := congrArg Path.mk htext
    exact hkeys.trans (Path.route_trailing_iff hslash q)

/-- Two spellings of a header that is not there. -/
theorem keys_are_normal_forms_spelled :
    empty.canonical? ⟨"./a//b/../c.h/"⟩ = none ∧ empty.canonical? ⟨"a/b/./../c.h"⟩ = none ∧
      (visitKey empty ⟨"./a//b/../c.h/"⟩).same (visitKey empty ⟨"a/b/./../c.h"⟩) = true ∧
      visitKey empty (visitKey empty ⟨"./a//b/../c.h/"⟩) = visitKey empty ⟨"./a//b/../c.h/"⟩ := by
  have hp : empty.canonical? ⟨"./a//b/../c.h/"⟩ = none := by decide +kernel
  have hq : empty.canonical? ⟨"a/b/./../c.h"⟩ = none := by decide +kernel
  obtain ⟨hkeys, -, -, -, -, -, hagain⟩ := keys_are_normal_forms empty _ _ hp hq
  exact ⟨hp, hq, hkeys.2 (by decide +kernel), hagain (by decide +kernel)⟩

-- A dot behind a file leads nowhere, but the key without it leads to the file.
example :
    let tree := empty.put ["tmp", "work", "a.h"] (.file ByteArray.empty)
    visitKey tree ⟨"a.h/."⟩ = ⟨"a.h"⟩ ∧ visitKey tree ⟨"a.h"⟩ = ⟨"/tmp/work/a.h"⟩ := by
  decide +kernel

end NormalForms

end FileTree
end HeaderBindings
