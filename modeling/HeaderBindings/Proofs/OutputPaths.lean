import HeaderBindings.Program.Writing
import HeaderBindings.Proofs.CaseForms
import HeaderBindings.Proofs.TreeGrowth

/-!
# The paths of schema files

All classes of a run are written to one directory: the name of a schema file has no
slash in it, so that the directory of the file is the output directory, whatever
the class is called.

**Results.**
* `not_mem_typeName`: a name without a slash has a target name without one.
* `directoryOf_join`: the directory of a schema file does not depend on the class.
* `Prepared`: how the tree of a run is related to the tree of a single class.
-/

namespace HeaderBindings

section TargetNames

/-- A name without a slash has a target name without one. -/
theorem not_mem_typeName (kind : TypeKind) {name : String} (hname : '/' ∉ name.toList) :
    '/' ∉ (Target.typeName kind name).toList := by
  unfold Target.typeName
  split
  · next hprimitive =>
      have hplain : ∀ entry ∈ Target.primitiveNames, '/' ∉ entry.2.toList := by
        decide +kernel
      obtain ⟨entry, hentry, htarget⟩ := Target.exists_primitiveName hprimitive
      rw [htarget]
      exact hplain entry hentry
  · rw [String.toList_ofList, Target.mem_pascalCase_iff Text.isCaseless_slash]
    rintro ⟨hbase, _⟩
    refine hname ?_
    unfold Target.baseName at hbase
    split at hbase
    · next before base hsplit =>
        rw [Text.splitLast?_eq_some hsplit]
        exact List.mem_append_right _ hbase
    · exact hbase

end TargetNames

section Directories

/-- Whether a segment is the name of a file. -/
def IsLeaf (segment : List Char) : Prop :=
  '/' ∉ segment ∧ Path.isIdle segment = false

/-- The name of a schema file is the name of a file. -/
theorem isLeaf_schema {target : String} (htarget : '/' ∉ target.toList) :
    IsLeaf (target ++ ".json").toList := by
  constructor
  · simp [htarget]
  · have hlength : 5 ≤ (target ++ ".json").toList.length := by simp
    unfold Path.isIdle
    simp only [Bool.or_eq_false_iff, decide_eq_false_iff_not]
    constructor <;> intro heq <;> simp [heq] at hlength

theorem IsLeaf.isAbsolute {path : Path} (hleaf : IsLeaf path.text.toList) :
    path.isAbsolute = false := by
  simp only [Path.isAbsolute, decide_eq_false_iff_not]
  intro hhead
  exact hleaf.1 (List.mem_of_head? hhead)

/-- The name of a file on its own is a path of one segment. -/
theorem leadAndBody_of_isLeaf {path : Path} (hleaf : IsLeaf path.text.toList) :
    path.leadAndBody = ([], [path.text.toList]) := by
  have hsegments : path.segments = [path.text.toList] := Text.splitOn_of_not_mem hleaf.1
  have hhere : path.startsHere = false := by
    have hidle := hleaf.2
    simp only [Path.isIdle, Bool.or_eq_false_iff, decide_eq_false_iff_not] at hidle
    simpa [Path.startsHere, hsegments] using hidle.2
  simp [Path.leadAndBody, hleaf.isAbsolute, hhere, hsegments]

/-- What comes before the name in the path of a file, and the segments there. -/
theorem exists_leadAndBody (base : List Char) :
    ∃ lead body, ∀ path : Path, ∀ leaf, path.text.toList = base ++ '/' :: leaf →
      IsLeaf leaf → path.leadAndBody = (lead, body ++ [leaf]) := by
  cases base with
  | nil =>
      refine ⟨['/'], [], ?_⟩
      intro path leaf htext hleaf
      have habsolute : path.isAbsolute = true := by simp [Path.isAbsolute, htext]
      simp [Path.leadAndBody, habsolute, htext, Text.splitOn_of_not_mem hleaf.1]
  | cons first rest =>
      by_cases hlead : first = '/' ∨ (Text.splitOn '/' (first :: rest)).head? = some ['.']
      · refine ⟨[first], Text.splitOn '/' rest, ?_⟩
        intro path leaf htext hleaf
        have hmarked : (path.isAbsolute || path.startsHere) = true := by
          rw [Bool.or_eq_true]
          rcases hlead with rfl | hhere
          · exact Or.inl (by simp [Path.isAbsolute, htext])
          · right
            simp only [Path.startsHere, Path.segments, htext, Text.splitOn_append_cons,
              List.head?_append, hhere]
            rfl
        simp only [Path.leadAndBody, hmarked, ↓reduceIte, htext, List.cons_append,
          List.take_succ_cons, List.take_zero, List.drop_succ_cons, List.drop_zero]
        rw [Text.splitOn_append_cons, Text.splitOn_of_not_mem hleaf.1]
      · rw [not_or] at hlead
        refine ⟨[], Text.splitOn '/' (first :: rest), ?_⟩
        intro path leaf htext hleaf
        have hsegments : path.segments = Text.splitOn '/' (first :: rest) ++ [leaf] := by
          rw [Path.segments, htext, Text.splitOn_append_cons,
            Text.splitOn_of_not_mem hleaf.1]
        have hmarked : (path.isAbsolute || path.startsHere) = false := by
          rw [Bool.or_eq_false_iff]
          constructor
          · simp [Path.isAbsolute, htext, hlead.1]
          · cases hpieces : Text.splitOn '/' (first :: rest) with
            | nil => exact absurd hpieces (Text.splitOn_ne_nil '/' (first :: rest))
            | cons piece pieces => simpa [Path.startsHere, hsegments, hpieces] using hlead.2
        simp [Path.leadAndBody, hmarked, hsegments]

/-- The path above a file whose name is the last segment. -/
theorem parent?_of_leadAndBody {path : Path} {lead leaf : List Char} {body : List (List Char)}
    (hbody : path.leadAndBody = (lead, body ++ [leaf])) (hleaf : Path.isIdle leaf = false) :
    path.parent? = some ⟨String.ofList (lead ++ Text.join ['/'] (Path.trimIdle body))⟩ := by
  have htrim : Path.trimIdle (body ++ [leaf]) = body ++ [leaf] := by
    simp [Path.trimIdle, hleaf]
  unfold Path.parent?
  rw [hbody]
  simp only [htrim]
  split
  · next hnil => simp at hnil
  · next segment rest hsegments =>
      rw [← hsegments]
      simp

/-- How the path of a file in a directory is written. -/
theorem exists_join_text (directory : Path) :
    (directory.text = "" ∧ ∀ leaf : Path, directory.join leaf = leaf) ∨
      ∃ base, ∀ leaf : Path, leaf.isAbsolute = false →
        (directory.join leaf).text.toList = base ++ '/' :: leaf.text.toList := by
  cases hlast : directory.text.toList.getLast? with
  | none =>
      left
      have hempty : directory.text = "" := by
        simpa using hlast
      refine ⟨hempty, fun leaf => ?_⟩
      simp [Path.join, hlast]
  | some last =>
      right
      obtain ⟨before, hbefore⟩ := List.getLast?_eq_some_iff.1 hlast
      by_cases hslash : last = '/'
      · refine ⟨before, fun leaf hleaf => ?_⟩
        simp [Path.join, hleaf, hslash, hbefore]
      · refine ⟨directory.text.toList, fun leaf hleaf => ?_⟩
        simp [Path.join, hleaf, hlast]

/-- The directory of a schema file does not depend on the class. -/
theorem directoryOf_join (directory : Path) {first second : Path}
    (hfirst : IsLeaf first.text.toList) (hsecond : IsLeaf second.text.toList) :
    Writing.directoryOf (directory.join first) = Writing.directoryOf (directory.join second) := by
  obtain ⟨lead, body, hbody⟩ : ∃ lead body, ∀ leaf : Path, IsLeaf leaf.text.toList →
      (directory.join leaf).leadAndBody = (lead, body ++ [leaf.text.toList]) := by
    rcases exists_join_text directory with ⟨_, hjoin⟩ | ⟨base, hbase⟩
    · refine ⟨[], [], fun leaf hleaf => ?_⟩
      rw [hjoin]
      exact leadAndBody_of_isLeaf hleaf
    · obtain ⟨lead, body, hbody⟩ := exists_leadAndBody base
      exact ⟨lead, body, fun leaf hleaf => hbody _ _ (hbase leaf hleaf.isAbsolute) hleaf⟩
  unfold Writing.directoryOf
  rw [parent?_of_leadAndBody (hbody first hfirst) hfirst.2,
    parent?_of_leadAndBody (hbody second hsecond) hsecond.2]

end Directories

section Preparing

variable {start files prepared later written : FileTree} {path : Path}

theorem extends_prepare (files : FileTree) (path : Path) :
    files.Extends (Writing.prepare files path).1 := by
  unfold Writing.prepare
  split
  · exact .refl files
  · next directory _ =>
      have hextends := files.extends_makeDirectories directory
      split
      · next made hmade =>
          rw [hmade] at hextends
          exact hextends
      · next made cause hmade =>
          rw [hmade] at hextends
          exact hextends

/-- A directory that was prepared need not be prepared again. -/
theorem prepare_again (hprepare : Writing.prepare files path = (prepared, .ok ()))
    (hgrows : prepared.Grows later) : Writing.prepare later path = (later, .ok ()) := by
  unfold Writing.prepare at hprepare ⊢
  split at hprepare
  · rfl
  · next directory _ =>
      split at hprepare
      · next made hmade =>
          obtain ⟨rfl, _⟩ := Prod.mk.inj hprepare
          rw [FileTree.makeDirectories_again hmade hgrows]
      · simp at hprepare

/-- Schema files are prepared for alike. -/
theorem prepare_pathOf (files : FileTree) (outputDir : Path) {first second : String}
    (hfirst : '/' ∉ first.toList) (hsecond : '/' ∉ second.toList) :
    Writing.prepare files (Writing.pathOf first none outputDir) =
      Writing.prepare files (Writing.pathOf second none outputDir) := by
  have hdirectory : Writing.directoryOf (Writing.pathOf first none outputDir) =
      Writing.directoryOf (Writing.pathOf second none outputDir) :=
    directoryOf_join outputDir (isLeaf_schema hfirst) (isLeaf_schema hsecond)
  unfold Writing.prepare
  rw [hdirectory]

/-- A tree in which schema files may have been written: it is the tree at the start, or that
tree with the output directory and with more files. -/
def Prepared (start : FileTree) (outputDir : Path) (files : FileTree) : Prop :=
  files = start ∨
    ∃ ready,
      (∀ target, '/' ∉ target.toList →
        Writing.prepare start (Writing.pathOf target none outputDir) = (ready, .ok ())) ∧
      ready.AddsFiles files

variable {outputDir : Path} {target : String} {content : ByteArray}

theorem Prepared.grows (hfiles : Prepared start outputDir files) : start.Grows files := by
  rcases hfiles with rfl | ⟨ready, hready, hadds⟩
  · exact .refl files
  · have hextends := extends_prepare start (Writing.pathOf "" none outputDir)
    rw [hready "" (by simp)] at hextends
    exact hextends.grows.trans hadds.grows

/-- Preparing for a file only adds files to what preparing gives at the start. -/
theorem Prepared.prepare (hfiles : Prepared start outputDir files)
    (htarget : '/' ∉ target.toList)
    (hprepare : Writing.prepare files (Writing.pathOf target none outputDir) =
      (prepared, .ok ())) :
    ∃ ready,
      (∀ target, '/' ∉ target.toList →
        Writing.prepare start (Writing.pathOf target none outputDir) = (ready, .ok ())) ∧
      ready.AddsFiles prepared := by
  rcases hfiles with rfl | ⟨ready, hready, hadds⟩
  · refine ⟨prepared, fun other hother => ?_, .refl prepared⟩
    rw [prepare_pathOf files outputDir hother htarget, hprepare]
  · refine ⟨ready, hready, ?_⟩
    rw [prepare_again (hready target htarget) hadds.grows] at hprepare
    obtain ⟨rfl, _⟩ := Prod.mk.inj hprepare
    exact hadds

/-- What can be written to a schema file during a run can be written to it at the start. -/
theorem Prepared.write (hfiles : Prepared start outputDir files)
    (htarget : '/' ∉ target.toList)
    (hprepare : Writing.prepare files (Writing.pathOf target none outputDir) =
      (prepared, .ok ()))
    (hwrite : prepared.write (Writing.pathOf target none outputDir) content = .ok written) :
    Prepared start outputDir written ∧
      ∃ ready alone,
        Writing.prepare start (Writing.pathOf target none outputDir) = (ready, .ok ()) ∧
        ready.write (Writing.pathOf target none outputDir) content = .ok alone := by
  obtain ⟨ready, hready, hadds⟩ := hfiles.prepare htarget hprepare
  obtain ⟨alone, halone⟩ := hadds.exists_write hwrite
  exact ⟨Or.inr ⟨ready, hready, hadds.afterWrite hwrite⟩, ready, alone, hready target htarget,
    halone⟩

end Preparing

end HeaderBindings
