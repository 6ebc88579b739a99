import HeaderBindings.Proofs.TreeGrowth
import HeaderBindings.Proofs.WalkReach

/-!
# Different spellings of a header

A header is remembered under its key, which does not depend on how it is spelled: not on a
leading `.`, and for a file not on the way to it.  Whether a header belongs to the system is
decided by its spelling.  So one header may be skipped under one spelling and walked under
another.

**Paths.**  A path without its `.` components has the other components of the path
(`Path.components_withoutHere`): each component that is written is read again as itself
(`Path.components_join`).  A `./` in front of a relative path puts `.` in front of its
components (`Path.components_fromHere`) and leads to the same place
(`FileTree.canonical?_fromHere`).

**Skipping.**  Two spellings with the same key are treated alike exactly if the header is
visited, or both or neither are of the system (`Survey.shouldSkip_eq_iff`).  Whatever the
include directories are, this is sure only for spellings with the same components
(`Settings.isSystem_agrees_iff`).

**Results.**
* `Survey.skipping_goes_by_spelling`: when two spellings of a header are treated differently.
* `Survey.system_header_walked`: a header of the system that is walked.
-/

namespace HeaderBindings
namespace Path

section Steps

/-- Whether a component is written as a segment that is read as this component, wherever it
stands. -/
def IsStep (component : Component) : Prop :=
  '/' ∉ component.text.toList ∧ stepOf component.text.toList = some component

/-- The components of a path after its lead. -/
def steps (path : Path) : List Component :=
  path.segments.filterMap stepOf

/-- The components of a path other than `.`. -/
def route (path : Path) : List Component :=
  path.components.filter fun component => component ≠ .here

theorem stepOf_nil : stepOf [] = none := rfl

theorem stepOf_dot : stepOf ['.'] = none := by decide

/-- The text of a step is the segment that it is read from. -/
theorem text_of_stepOf {segment : List Char} {component : Component}
    (hstep : stepOf segment = some component) : component.text.toList = segment := by
  unfold stepOf at hstep
  split at hstep
  · cases hstep
  · split at hstep
    · next hup =>
        obtain rfl := Option.some.inj hstep
        exact hup.symm
    · obtain rfl := Option.some.inj hstep
      exact String.toList_ofList

theorem isStep_of_stepOf {segment : List Char} {component : Component}
    (hslash : '/' ∉ segment) (hstep : stepOf segment = some component) : IsStep component := by
  rw [IsStep, text_of_stepOf hstep]
  exact ⟨hslash, hstep⟩

theorem IsStep.ne_here {component : Component} (hstep : IsStep component) : component ≠ .here := by
  rintro rfl
  exact absurd hstep.2 (by decide)

theorem IsStep.ne_root {component : Component} (hstep : IsStep component) : component ≠ .root := by
  rintro rfl
  exact absurd hstep.1 (by decide)

/-- The steps of a path can be written and read again. -/
theorem isStep_of_mem_steps {path : Path} {component : Component}
    (hmem : component ∈ path.steps) : IsStep component := by
  obtain ⟨segment, hsegment, hstep⟩ := List.mem_filterMap.1 hmem
  exact isStep_of_stepOf (Text.not_mem_of_mem_splitOn hsegment) hstep

/-- A route is the root, if the path is absolute, and the steps. -/
theorem route_eq (path : Path) :
    path.route = (if path.isAbsolute then [.root] else []) ++ path.steps := by
  have hsteps : (path.steps.filter fun component => component ≠ .here) = path.steps := by
    rw [List.filter_eq_self]
    intro component hmem
    simpa using (isStep_of_mem_steps hmem).ne_here
  have hlead : (path.lead.filter fun component => component ≠ .here) =
      if path.isAbsolute then [.root] else [] := by
    unfold lead
    cases path.isAbsolute <;> cases path.startsHere <;> rfl
  rw [route, components, List.filter_append, hlead]
  exact congrArg _ hsteps

/-- An absolute path has no `.` component to leave out. -/
theorem route_of_isAbsolute {path : Path} (habsolute : path.isAbsolute = true) :
    path.route = path.components := by
  rw [route_eq]
  simp [components, lead, steps, habsolute]

end Steps

section Writing

/-- A last segment adds its step to the components, whether or not there is a slash before it
already. -/
theorem components_of_text {path directory : Path} {base leaf : List Char}
    (hpath : path.text.toList = base ++ '/' :: leaf) (hleaf : '/' ∉ leaf)
    (hdirectory : directory.text.toList = base ∨ directory.text.toList = base ++ ['/'])
    (htext : directory.text.toList ≠ []) :
    path.components = directory.components ++ (stepOf leaf).toList := by
  have hsegments : path.segments = Text.splitOn '/' base ++ [leaf] := by
    rw [segments, hpath, Text.splitOn_append_cons, Text.splitOn_of_not_mem hleaf]
  have hbase : directory.segments = Text.splitOn '/' base ∨
      directory.segments = Text.splitOn '/' base ++ [[]] := by
    rcases hdirectory with heq | heq
    · exact Or.inl (by rw [segments, heq])
    · exact Or.inr (by rw [segments, heq, Text.splitOn_append_cons]; rfl)
  have habsolute : path.isAbsolute = directory.isAbsolute := by
    have hhead : path.text.toList.head? = directory.text.toList.head? := by
      rcases hdirectory with heq | heq
      · rw [heq] at htext
        rw [hpath, heq, List.head?_append_of_ne_nil _ htext]
      · rw [hpath, heq, ← List.singleton_append, ← List.append_assoc,
          List.head?_append_of_ne_nil _ (by simp)]
    simp only [isAbsolute, hhead]
  have hhere : path.startsHere = directory.startsHere := by
    have hpieces := Text.splitOn_ne_nil '/' base
    rcases hbase with heq | heq <;>
      simp [startsHere, hsegments, heq, List.head?_append_of_ne_nil _ hpieces]
  have hsteps : path.segments.filterMap stepOf =
      directory.segments.filterMap stepOf ++ (stepOf leaf).toList := by
    rcases hbase with heq | heq <;> cases hstep : stepOf leaf <;>
      simp [hsegments, heq, hstep, stepOf_nil]
  simp only [components, lead, habsolute, hhere, hsteps, List.append_assoc]

/-- A component that is written behind a path is read as itself. -/
theorem components_join (path : Path) {component : Component} (hstep : IsStep component) :
    (path.join ⟨component.text⟩).components = path.components ++ [component] := by
  obtain ⟨hslash, hread⟩ := hstep
  have hrelative : isAbsolute ⟨component.text⟩ = false := by
    rw [isAbsolute, decide_eq_false_iff_not]
    exact fun hhead => hslash (List.mem_of_head? hhead)
  cases hlast : path.text.toList.getLast? with
  | none =>
      have hempty : path.text.toList = [] := List.getLast?_eq_none_iff.1 hlast
      have hpath : path.components = [] := by
        simp [components, lead, isAbsolute, startsHere, segments, hempty, Text.splitOn, stepOf_nil]
      have hsegments : segments ⟨component.text⟩ = [component.text.toList] :=
        Text.splitOn_of_not_mem hslash
      have hhere : startsHere ⟨component.text⟩ = false := by
        rw [startsHere, hsegments, decide_eq_false_iff_not]
        intro hdot
        rw [Option.some.inj hdot, stepOf_dot] at hread
        cases hread
      rw [hpath]
      simp [join, hrelative, hlast, components, lead, hhere, hsegments, hread]
  | some last =>
      obtain ⟨before, hbefore⟩ := List.getLast?_eq_some_iff.1 hlast
      have htext : path.text.toList ≠ [] := by simp [hbefore]
      by_cases hend : last = '/'
      · have hjoin : (path.join ⟨component.text⟩).text.toList =
            before ++ '/' :: component.text.toList := by
          simp [join, hrelative, hbefore, hend]
        rw [components_of_text hjoin hslash (Or.inr (by rw [hbefore, hend])) htext, hread]
        rfl
      · have hjoin : (path.join ⟨component.text⟩).text.toList =
            path.text.toList ++ '/' :: component.text.toList := by
          simp [join, hrelative, hlast]
        rw [components_of_text hjoin hslash (Or.inl rfl) htext, hread]
        rfl

/-- Steps that are written one after the other are read one after the other. -/
theorem components_foldl_join (start : Path) {steps : List Component}
    (hsteps : ∀ component ∈ steps, IsStep component) :
    (steps.foldl (fun path component => path.join ⟨component.text⟩) start).components =
      start.components ++ steps := by
  induction steps generalizing start with
  | nil => simp
  | cons component steps ih =>
      rw [List.foldl_cons, ih _ fun other hmem => hsteps other (List.mem_cons_of_mem _ hmem),
        components_join start (hsteps component List.mem_cons_self), List.append_assoc]
      rfl

/-- A path without its `.` components has the other components of the path. -/
theorem components_withoutHere (path : Path) : path.withoutHere.components = path.route := by
  have hsteps : ∀ component ∈ path.steps, IsStep component := fun _ => isStep_of_mem_steps
  have hwritten : path.withoutHere = ofComponents path.route := rfl
  rw [hwritten, route_eq]
  unfold ofComponents
  cases path.isAbsolute with
  | false => exact (components_foldl_join ⟨""⟩ hsteps).trans rfl
  | true => exact (components_foldl_join ⟨"/"⟩ hsteps).trans rfl

end Writing

section FromHere

/-- A path with `./` in front. -/
def fromHere (path : Path) : Path :=
  ⟨"./" ++ path.text⟩

theorem segments_fromHere (path : Path) : path.fromHere.segments = ['.'] :: path.segments := by
  have htext : path.fromHere.text.toList = ['.'] ++ '/' :: path.text.toList := by
    simp [fromHere]
  rw [segments, htext, Text.splitOn_append_cons]
  rfl

@[simp] theorem isAbsolute_fromHere (path : Path) : path.fromHere.isAbsolute = false := by
  simp [isAbsolute, fromHere]

@[simp] theorem steps_fromHere (path : Path) : path.fromHere.steps = path.steps := by
  simp [steps, segments_fromHere, stepOf_dot]

/-- A `./` in front of a path puts `.` in the place of its lead. -/
theorem components_fromHere (path : Path) : path.fromHere.components = .here :: path.steps := by
  have hhere : path.fromHere.startsHere = true := by
    simp [startsHere, segments_fromHere]
  have hlead : path.fromHere.lead = [.here] := by
    simp [lead, hhere]
  calc path.fromHere.components
      = path.fromHere.lead ++ path.fromHere.steps := rfl
    _ = .here :: path.steps := by rw [hlead, steps_fromHere, List.singleton_append]

/-- A relative path that does not start with `.` consists of its steps. -/
theorem components_eq_steps {path : Path} (hrelative : path.isAbsolute = false)
    (hhere : path.startsHere = false) : path.components = path.steps := by
  simp [components, lead, hrelative, hhere, steps]

/-- A `./` in front of a relative path leaves the other components as they are. -/
theorem route_fromHere {path : Path} (hrelative : path.isAbsolute = false) :
    path.fromHere.route = path.route := by
  rw [route_eq, route_eq, isAbsolute_fromHere, hrelative, steps_fromHere]

end FromHere

end Path

namespace FileTree

/-- A `./` in front of a relative path leads to the same place. -/
theorem canonical?_fromHere (tree : FileTree) {path : Path} (hrelative : path.isAbsolute = false)
    (htext : path.text ≠ "") (hshort : path.fromHere.text.utf8ByteSize ≤ maxPath) :
    tree.canonical? path.fromHere = tree.canonical? path := by
  have hnul : path.fromHere.text.toList.contains '\x00' = path.text.toList.contains '\x00' := by
    simp [Path.fromHere]
  have hsize : ¬maxPath < path.text.utf8ByteSize := by
    have hlength : path.fromHere.text.utf8ByteSize = 2 + path.text.utf8ByteSize :=
      String.utf8ByteSize_append
    omega
  have hslash : endsWithSlash path.fromHere = endsWithSlash path := by
    have hlist : path.text.toList ≠ [] := by simpa using htext
    simp [endsWithSlash, Path.fromHere, List.getLast?_cons_of_ne_nil, hlist]
  have hway : waySegments path.fromHere = "." :: waySegments path := by
    simp [waySegments, Path.segments_fromHere]
  have hplace : tree.place .look path.fromHere = tree.place .look path := by
    have hempty : path.fromHere.text.isEmpty = false := by simp [Path.fromHere]
    have hfilled : path.text.isEmpty = false := by simpa using htext
    unfold place
    simp only [hnul, hempty, hfilled, Path.isAbsolute_fromHere, hrelative, hslash, hway, hsize,
      Nat.not_lt.2 hshort, follow_cons, if_true]
  simp only [canonical?, hplace]

end FileTree

namespace Path

section Below

theorem isBelow_iff (path directory : Path) :
    path.isBelow directory = true ↔ directory.components <+: path.components :=
  List.isPrefixOf_iff_prefix

/-- Paths that are below each other have the same components. -/
theorem same_of_isBelow {p q : Path} (hpq : p.isBelow q = true) (hqp : q.isBelow p = true) :
    p.same q = true := by
  rw [isBelow_iff] at hpq hqp
  rw [same, decide_eq_true_eq]
  exact hqp.eq_of_length_le hpq.length_le

/-- A path has the root among its components only if it is absolute. -/
theorem isAbsolute_of_root_mem {path : Path} (hroot : .root ∈ path.components) :
    path.isAbsolute = true := by
  have hkept : Component.root ∈ path.route := List.mem_filter.2 ⟨hroot, by decide⟩
  rw [route_eq, List.mem_append] at hkept
  rcases hkept with hlead | hstep
  · by_contra hrelative
    simp [hrelative] at hlead
  · exact absurd rfl (isStep_of_mem_steps hstep).ne_root

/-- Whether a path is below an absolute directory depends on its route only. -/
theorem isBelow_absolute_iff {directory : Path} (habsolute : directory.isAbsolute = true)
    (path : Path) : path.isBelow directory = true ↔ directory.components <+: path.route := by
  have hroot : Component.root ∈ directory.components := by
    simp [components, lead, habsolute]
  rw [isBelow_iff]
  by_cases hpath : path.isAbsolute = true
  · rw [route_of_isAbsolute hpath]
  · -- A relative path holds no root, with or without a leading `.`.
    constructor
    · intro hbelow
      exact absurd (isAbsolute_of_root_mem (hbelow.subset hroot)) hpath
    · intro hbelow
      have hmem : .root ∈ path.components := (List.mem_filter.1 (hbelow.subset hroot)).1
      exact absurd (isAbsolute_of_root_mem hmem) hpath

end Below

end Path

section Keys

/-- The key of a header that is not there has the components of its route. -/
theorem components_visitKey_of_missing {tree : FileTree} {path : Path}
    (hmissing : tree.canonical? path = none) : (visitKey tree path).components = path.route := by
  rw [visitKey, hmissing]
  exact path.components_withoutHere

/-- A `./` in front of a relative path does not change its key. -/
theorem visitKey_fromHere (tree : FileTree) {path : Path} (hrelative : path.isAbsolute = false)
    (htext : path.text ≠ "") (hshort : path.fromHere.text.utf8ByteSize ≤ FileTree.maxPath) :
    (visitKey tree path.fromHere).same (visitKey tree path) = true := by
  have hcanonical := tree.canonical?_fromHere hrelative htext hshort
  rw [Path.same, decide_eq_true_eq]
  cases hplace : tree.canonical? path with
  | some place =>
      rw [visitKey, visitKey, hcanonical, hplace]
      rfl
  | none =>
      rw [components_visitKey_of_missing (hcanonical.trans hplace),
        components_visitKey_of_missing hplace, Path.route_fromHere hrelative]

end Keys

section Systems

namespace Settings

theorem isSystem_iff (settings : Settings) (path : Path) :
    settings.isSystem path = true ↔
      ∃ directory ∈ settings.systemPaths, directory.components <+: path.components := by
  simp [isSystem, Path.isBelow_iff]

/-- Two spellings are of the same systems only if they have the same components: each is below
itself. -/
theorem isSystem_agrees_iff (settings : Settings) (p q : Path) :
    (∀ directories : List Path,
      { settings with systemPaths := directories }.isSystem p =
        { settings with systemPaths := directories }.isSystem q) ↔ p.same q = true := by
  constructor
  · intro hagree
    have hself (path : Path) : path.isBelow path = true :=
      (path.isBelow_iff path).2 List.prefix_rfl
    have hp := hagree [p]
    have hq := hagree [q]
    simp only [isSystem, List.any_cons, List.any_nil, Bool.or_false, hself] at hp hq
    exact Path.same_of_isBelow hq hp.symm
  · intro hsame directories
    simp only [isSystem, Path.isBelow_congr _ hsame]

/-- If all include directories of the system are absolute, headers that are not there belong to
the system or not whatever their spelling. -/
theorem isSystem_eq_of_missing {settings : Settings} {tree : FileTree} {p q : Path}
    (habsolute : ∀ directory ∈ settings.systemPaths, directory.isAbsolute = true)
    (hkey : (visitKey tree p).same (visitKey tree q) = true)
    (hp : tree.canonical? p = none) (hq : tree.canonical? q = none) :
    settings.isSystem p = settings.isSystem q := by
  rw [Path.same, decide_eq_true_eq, components_visitKey_of_missing hp,
    components_visitKey_of_missing hq] at hkey
  rw [Bool.eq_iff_iff, isSystem, isSystem, List.any_eq_true, List.any_eq_true]
  refine exists_congr fun directory => and_congr_right fun hmem => ?_
  rw [Path.isBelow_absolute_iff (habsolute directory hmem), hkey,
    ← Path.isBelow_absolute_iff (habsolute directory hmem)]

end Settings

end Systems

namespace Survey

section Skipping

/-- Two spellings of a header are treated alike if the header is visited, or if both or neither
are below an include directory of the system. -/
theorem shouldSkip_eq_iff (survey : Survey) (tree : FileTree) {p q : Path}
    (hkey : (visitKey tree p).same (visitKey tree q) = true) :
    survey.shouldSkip tree p = survey.shouldSkip tree q ↔
      survey.isVisited tree p = true ∨
        survey.settings.isSystem p = survey.settings.isSystem q := by
  rw [shouldSkip, shouldSkip, ← isVisited_congr survey tree hkey]
  cases survey.isVisited tree p <;> simp

/-- The survey with other include directories of the system. -/
def withSystemPaths (survey : Survey) (directories : List Path) : Survey :=
  { survey with settings := { survey.settings with systemPaths := directories } }

theorem isVisited_withSystemPaths (survey : Survey) (directories : List Path) (tree : FileTree)
    (path : Path) :
    (survey.withSystemPaths directories).isVisited tree path = survey.isVisited tree path :=
  rfl

/-- A walk asks for no header whose spelling is below an include directory of the system. -/
theorem isSystem_of_request (survey : Survey) (tree : FileTree) (frontend : Frontend)
    (unit : SourceUnit) {path : Path} (hmem : path ∈ (survey.walk tree frontend unit).requests) :
    survey.settings.isSystem path = false := by
  unfold walk at hmem
  split at hmem
  · split at hmem
    · cases hmem
    · exact ((WalkSetting.walkUnit_requests_spec _ _ unit).2 path hmem).1
  · cases hmem

/-- Whether a header is skipped depends on its spelling, unless it is visited.

For two spellings with one key: they are treated alike exactly if the header is visited or both
or neither of them are below an include directory of the system; this is so for all lists of
directories only if they have the same components; and it is so for a header that is not there
if all directories are absolute.  A `./` in front of a relative header keeps the key, and
changes whether the header is skipped exactly if some directory is a beginning of one spelling
and none is a beginning of the other.  What a walk asks for is, as it is spelled, not below any
directory. -/
theorem skipping_goes_by_spelling (survey : Survey) (tree : FileTree) :
    (∀ p q : Path, (visitKey tree p).same (visitKey tree q) = true →
      (survey.shouldSkip tree p = survey.shouldSkip tree q ↔
        survey.isVisited tree p = true ∨
          survey.settings.isSystem p = survey.settings.isSystem q) ∧
      (survey.isVisited tree p = false →
        ((∀ directories : List Path,
          (survey.withSystemPaths directories).shouldSkip tree p =
            (survey.withSystemPaths directories).shouldSkip tree q) ↔ p.same q = true)) ∧
      ((∀ directory ∈ survey.settings.systemPaths, directory.isAbsolute = true) →
        tree.canonical? p = none → tree.canonical? q = none →
          survey.shouldSkip tree p = survey.shouldSkip tree q)) ∧
    (∀ header : Path, header.isAbsolute = false → header.startsHere = false →
      header.text ≠ "" → header.fromHere.text.utf8ByteSize ≤ FileTree.maxPath →
        (visitKey tree header.fromHere).same (visitKey tree header) = true ∧
          (survey.shouldSkip tree header.fromHere = survey.shouldSkip tree header ↔
            survey.isVisited tree header.fromHere = true ∨
              ((∃ directory ∈ survey.settings.systemPaths,
                  directory.components <+: .here :: header.components) ↔
                ∃ directory ∈ survey.settings.systemPaths,
                  directory.components <+: header.components))) ∧
    ∀ (frontend : Frontend) (unit : SourceUnit),
      ∀ path ∈ (survey.walk tree frontend unit).requests,
        survey.settings.isSystem path = false := by
  refine ⟨fun p q hkey => ⟨survey.shouldSkip_eq_iff tree hkey, fun hnew => ?_, ?_⟩, ?_,
    fun frontend unit path => survey.isSystem_of_request tree frontend unit⟩
  · rw [← Settings.isSystem_agrees_iff survey.settings]
    refine forall_congr' fun directories => ?_
    rw [shouldSkip_eq_iff _ tree hkey, isVisited_withSystemPaths, hnew]
    simp [withSystemPaths]
  · intro habsolute hp hq
    rw [shouldSkip_eq_iff _ tree hkey]
    exact Or.inr (Settings.isSystem_eq_of_missing habsolute hkey hp hq)
  · intro header hrelative hhere htext hshort
    have hkey := visitKey_fromHere tree hrelative htext hshort
    refine ⟨hkey, (shouldSkip_eq_iff _ tree hkey).trans (or_congr_right ?_)⟩
    rw [Bool.eq_iff_iff, Settings.isSystem_iff, Settings.isSystem_iff, Path.components_fromHere,
      Path.components_eq_steps hrelative hhere]

end Skipping

section Walked

/-- A run in which the headers below `sys` belong to the system. -/
def sysSurvey : Survey where
  settings := { systemPaths := [⟨"sys"⟩] }

/-- A header of the system, with one declaration. -/
def sysUnit : SourceUnit where
  path := ⟨"./sys/b.h"⟩
  decls := [{ kind := .constructor, name := "b", lexicalParent := some (Parent.ofClass "b") }]

/-- A header that includes it. -/
def userUnit : SourceUnit where
  path := ⟨"a.h"⟩
  includes := [⟨"./sys/b.h"⟩]
  decls := [{ kind := .constructor, name := "a", lexicalParent := some (Parent.ofClass "a") }]

/-- A `./` in front of a header of the system lets a walk in. -/
theorem skipping_goes_by_spelling_sys :
    (visitKey FileTree.empty ⟨"./sys/b.h"⟩).same (visitKey FileTree.empty ⟨"sys/b.h"⟩) = true ∧
      sysSurvey.shouldSkip FileTree.empty ⟨"./sys/b.h"⟩ ≠
        sysSurvey.shouldSkip FileTree.empty ⟨"sys/b.h"⟩ := by
  obtain ⟨-, hheader, -⟩ := skipping_goes_by_spelling sysSurvey FileTree.empty
  obtain ⟨hkey, hskip⟩ :=
    hheader ⟨"sys/b.h"⟩ (by decide +kernel) (by decide +kernel) (by decide) (by decide +kernel)
  refine ⟨hkey, fun hsame => ?_⟩
  rcases hskip.1 hsame with hvisited | hbelow
  · exact absurd hvisited (by decide +kernel)
  · exact absurd hbelow (by decide +kernel)

/-- A header of the system that is skipped under one spelling and walked under another. -/
theorem system_header_walked :
    let step := sysSurvey.walk FileTree.empty
      (UnitStore.toFrontend (UnitStore.ofList [userUnit, sysUnit])) userUnit
    visitKey FileTree.empty ⟨"./sys/b.h"⟩ = visitKey FileTree.empty ⟨"sys/b.h"⟩ ∧
      sysSurvey.shouldSkip FileTree.empty ⟨"sys/b.h"⟩ = true ∧
      sysSurvey.shouldSkip FileTree.empty ⟨"./sys/b.h"⟩ = false ∧
      step.requests = [⟨"./sys/b.h"⟩] ∧
      step.survey.walked = sysUnit.decls ++ userUnit.decls := by
  decide +kernel

end Walked

end Survey
end HeaderBindings
