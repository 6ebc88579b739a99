import HeaderBindings.Proofs.BatchStages

/-!
# A batch run agrees with separate runs

A batch run extracts many classes in one survey and writes one file for each.  When
it succeeds, every file holds what the extraction of its class alone would have
written.

**Method.**  `Reached` is what holds after some classes were extracted and some of
them written.  One class that is written keeps it, then all classes of a header,
then all headers.  Two things could go wrong with a file that was written: a later
class could change its record, which `InStep` excludes, and a later file could
stand at the same place, which is excluded at the end of the run and so all along.

**Results.**
* `World.batch_agrees`: the files of a batch run.
* `World.batch_overwrites`: two paths that lead to one file do not agree.
-/

namespace HeaderBindings

section Runs

/-- The file of a class of a batch file. -/
def BatchConfig.fileOf (config : BatchConfig) (parents : String → Parent) (entry : ClassEntry) :
    Path :=
  config.outputDir.join ⟨(parents entry.name).target ++ ".json"⟩

namespace World

/-- Whether extracting a class alone succeeds, and the file of the class has in some tree what
is written there. -/
def Agrees (world : World) (config : BatchConfig) (parents : String → Parent)
    (entry : ClassEntry) (files : FileTree) : Prop :=
  (world.extract (config.optionsFor entry)).failure = none ∧
    (world.extract (config.optionsFor entry)).output =
      (config.fileOf parents entry).text ++ "\n" ∧
    ∃ location content,
      (world.extract (config.optionsFor entry)).files.readBytes (config.fileOf parents entry) =
        .ok content ∧
      files.place .look (config.fileOf parents entry) =
        .ok (.taken location (.file content))

/-- How far a batch run has come: some classes are extracted, and some of them are written. -/
structure Reached (world : World) (config : BatchConfig) (settings : Settings)
    (parents : String → Parent) (done written : List ClassEntry) (progress : Progress) :
    Prop where
  done_mem : ∀ entry ∈ done, entry ∈ config.classes
  written_mem : ∀ entry ∈ written, entry ∈ done
  inStep : (world.site settings).InStep done progress.survey
  prepared : Prepared world.files config.outputDir progress.files
  agrees : ∀ entry ∈ written, world.Agrees config parents entry progress.files

/-- Whether classes with different target names have different files in some tree. -/
def FilesApart (config : BatchConfig) (parents : String → Parent) (files : FileTree) : Prop :=
  ∀ first ∈ config.classes, ∀ second ∈ config.classes,
    (parents first.name).target ≠ (parents second.name).target →
      files.canonical? (config.fileOf parents first) ≠
        files.canonical? (config.fileOf parents second)

variable {world : World} {config : BatchConfig} {start progress after : Progress}
  {parents : String → Parent} {final : FileTree} {done written entries : List ClassEntry}

/-- A file stays as it is while another one is written. -/
theorem place_of_writeClass {survey : Survey} {files : FileTree} {header path : Path}
    {selection : Selection} {space : String} {outputDir : Path}
    (hok : (survey.writeClass files header selection space none outputDir).outcome = .ok path)
    (hfinal : (survey.writeClass files header selection space none outputDir).files.Grows final)
    {other : Path} (hapart : final.canonical? other ≠ final.canonical? path)
    {location : Location} {content : ByteArray}
    (hplace : files.place .look other = .ok (.taken location (.file content))) :
    (survey.writeClass files header selection space none outputDir).files.place .look other =
      .ok (.taken location (.file content)) := by
  obtain ⟨_, interface, prepared, written, _, rfl, hprepare, hwrite, _, hwritten⟩ :=
    Survey.writeClass_ok hok
  rw [hwritten] at hfinal ⊢
  have hextends := extends_prepare files
    (Writing.pathOf interface.classType.targetName none outputDir)
  rw [hprepare] at hextends
  refine FileTree.write_place_of_ne hwrite (hextends.place_file hplace) ?_
  intro heq
  obtain ⟨target, _, _, _, htarget⟩ := FileTree.write_spec hwrite
  have hreal : written.canonical?
      (Writing.pathOf interface.classType.targetName none outputDir) =
      some ⟨"/" ++ "/".intercalate target⟩ := by
    simp [FileTree.canonical?, htarget]
  refine hapart ?_
  rw [hfinal.canonical? hreal, hfinal.canonical? (heq.trans hreal)]

/-- A class that is written agrees, and the classes that were written before still do. -/
theorem Reached.writeClass
    (hreached : world.Reached config start.survey.settings parents done written progress)
    (hstart : world.start config.compiler config.includes config.args config.isRecursive =
      .ok start)
    (hsep : (world.site start.survey.settings).Separable config.classes parents)
    {entry : ClassEntry} (hentry : entry ∈ done) (hnew : entry ∉ written) {header : Path}
    (hok : progress.writeClass header (Progress.selectionOf entry) entry.space none
      config.outputDir = (after, .ok ()))
    (hfinal : after.files.Grows final) (hapart : FilesApart config parents final) :
    world.Reached config start.survey.settings parents done (written ++ [entry]) after := by
  obtain ⟨⟨path, hpath⟩, hsurvey, hfiles⟩ := Progress.writeClass_ok hok
  obtain ⟨labelled, interface, prepared, changed, hlabel, hfile, hprepare, hwrite, hlabelled,
    hchanged⟩ := Survey.writeClass_ok hpath
  obtain ⟨decls, hlook⟩ := hreached.inStep.looked entry hentry
  obtain ⟨⟨own, hown⟩, htarget, hplain⟩ := hreached.inStep.label_alone hsep hreached.done_mem
    (hreached.done_mem entry hentry) hlabel (hsep.extract_alone hlook).2
  rw [htarget] at hfile
  subst hfile
  obtain ⟨hprepared, ready, alone, hready, halone⟩ :=
    hreached.prepared.write hplain hprepare hwrite
  refine ⟨hreached.done_mem, ?_, ?_, ?_, ?_⟩
  · intro other hother
    rcases List.mem_append.1 hother with hold | hadded
    · exact hreached.written_mem other hold
    · obtain rfl := List.mem_singleton.1 hadded
      exact hentry
  · rw [hsurvey, hlabelled]
    exact hreached.inStep.label hlabel
  · rw [hfiles, hchanged]
    exact hprepared
  · intro other hother
    rcases List.mem_append.1 hother with hold | hadded
    · obtain ⟨hfailure, houtput, location, content, hread, hplace⟩ :=
        hreached.agrees other hold
      refine ⟨hfailure, houtput, location, content, hread, ?_⟩
      rw [hfiles] at hfinal ⊢
      refine place_of_writeClass hpath hfinal ?_ hplace
      refine hapart other (hreached.done_mem other (hreached.written_mem other hold)) entry
        (hreached.done_mem entry hentry) ?_
      intro heq
      obtain rfl := hreached.inStep.target_inj hsep hreached.done_mem
        (hreached.written_mem other hold) hentry heq
      exact hnew hold
    · obtain rfl := List.mem_singleton.1 hadded
      obtain ⟨hfailure, houtput, htree⟩ := extract_of_write hstart hsep hlook hown
        (by rw [htarget]) hready halone
      obtain ⟨location, _, _, _, hplace⟩ := FileTree.write_spec hwrite
      refine ⟨hfailure, houtput, location, interface.schemaText.toUTF8, ?_, ?_⟩
      · rw [htree]
        exact FileTree.readBytes_write halone
      · rw [hfiles, hchanged]
        exact hplace

/-- All classes of a header are written one after the other. -/
theorem Reached.writeClasses
    (hreached : world.Reached config start.survey.settings parents done written progress)
    (hstart : world.start config.compiler config.includes config.args config.isRecursive =
      .ok start)
    (hsep : (world.site start.survey.settings).Separable config.classes parents)
    (hentries : ∀ entry ∈ entries, entry ∈ done) (hnodup : (written ++ entries).Nodup)
    {header : Path}
    (hok : Progress.writeClasses header config.outputDir entries progress = (after, .ok ()))
    (hfinal : after.files.Grows final) (hapart : FilesApart config parents final) :
    world.Reached config start.survey.settings parents done (written ++ entries) after := by
  induction entries generalizing progress written with
  | nil =>
      obtain ⟨rfl, _⟩ := Prod.mk.inj hok
      rw [List.append_nil]
      exact hreached
  | cons entry entries ih =>
      obtain ⟨reached, hfirst, hrest⟩ := Stage.andThen_eq_ok_iff.1 hok
      have hgrows := reached.grows_writeClasses header config.outputDir entries
      rw [hrest] at hgrows
      have hnew : entry ∉ written := by
        intro hold
        exact (List.nodup_append.1 hnodup).2.2 entry hold entry List.mem_cons_self rfl
      have hstep := hreached.writeClass hstart hsep (hentries entry List.mem_cons_self) hnew
        hfirst (hgrows.trans hfinal) hapart
      rw [List.append_cons] at hnodup ⊢
      exact ih hstep (fun other hother => hentries other (List.mem_cons_of_mem _ hother))
        hnodup hrest

/-- The key of a header that is the same at the end of a run is the same all along. -/
theorem visitKey_between {first second third : FileTree} (hbefore : first.Grows second)
    (hafter : second.Grows third) {path : Path}
    (hkey : visitKey third path = visitKey first path) :
    visitKey second path = visitKey first path := by
  cases hfirst : first.canonical? path with
  | some real => simp [visitKey, hfirst, hbefore.canonical? hfirst]
  | none =>
      cases hsecond : second.canonical? path with
      | none => simp [visitKey, hfirst, hsecond]
      | some real =>
          rw [← hkey]
          simp [visitKey, hsecond, hafter.canonical? hsecond]

/-- The classes of one header are extracted and written. -/
theorem Reached.extractGroup
    (hreached : world.Reached config start.survey.settings parents done done progress)
    (hstart : world.start config.compiler config.includes config.args config.isRecursive =
      .ok start)
    (hsep : (world.site start.survey.settings).Separable config.classes parents)
    {group : HeaderGroup} (hgroup : HeaderGroup.Groups config.classes [group])
    (hnames : ((done ++ group.classes).map ClassEntry.name).Nodup)
    (hok : Progress.extractGroup world.frontend config.outputDir group progress =
      (after, .ok ()))
    (hfinal : after.files.Grows final) (hapart : FilesApart config parents final)
    (hheaders : ∀ entry ∈ config.classes,
      visitKey final entry.header = visitKey world.files entry.header)
    (hkeys : Survey.SameKeys world.frontend world.files final) :
    world.Reached config start.survey.settings parents (done ++ group.classes)
      (done ++ group.classes) after := by
  obtain ⟨first, hfirst, hheader, hclasses⟩ := hgroup group List.mem_cons_self
  obtain ⟨reached, hextract, hwrite⟩ := Stage.andThen_eq_ok_iff.1 hok
  obtain ⟨houtcome, hsurvey, hfiles⟩ := Progress.extract_ok hextract
  have hgrows := reached.grows_writeClasses group.header config.outputDir group.classes
  rw [hwrite, hfiles] at hgrows
  have hstarted := hreached.prepared.grows
  have hended := hgrows.trans hfinal
  have hsame := progress.survey.extract_congr
    (fun asked unit hasked path hpath =>
      visitKey_between hstarted hended (hkeys asked unit hasked path hpath))
    (visitKey_between hstarted hended (hheaders first hfirst))
    (group.classes.map Progress.selectionOf)
  rw [hheader, hsame] at houtcome hsurvey
  have hwf : reached.survey.registry.WellFormed := by
    rw [hsurvey]
    exact Survey.extract_wellFormed hreached.inStep.wellFormed _ _ _ _
  have hstep : (world.site start.survey.settings).InStep (done ++ group.classes)
      reached.survey := by
    rw [hsurvey]
    refine hreached.inStep.extract hsep hfirst hclasses hnames rfl houtcome ?_
    have hmade := Progress.isExtracted_of_writeClasses hwf hwrite
    rw [hsurvey] at hmade
    exact hmade
  have hextracted : world.Reached config start.survey.settings parents (done ++ group.classes)
      done reached := by
    refine ⟨?_, fun entry hentry => List.mem_append_left _ hentry, hstep, ?_, ?_⟩
    · intro entry hentry
      rcases List.mem_append.1 hentry with hold | hadded
      · exact hreached.done_mem entry hold
      · exact (hclasses entry hadded).1
    · rw [hfiles]
      exact hreached.prepared
    · rw [hfiles]
      exact hreached.agrees
  exact hextracted.writeClasses hstart hsep
    (fun entry hentry => List.mem_append_right _ hentry) hnames.of_map hwrite hfinal hapart

/-- The classes of all headers are extracted and written, one header after the other. -/
theorem Reached.extractGroups
    (hreached : world.Reached config start.survey.settings parents done done progress)
    (hstart : world.start config.compiler config.includes config.args config.isRecursive =
      .ok start)
    (hsep : (world.site start.survey.settings).Separable config.classes parents)
    {groups : List HeaderGroup} (hgroups : HeaderGroup.Groups config.classes groups)
    (hnames : ((done ++ HeaderGroup.classesIn groups).map ClassEntry.name).Nodup)
    (hok : Progress.extractGroups world.frontend config.outputDir groups progress =
      (after, .ok ()))
    (hfinal : after.files.Grows final) (hapart : FilesApart config parents final)
    (hheaders : ∀ entry ∈ config.classes,
      visitKey final entry.header = visitKey world.files entry.header)
    (hkeys : Survey.SameKeys world.frontend world.files final) :
    world.Reached config start.survey.settings parents
      (done ++ HeaderGroup.classesIn groups) (done ++ HeaderGroup.classesIn groups) after := by
  induction groups generalizing progress done with
  | nil =>
      obtain ⟨rfl, _⟩ := Prod.mk.inj hok
      simpa [HeaderGroup.classesIn] using hreached
  | cons group groups ih =>
      obtain ⟨reached, hfirst, hrest⟩ := Stage.andThen_eq_ok_iff.1 hok
      have hgrows := reached.grows_extractGroups world.frontend config.outputDir groups
      rw [hrest] at hgrows
      have hclasses : done ++ HeaderGroup.classesIn (group :: groups) =
          done ++ group.classes ++ HeaderGroup.classesIn groups := by
        simp [HeaderGroup.classesIn]
      rw [hclasses] at hnames ⊢
      have hgroup : HeaderGroup.Groups config.classes [group] := by
        intro other hother
        obtain rfl := List.mem_singleton.1 hother
        exact hgroups other List.mem_cons_self
      have hstep := hreached.extractGroup hstart hsep hgroup
        (by
          rw [List.map_append] at hnames
          exact (List.nodup_append.1 hnames).1)
        hfirst (hgrows.trans hfinal) hapart hheaders hkeys
      exact ih hstep (fun other hother => hgroups other (List.mem_cons_of_mem _ hother)) hnames
        hrest

theorem batch_eq {path : Path} (hload : BatchConfig.load world.files path = .ok config)
    (hstart : world.start config.compiler config.includes config.args config.isRecursive =
      .ok start) :
    world.batch path = Outcome.ofStage
      (Progress.extractGroups world.frontend config.outputDir config.groups start) := by
  unfold batch
  simp only [hload, hstart]

/-- A batch run that succeeds leaves in the file of every class what extracting the class alone
writes there.  The frontend goes by keys, every class is separable, no header changes its key
during the run, and no two classes have one file in the end. -/
theorem batch_agrees {path : Path} (hload : BatchConfig.load world.files path = .ok config)
    (hstart : world.start config.compiler config.includes config.args config.isRecursive =
      .ok start)
    (hsep : (world.site start.survey.settings).Separable config.classes parents)
    (hheaders : ∀ entry ∈ config.classes,
      visitKey (world.batch path).files entry.header = visitKey world.files entry.header)
    (hkeys : Survey.SameKeys world.frontend world.files (world.batch path).files)
    (hapart : FilesApart config parents (world.batch path).files)
    (hok : (world.batch path).failure = none) :
    ∀ entry ∈ config.classes,
      (world.extract (config.optionsFor entry)).failure = none ∧
        (world.extract (config.optionsFor entry)).output =
          (config.fileOf parents entry).text ++ "\n" ∧
        ∃ content,
          (world.batch path).files.readBytes (config.fileOf parents entry) = .ok content ∧
          (world.extract (config.optionsFor entry)).files.readBytes
            (config.fileOf parents entry) = .ok content := by
  obtain ⟨hfiles, hsurvey, _, _⟩ := start_spec hstart
  rw [batch_eq hload hstart] at hheaders hkeys hapart hok ⊢
  obtain ⟨hstage, htree⟩ := Outcome.ok_of_ofStage hok
  rw [htree] at hheaders hkeys hapart ⊢
  have hempty : world.Reached config start.survey.settings parents [] [] start := by
    refine ⟨by simp, by simp, ?_, Or.inl hfiles, by simp⟩
    rw [hsurvey]
    exact Site.inStep_start _
  have hperm := HeaderGroup.perm_classesIn config.classes
  have hend := hempty.extractGroups hstart hsep (HeaderGroup.groups_ofClasses config.classes)
    ((hperm.map ClassEntry.name).nodup_iff.2 hsep.distinct) hstage (.refl _) hapart hheaders
    hkeys
  intro entry hentry
  obtain ⟨hfailure, houtput, location, content, hread, hplace⟩ :=
    hend.agrees entry (hperm.mem_iff.2 hentry)
  refine ⟨hfailure, houtput, content, ?_, hread⟩
  simp [FileTree.readBytes, hplace]

section Examples

variable {tree : FileTree} {units : List SourceUnit}

/-- A class has a home if only the unit of its header has members of it. -/
theorem keyedFrontend_hasHome {settings : Settings} {header : Path} {name : String}
    {parent : Parent}
    (hmembers : ∀ unit ∈ units, ∀ decl ∈ unit.ownDecls,
      decl.lexicalParent.map Parent.name = some name →
        decl.lexicalParent = some parent ∧
          (visitKey tree unit.path).components = (visitKey tree header).components) :
    Site.HasHome ⟨tree, keyedFrontend tree units, settings⟩ header name parent := by
  refine ⟨(visitKey tree header).components, ?_⟩
  rintro asked unit hparse decl hdecl found ⟨_, _, hfound, hname⟩
  obtain ⟨hunit, hkey⟩ := keyedFrontend_parse hparse
  obtain ⟨hparent, hheader⟩ := hmembers unit hunit decl hdecl (by simp [hfound, hname])
  rw [hfound] at hparent
  refine ⟨Option.some.inj hparent, hkey.symm.trans hheader, unit, ?_, ?_⟩
  · rw [← hparse]
    exact (keyedFrontend_keyed { settings := settings }).answers header asked
      (hheader.symm.trans hkey)
  · rw [← hheader]
    exact .root

/-- Two headers, one of which includes the other, with a class each. -/
def pairUnits : List SourceUnit :=
  [{ path := ⟨"a.h"⟩
     includes := [⟨"b.h"⟩]
     decls :=
       [{ kind := .constructor, name := "a", access := some .isPublic,
          lexicalParent := some (Parent.ofClass "a") }] },
    { path := ⟨"b.h"⟩
      decls :=
        [{ kind := .constructor, name := "b", access := some .isPublic,
           lexicalParent := some (Parent.ofClass "b") }] }]

/-- A batch file for the two classes. -/
def pairText : String :=
  "output_dir = \"out\"\nclass = [[\"a.h\", \"a\", \"S\"], [\"b.h\", \"b\", \"T\"]]\n"

/-- What the batch file says. -/
def pairConfig : BatchConfig where
  compiler := "clang"
  isRecursive := true
  includes := []
  args := []
  outputDir := ⟨"out"⟩
  classes := [⟨⟨"a.h"⟩, "a", "S"⟩, ⟨⟨"b.h"⟩, "b", "T"⟩]

/-- The batch file and an output directory, in which the file of the second class may be a link. -/
def pairTree (isLinked : Bool) : FileTree where
  working := []
  entries :=
    [(["batch.toml"], .file pairText.toUTF8), (["out"], .directory)] ++
      if isLinked then [(["out", "B.json"], .link ⟨"A.json"⟩)] else []

/-- A world with the two headers. -/
def pairWorld (isLinked : Bool) : World where
  files := pairTree isLinked
  toolchain := [{ name := "clang", report := .empty }]
  frontend := keyedFrontend (pairTree isLinked) pairUnits

theorem pair_load (isLinked : Bool) :
    BatchConfig.load (pairWorld isLinked).files ⟨"batch.toml"⟩ = .ok pairConfig := by
  cases isLinked <;> decide +kernel

/-- How the batch run begins. -/
def pairStart (isLinked : Bool) : Progress where
  files := pairTree isLinked
  survey := { settings := { isRecursive := true, systemPaths := [], extraArgs := [] } }
  events := Toolchain.searchEvents "clang" [] ++
    [.remark .info "0 system include directories from clang"]

theorem pair_start (isLinked : Bool) :
    (pairWorld isLinked).start pairConfig.compiler pairConfig.includes pairConfig.args
      pairConfig.isRecursive = .ok (pairStart isLinked) := by
  have hpaths : (pairWorld isLinked).toolchain.searchPaths (pairWorld isLinked).files "clang" =
      .ok [] := by
    cases isLinked <;> decide +kernel
  simp only [start, pairConfig, hpaths]
  rfl

/-- The end of the batch run. -/
def pairEnd (isLinked : Bool) : Stage :=
  Progress.extractGroups (pairWorld isLinked).frontend pairConfig.outputDir pairConfig.groups
    (pairStart isLinked)

theorem pair_batch (isLinked : Bool) :
    (pairWorld isLinked).batch ⟨"batch.toml"⟩ = Outcome.ofStage (pairEnd isLinked) :=
  batch_eq (pair_load isLinked) (pair_start isLinked)

theorem pair_separable (isLinked : Bool) {settings : Settings}
    (hrecursive : settings.isRecursive = true) :
    ((pairWorld isLinked).site settings).Separable pairConfig.classes Parent.ofClass where
  isRecursive := hrecursive
  keyed := keyedFrontend_keyed { settings := settings }
  distinct := by decide
  plain := by decide
  onePath := by
    have hsame : ∀ first ∈ pairConfig.classes, ∀ second ∈ pairConfig.classes,
        first.header.same second.header = true → first.header = second.header := by
      decide +kernel
    intro first hfirst second hsecond hpath u v hu hv
    rw [hsame first hfirst second hsecond hpath, hv] at hu
    exact (Except.ok.inj hu).symm
  home := by
    have hmembers : ∀ entry ∈ pairConfig.classes, ∀ unit ∈ pairUnits,
        ∀ decl ∈ unit.ownDecls, decl.lexicalParent.map Parent.name = some entry.name →
          decl.lexicalParent = some (Parent.ofClass entry.name) ∧
            (visitKey (pairTree isLinked) unit.path).components =
              (visitKey (pairTree isLinked) entry.header).components := by
      cases isLinked <;> decide +kernel
    intro entry hentry
    exact keyedFrontend_hasHome (hmembers entry hentry)

/-- The batch run in either world: it succeeds and leaves the keys alone. -/
theorem pair_run (isLinked : Bool) :
    (Outcome.ofStage (pairEnd isLinked)).failure.isNone ∧
      (∀ entry ∈ pairConfig.classes,
        visitKey (Outcome.ofStage (pairEnd isLinked)).files entry.header =
          visitKey (pairWorld isLinked).files entry.header) ∧
      (∀ unit ∈ pairUnits, ∀ path ∈ unit.path :: unit.includes,
        visitKey (Outcome.ofStage (pairEnd isLinked)).files path =
          visitKey (pairWorld isLinked).files path) := by
  cases isLinked <;> decide +kernel

/-- Both files hold what the extraction of their class writes. -/
theorem batch_agrees_pair :
    ((pairWorld false).batch ⟨"batch.toml"⟩).failure = none ∧
      ∀ entry ∈ pairConfig.classes, ∃ content,
        ((pairWorld false).batch ⟨"batch.toml"⟩).files.readBytes
            (pairConfig.fileOf Parent.ofClass entry) = .ok content ∧
          ((pairWorld false).extract (pairConfig.optionsFor entry)).files.readBytes
            (pairConfig.fileOf Parent.ofClass entry) = .ok content := by
  obtain ⟨hnone, hheaders, hkeys⟩ := pair_run false
  have hapart : FilesApart pairConfig Parent.ofClass
      (Outcome.ofStage (pairEnd false)).files := by
    unfold FilesApart
    decide +kernel
  rw [← pair_batch] at hnone hheaders hkeys hapart
  have hok := Option.isNone_iff_eq_none.1 hnone
  refine ⟨hok, fun entry hentry => ?_⟩
  obtain ⟨_, _, hfile⟩ := batch_agrees (pair_load false) (pair_start false)
    (pair_separable false rfl) hheaders (keyedFrontend_sameKeys hkeys) hapart hok entry hentry
  exact hfile

/-- The byte of the file of the first class that tells the namespaces of the two classes
apart. -/
theorem pair_contents :
    let entry : ClassEntry := ⟨⟨"a.h"⟩, "a", "S"⟩
    let file := pairConfig.fileOf Parent.ofClass entry
    let batched := (Outcome.ofStage (pairEnd true)).files.readBytes file
    let extracted := ((pairWorld true).extract (pairConfig.optionsFor entry)).files.readBytes file
    extracted.toOption.isSome ∧
      batched.toOption.map (fun content => content.data.toList[18]?) ≠
        extracted.toOption.map (fun content => content.data.toList[18]?) := by
  decide +kernel

/-- If the file of a class is a link to the file of an earlier class, the batch run leaves the
schema of the later class in both. -/
theorem batch_overwrites :
    BatchConfig.load (pairWorld true).files ⟨"batch.toml"⟩ = .ok pairConfig ∧
      (pairWorld true).start pairConfig.compiler pairConfig.includes pairConfig.args
        pairConfig.isRecursive = .ok (pairStart true) ∧
      ((pairWorld true).site (pairStart true).survey.settings).Separable pairConfig.classes
        Parent.ofClass ∧
      (∀ entry ∈ pairConfig.classes,
        visitKey ((pairWorld true).batch ⟨"batch.toml"⟩).files entry.header =
          visitKey (pairWorld true).files entry.header) ∧
      Survey.SameKeys (pairWorld true).frontend (pairWorld true).files
        ((pairWorld true).batch ⟨"batch.toml"⟩).files ∧
      ((pairWorld true).batch ⟨"batch.toml"⟩).failure = none ∧
      ∃ entry ∈ pairConfig.classes, ∃ content,
        ((pairWorld true).extract (pairConfig.optionsFor entry)).files.readBytes
            (pairConfig.fileOf Parent.ofClass entry) = .ok content ∧
          ((pairWorld true).batch ⟨"batch.toml"⟩).files.readBytes
            (pairConfig.fileOf Parent.ofClass entry) ≠ .ok content := by
  obtain ⟨hok, hheaders, hkeys⟩ := pair_run true
  obtain ⟨hread, hbytes⟩ := pair_contents
  rw [← pair_batch] at hok hheaders hkeys hbytes
  refine ⟨pair_load true, pair_start true, pair_separable true rfl, hheaders,
    keyedFrontend_sameKeys hkeys, Option.isNone_iff_eq_none.1 hok, ⟨⟨"a.h"⟩, "a", "S"⟩,
    by decide, ?_⟩
  cases hcontent : ((pairWorld true).extract
      (pairConfig.optionsFor ⟨⟨"a.h"⟩, "a", "S"⟩)).files.readBytes
        (pairConfig.fileOf Parent.ofClass ⟨⟨"a.h"⟩, "a", "S"⟩) with
  | error cause =>
      rw [hcontent] at hread
      simp [Except.toOption] at hread
  | ok content =>
      refine ⟨content, rfl, ?_⟩
      intro hsame
      rw [hsame, hcontent] at hbytes
      exact hbytes rfl

end Examples

end World

end Runs

end HeaderBindings
