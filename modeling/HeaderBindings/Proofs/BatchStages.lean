import HeaderBindings.Program.Run
import HeaderBindings.Proofs.HeaderGroups
import HeaderBindings.Proofs.SharedRuns

/-!
# The stages of a batch run

A batch run groups its classes by header, extracts each group, and writes one file
for each class.  What a stage does to the survey and to the files is said here once,
for stages that succeed and, as far as files only grow, for all stages.

**Results.**
* `HeaderGroup.groups_ofClasses`: the classes of a group have its header.
* `Progress.grows_extractGroups`: files only grow during a run.
* `World.extract_of_write`: what it takes to extract a class alone.
-/

namespace HeaderBindings

section Groups

namespace HeaderGroup

/-- Whether groups are made of classes of a list, each with the header of one of its classes. -/
def Groups (classes : List ClassEntry) (groups : List HeaderGroup) : Prop :=
  ∀ group ∈ groups, ∃ first ∈ classes, group.header = first.header ∧
    ∀ entry ∈ group.classes, entry ∈ classes ∧ first.header.same entry.header = true

theorem groups_ofClasses (classes : List ClassEntry) :
    Groups classes (ofClasses classes) := by
  have harranges := arranges_ofClasses classes
  intro group hgroup
  obtain ⟨first, hfirst, hheader⟩ := Option.map_eq_some_iff.1 (harranges.named group hgroup)
  have hmember {entry : ClassEntry} (hentry : entry ∈ group.classes) :
      entry ∈ classes ∧ group.header.same entry.header = true := by
    rwa [harranges.members group hgroup, List.mem_filter] at hentry
  refine ⟨first, (hmember (List.mem_of_head? hfirst)).1, hheader.symm, fun entry hentry => ?_⟩
  rw [hheader]
  exact hmember hentry

end HeaderGroup

end Groups

section Writing

variable {survey labelled : Survey} {files prepared written : FileTree} {header path : Path}
  {selection : Selection} {space : String} {output : Option Path} {outputDir : Path}
  {interface : ClassInterface}

/-- A class is written if it has a record and its file can be written. -/
theorem Survey.writeClass_of_ok
    (hlabel : survey.labelClass? selection.className space = some (labelled, interface))
    (hpath : path = Writing.pathOf interface.classType.targetName output outputDir)
    (hprepare : Writing.prepare files path = (prepared, .ok ()))
    (hwrite : prepared.write path interface.schemaText.toUTF8 = .ok written) :
    survey.writeClass files header selection space output outputDir =
      { survey := labelled
        files := written
        events := SchemaFile.writeEvents path interface
        outcome := .ok path } := by
  subst hpath
  simp only [Survey.writeClass, hlabel, hprepare, SchemaFile.write, hwrite]

/-- What it takes to write a class. -/
theorem Survey.writeClass_ok
    (hok : (survey.writeClass files header selection space output outputDir).outcome =
      .ok path) :
    ∃ labelled interface prepared written,
      survey.labelClass? selection.className space = some (labelled, interface) ∧
      path = Writing.pathOf interface.classType.targetName output outputDir ∧
      Writing.prepare files path = (prepared, .ok ()) ∧
      prepared.write path interface.schemaText.toUTF8 = .ok written ∧
      (survey.writeClass files header selection space output outputDir).survey = labelled ∧
      (survey.writeClass files header selection space output outputDir).files = written := by
  unfold Survey.writeClass at hok ⊢
  split at hok
  · simp at hok
  · next labelled interface hlabel =>
      simp only at hok
      split at hok
      · simp at hok
      · next prepared hprepare =>
          split at hok
          · simp at hok
          · next written hwrite =>
              obtain rfl := Except.ok.inj hok
              unfold SchemaFile.write at hwrite
              split at hwrite
              · next changed hchanged =>
                  obtain rfl := Except.ok.inj hwrite
                  refine ⟨labelled, interface, prepared, changed, hlabel, rfl, hprepare,
                    hchanged, ?_, ?_⟩ <;>
                  simp only [hprepare, SchemaFile.write, hchanged]
              · simp at hwrite

/-- Writing a class lets the tree grow, whether it succeeds or not. -/
theorem Survey.grows_writeClass (survey : Survey) (files : FileTree) (header : Path)
    (selection : Selection) (space : String) (output : Option Path) (outputDir : Path) :
    files.Grows (survey.writeClass files header selection space output outputDir).files := by
  unfold Survey.writeClass
  split
  · exact .refl files
  · next labelled interface _ =>
      simp only
      have hextends := extends_prepare files
        (Writing.pathOf interface.classType.targetName output outputDir)
      split
      · next prepared reasons hprepare =>
          rw [hprepare] at hextends
          exact hextends.grows
      · next prepared hprepare =>
          rw [hprepare] at hextends
          split
          · exact hextends.grows
          · next written hwrite =>
              unfold SchemaFile.write at hwrite
              split at hwrite
              · next changed hchanged =>
                  obtain rfl := Except.ok.inj hwrite
                  obtain ⟨_, _, _, hgrows, _⟩ := FileTree.write_spec hchanged
                  exact hextends.grows.trans hgrows
              · simp at hwrite

end Writing

section Stages

theorem Stage.andThen_eq_ok_iff {stage : Stage} {next : Progress → Stage} {after : Progress} :
    stage.andThen next = (after, .ok ()) ↔
      ∃ reached, stage = (reached, .ok ()) ∧ next reached = (after, .ok ()) := by
  obtain ⟨reached, outcome⟩ := stage
  cases outcome with
  | error reasons => simp [Stage.andThen]
  | ok done => simp [Stage.andThen]

theorem Stage.grows_andThen {stage : Stage} {next : Progress → Stage} {files : FileTree}
    (hstage : files.Grows stage.1.files)
    (hnext : ∀ reached : Progress, reached.files.Grows (next reached).1.files) :
    files.Grows (stage.andThen next).1.files := by
  obtain ⟨reached, outcome⟩ := stage
  cases outcome with
  | error reasons => exact hstage
  | ok done => exact hstage.trans (hnext reached)

theorem Outcome.ok_of_ofStage {stage : Stage} (hok : (Outcome.ofStage stage).failure = none) :
    stage = (stage.1, .ok ()) ∧ (Outcome.ofStage stage).files = stage.1.files := by
  obtain ⟨progress, outcome⟩ := stage
  cases outcome with
  | error reasons => simp [Outcome.ofStage] at hok
  | ok done => exact ⟨rfl, rfl⟩

namespace Progress

variable (progress : Progress) (frontend : Frontend) (header outputDir : Path)

theorem files_extract (selections : List Selection) (context : String) :
    (progress.extract frontend header selections context).1.files = progress.files := by
  unfold extract
  simp only
  split <;> rfl

theorem grows_writeClass (selection : Selection) (space : String) (output : Option Path) :
    progress.files.Grows
      (progress.writeClass header selection space output outputDir).1.files := by
  have hgrows := progress.survey.grows_writeClass progress.files header selection space output
    outputDir
  unfold writeClass
  simp only
  split <;> exact hgrows

theorem grows_writeClasses (entries : List ClassEntry) :
    progress.files.Grows (writeClasses header outputDir entries progress).1.files := by
  induction entries generalizing progress with
  | nil => exact .refl progress.files
  | cons entry entries ih =>
      exact Stage.grows_andThen
        (progress.grows_writeClass header outputDir (selectionOf entry) entry.space none) ih

theorem grows_extractGroups (groups : List HeaderGroup) :
    progress.files.Grows (extractGroups frontend outputDir groups progress).1.files := by
  induction groups generalizing progress with
  | nil => exact .refl progress.files
  | cons group groups ih =>
      refine Stage.grows_andThen (Stage.grows_andThen ?_ ?_) ih
      · rw [files_extract]
        exact .refl progress.files
      · exact fun reached => reached.grows_writeClasses group.header outputDir group.classes

variable {progress frontend header outputDir} {after : Progress}

theorem extract_ok {selections : List Selection} {context : String}
    (hok : progress.extract frontend header selections context = (after, .ok ())) :
    (progress.survey.extract progress.files frontend header selections).outcome = .ok () ∧
      after.survey =
        (progress.survey.extract progress.files frontend header selections).survey ∧
      after.files = progress.files := by
  unfold extract at hok
  simp only at hok
  split at hok
  · next hstep =>
      obtain ⟨rfl, _⟩ := Prod.mk.inj hok
      exact ⟨hstep, rfl, rfl⟩
  · simp at hok

theorem extract_of_ok {selections : List Selection} (context : String)
    (hok : (progress.survey.extract progress.files frontend header selections).outcome =
      .ok ()) :
    ∃ after, progress.extract frontend header selections context = (after, .ok ()) ∧
      after.survey =
        (progress.survey.extract progress.files frontend header selections).survey ∧
      after.files = progress.files ∧ after.lines = progress.lines := by
  unfold extract
  simp only [hok]
  exact ⟨_, rfl, rfl, rfl, rfl⟩

theorem writeClass_ok {selection : Selection} {space : String} {output : Option Path}
    (hok : progress.writeClass header selection space output outputDir = (after, .ok ())) :
    (∃ path, (progress.survey.writeClass progress.files header selection space output
        outputDir).outcome = .ok path) ∧
      after.survey = (progress.survey.writeClass progress.files header selection space output
        outputDir).survey ∧
      after.files = (progress.survey.writeClass progress.files header selection space output
        outputDir).files := by
  unfold writeClass at hok
  simp only at hok
  split at hok
  · next path hpath =>
      obtain ⟨rfl, _⟩ := Prod.mk.inj hok
      exact ⟨⟨path, hpath⟩, rfl, rfl⟩
  · simp at hok

/-- Classes that are all written have records to begin with. -/
theorem isExtracted_of_writeClasses {entries : List ClassEntry} {progress : Progress}
    (hwf : progress.survey.registry.WellFormed)
    (hok : writeClasses header outputDir entries progress = (after, .ok ())) :
    ∀ entry ∈ entries, progress.survey.registry.isExtracted entry.name = true := by
  induction entries generalizing progress with
  | nil => simp
  | cons first entries ih =>
      obtain ⟨reached, hfirst, hrest⟩ := Stage.andThen_eq_ok_iff.1 hok
      obtain ⟨⟨path, hpath⟩, hsurvey, _⟩ := writeClass_ok hfirst
      obtain ⟨labelled, interface, _, _, hlabel, _, _, _, hlabelled, _⟩ :=
        Survey.writeClass_ok hpath
      rw [hlabelled] at hsurvey
      obtain ⟨_, _, _, _, _, _, _, _, hwf', _⟩ := Survey.labelClass?_spec hwf hlabel
      intro entry hentry
      rcases List.mem_cons.1 hentry with rfl | hlater
      · exact Survey.exists_labelClass?_iff.1 ⟨labelled, interface, hlabel⟩
      · rw [← hsurvey] at hwf' hlabel
        exact (Survey.isExtracted_labelClass? hwf hlabel entry.name).1 (ih hwf' hrest entry hlater)

end Progress

end Stages

section Alone

/-- The options of the command that extracts one class of a batch file. -/
def BatchConfig.optionsFor (config : BatchConfig) (entry : ClassEntry) : ExtractOptions where
  header := entry.header
  className := entry.name
  space := entry.space
  access := .isPublic
  output := none
  outputDir := config.outputDir
  walk :=
    { compiler := config.compiler
      includes := config.includes
      args := config.args
      isRecursive := config.isRecursive }

/-- What the runs in a world with given settings depend on. -/
def World.site (world : World) (settings : Settings) : Site where
  files := world.files
  frontend := world.frontend
  settings := settings

theorem World.start_spec {world : World} {compiler : String} {includes : List Path}
    {args : List String} {isRecursive : Bool} {start : Progress}
    (hstart : world.start compiler includes args isRecursive = .ok start) :
    start.files = world.files ∧ start.survey = (world.site start.survey.settings).survey ∧
      start.lines = [] ∧ start.survey.settings.isRecursive = isRecursive := by
  unfold World.start at hstart
  split at hstart
  · simp at hstart
  · obtain rfl := Except.ok.inj hstart
    exact ⟨rfl, rfl, rfl, rfl⟩

variable {world : World} {config : BatchConfig} {start : Progress} {entry : ClassEntry}
  {classes : List ClassEntry} {parents : String → Parent}

/-- A class is extracted alone if its header can be walked, it has a record, and its file can be
written. -/
theorem World.extract_of_write
    (hstart : world.start config.compiler config.includes config.args config.isRecursive =
      .ok start)
    (hsep : (world.site start.survey.settings).Separable classes parents)
    {decls : List Decl}
    (hlook : ((world.site start.survey.settings).look entry.header).outcome = .ok decls)
    {own : Survey} {interface : ClassInterface}
    (hlabel : Survey.labelClass?
      ((world.site start.survey.settings).survey.extract world.files world.frontend
        entry.header [Progress.selectionOf entry]).survey entry.name entry.space =
          some (own, interface))
    {path : Path}
    (hpath : path = Writing.pathOf interface.classType.targetName none config.outputDir)
    {ready alone : FileTree}
    (hprepare : Writing.prepare world.files path = (ready, .ok ()))
    (hwrite : ready.write path interface.schemaText.toUTF8 = .ok alone) :
    (world.extract (config.optionsFor entry)).failure = none ∧
      (world.extract (config.optionsFor entry)).output = path.text ++ "\n" ∧
      (world.extract (config.optionsFor entry)).files = alone := by
  obtain ⟨hfiles, hsurvey, hlines, _⟩ := World.start_spec hstart
  have hok := (hsep.extract_alone hlook).1
  have hsame : start.survey.extract start.files world.frontend entry.header
      [Progress.selectionOf entry] =
      (world.site start.survey.settings).survey.extract world.files world.frontend
        entry.header [Progress.selectionOf entry] := by
    rw [hfiles, hsurvey]
    rfl
  rw [← hsame] at hlabel
  change (Survey.extract _ world.files world.frontend _ _).outcome = _ at hok
  rw [← hsame] at hok
  obtain ⟨reached, hreached, hsurvey', hfiles', hlines'⟩ := Progress.extract_of_ok
    ("extracting " ++ entry.name ++ " from " ++ entry.header.text) hok
  rw [hfiles] at hfiles'
  rw [hlines] at hlines'
  have hclass : reached.survey.writeClass reached.files entry.header
      (Progress.selectionOf entry) entry.space none config.outputDir =
      { survey := own
        files := alone
        events := SchemaFile.writeEvents path interface
        outcome := .ok path } := by
    rw [hsurvey', hfiles']
    exact Survey.writeClass_of_ok hlabel hpath hprepare hwrite
  have hrun : world.extract (config.optionsFor entry) =
      Outcome.ofStage
        (reached.writeClass entry.header (Progress.selectionOf entry) entry.space none
          config.outputDir) := by
    unfold World.extract
    simp only [BatchConfig.optionsFor, hstart]
    change Outcome.ofStage ((start.extract world.frontend entry.header
      [Progress.selectionOf entry] _).andThen _) = _
    rw [hreached]
    rfl
  rw [hrun, Progress.writeClass, hclass]
  refine ⟨rfl, ?_, rfl⟩
  simp [Outcome.ofStage, hlines', String.join]

end Alone

end HeaderBindings
