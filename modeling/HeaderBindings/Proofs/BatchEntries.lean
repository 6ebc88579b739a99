import HeaderBindings.Proofs.ExtractCommand
import HeaderBindings.Proofs.ListedClasses

/-!
# What becomes of the entries of a batch file

A batch run writes a file for every entry of its batch file and prints the path.  Files
are named after classes, and a class that has a record is not extracted again.  So
entries of one name share one file: it has the namespace of the entry that was written
last, and without recursion the methods come from the first header that lists the name.

**Method.**  `Filed` is what holds after some headers were extracted and some classes
were written.  Extracting the classes of one header keeps it, and so does writing one
class; a run does the one and the other in turn.

**Results.**
* `FileTree.Holds.write`: a file holds the class that was written last to it.
* `Outcome.Leaves.spaces_iff`: when all entries keep their namespaces.
* `World.batch_keeps_last_written`: what the files of a batch run hold in the end.
* `World.batch_mixes_namesakes`: two classes of one name, neither of which is kept.
-/

namespace HeaderBindings

section Files

namespace FileTree

variable {tree old new written : FileTree} {path other : Path} {location : Location}

/-- The location that a path leads to. -/
def locate? (tree : FileTree) (path : Path) : Option Location :=
  match tree.place .look path with
  | .ok (.taken location _) => some location
  | _ => none

theorem locate?_of_place {entry : Entry}
    (hplace : tree.place .look path = .ok (.taken location entry)) :
    tree.locate? path = some location := by
  simp [locate?, hplace]

/-- A file that is there holds the new content after a write if it was written to, and its old
content otherwise. -/
theorem place_write {content kept : ByteArray} (hwrite : tree.write path content = .ok written)
    (hother : tree.place .look other = .ok (.taken location (.file kept))) :
    written.place .look other = .ok (.taken location
      (.file (if written.locate? path = some location then content else kept))) := by
  obtain ⟨target, hne, rfl, hgrows, hplace⟩ := write_spec hwrite
  have hentry := (place_eq_ok_iff.1 hother).2.entryAt?_of_file.1
  rw [locate?_of_place hplace]
  by_cases htarget : target = location
  · subst htarget
    obtain ⟨after, hafter, changed, rfl⟩ := hgrows.place .look (by simp) (by simp) hother
    have hfile := (place_eq_ok_iff.1 hafter).2.entryAt?_of_file.1
    rw [entryAt?_put_self tree _ hne] at hfile
    obtain rfl := Entry.file.inj (Option.some.inj hfile)
    simpa using hafter
  · rw [if_neg (by simpa using htarget)]
    refine hgrows.place_file hother ?_
    rw [entryAt?_put_of_ne tree _ (Ne.symm htarget)]
    exact hentry

end FileTree

/-- A class of a batch file as it was written to a file. -/
structure WrittenClass where
  entry : ClassEntry
  path : Path
  interface : ClassInterface

namespace WrittenClass

variable {files after : FileTree} {location : Location} {written : List WrittenClass}
  {one last : WrittenClass}

/-- The class that was written last to a location. -/
def lastAt? (files : FileTree) (location : Location) (written : List WrittenClass) :
    Option WrittenClass :=
  (written.filter fun one => files.locate? one.path = some location).getLast?

theorem lastAt?_concat (files : FileTree) (location : Location) (written : List WrittenClass)
    (one : WrittenClass) :
    lastAt? files location (written ++ [one]) =
      if files.locate? one.path = some location then some one
      else lastAt? files location written := by
  unfold lastAt?
  split
  · next hone => simp [List.filter_append, hone]
  · next hone => simp [List.filter_append, hone]

theorem lastAt?_congr
    (hsame : ∀ one ∈ written, after.locate? one.path = files.locate? one.path) :
    lastAt? after location written = lastAt? files location written := by
  unfold lastAt?
  rw [List.filter_congr fun one hone => by rw [hsame one hone]]

theorem spec_of_lastAt? (hlast : lastAt? files location written = some last) :
    last ∈ written ∧ files.locate? last.path = some location := by
  have hmem := List.mem_of_getLast? hlast
  rw [List.mem_filter] at hmem
  exact ⟨hmem.1, of_decide_eq_true hmem.2⟩

end WrittenClass

open WrittenClass in
/-- Whether every file holds the class that was written last to it. -/
def FileTree.Holds (files : FileTree) (written : List WrittenClass) : Prop :=
  ∀ one ∈ written, ∃ location last, lastAt? files location written = some last ∧
    files.place .look one.path = .ok (.taken location (.file last.interface.schemaText.toUTF8))

namespace FileTree.Holds

open WrittenClass

variable {files prepared after : FileTree} {written : List WrittenClass}

/-- One more class is written: its file holds it, and so do all paths that lead there. -/
theorem write (hholds : files.Holds written) (one : WrittenClass)
    (hprepare : Writing.prepare files one.path = (prepared, .ok ()))
    (hwrite : prepared.write one.path one.interface.schemaText.toUTF8 = .ok after) :
    after.Holds (written ++ [one]) := by
  have hextends := extends_prepare files one.path
  rw [hprepare] at hextends
  have hkept : ∀ other ∈ written, ∃ location last,
      lastAt? files location written = some last ∧
      files.locate? other.path = some location ∧
      after.place .look other.path = .ok (.taken location (.file
        (if after.locate? one.path = some location then one.interface.schemaText.toUTF8
          else last.interface.schemaText.toUTF8))) := by
    intro other hother
    obtain ⟨location, last, hlast, hplace⟩ := hholds other hother
    exact ⟨location, last, hlast, locate?_of_place hplace,
      place_write hwrite (hextends.place_file hplace)⟩
  have hsame : ∀ other ∈ written, after.locate? other.path = files.locate? other.path := by
    intro other hother
    obtain ⟨location, _, _, hlocate, hplace⟩ := hkept other hother
    rw [hlocate, locate?_of_place hplace]
  intro other hother
  rcases List.mem_append.1 hother with hold | hnew
  · obtain ⟨location, last, hlast, _, hplace⟩ := hkept other hold
    by_cases hone : after.locate? one.path = some location
    · refine ⟨location, one, ?_, ?_⟩
      · rw [lastAt?_concat, if_pos hone]
      · rw [hplace, if_pos hone]
    · refine ⟨location, last, ?_, ?_⟩
      · rw [lastAt?_concat, if_neg hone, lastAt?_congr hsame, hlast]
      · rw [hplace, if_neg hone]
  · obtain rfl := List.mem_singleton.1 hnew
    obtain ⟨location, _, _, _, hplace⟩ := write_spec hwrite
    refine ⟨location, other, ?_, hplace⟩
    rw [lastAt?_concat, if_pos (locate?_of_place hplace)]

/-- A file is read as the class that was written last to it. -/
theorem read (hholds : files.Holds written) {one : WrittenClass} (hone : one ∈ written) :
    ∃ location last, files.locate? one.path = some location ∧
      lastAt? files location written = some last ∧
      SchemaFile.read files one.path = .ok last.interface := by
  obtain ⟨location, last, hlast, hplace⟩ := hholds one hone
  refine ⟨location, last, locate?_of_place hplace, hlast, SchemaFile.read_of_readBytes ?_⟩
  simp [readBytes, hplace]

end FileTree.Holds

end Files

section Lines

namespace Progress

theorem lines_extract (progress : Progress) (frontend : Frontend) (header : Path)
    (selections : List Selection) (context : String) :
    (progress.extract frontend header selections context).1.lines = progress.lines := by
  unfold extract
  simp only
  split <;> rfl

/-- Writing a class prints the path of its file. -/
theorem lines_writeClass {progress after : Progress} {header path : Path} {selection : Selection}
    {space : String} {output : Option Path} {outputDir : Path}
    (hok : progress.writeClass header selection space output outputDir = (after, .ok ()))
    (hpath : (progress.survey.writeClass progress.files header selection space output
      outputDir).outcome = .ok path) :
    after.lines = progress.lines ++ [path.text] := by
  unfold writeClass at hok
  simp only [hpath] at hok
  obtain ⟨rfl, _⟩ := Prod.mk.inj hok
  rfl

end Progress

end Lines

section Runs

/-- What was written for an entry at its time. -/
structure WrittenClass.IsOwn (one : WrittenClass) (outputDir : Path) : Prop where
  space : one.interface.space = one.entry.space
  nativeName : one.interface.classType.nativeName = one.entry.name
  path : one.path = Writing.pathOf one.interface.classType.targetName none outputDir

/-- Whether a batch file asks for a run without recursion, over headers in which the qualified
name of a class determines its name. -/
def BatchConfig.IsPlain (config : BatchConfig) (frontend : Frontend) : Prop :=
  config.isRecursive = false ∧ NamesAgree (config.unitDecls frontend)

/-- How far a batch run has come: the classes of some groups are extracted, and some classes are
written. -/
structure Filed (frontend : Frontend) (config : BatchConfig) (done : List HeaderGroup)
    (written : List WrittenClass) (progress : Progress) : Prop where
  isRecursive : progress.survey.settings.isRecursive = config.isRecursive
  wellFormed : progress.survey.registry.WellFormed
  lines : progress.lines = written.map fun one => one.path.text
  own : ∀ one ∈ written, one.IsOwn config.outputDir
  named : ∀ one ∈ written, progress.survey.registry.targetOf? one.entry.name =
    some one.interface.classType.targetName
  holds : progress.files.Holds written
  sourced : config.IsPlain frontend →
    Sourced frontend (config.unitDecls frontend) done progress.survey.registry
  built : config.IsPlain frontend →
    ∀ one ∈ written, one.interface.classType.IsListedFirst frontend done

namespace Filed

variable {frontend : Frontend} {config : BatchConfig} {done : List HeaderGroup}
  {written : List WrittenClass} {progress after : Progress}

/-- The classes of one more header are extracted. -/
theorem extract (hfiled : Filed frontend config done written progress) {group : HeaderGroup}
    (hgroup : group ∈ config.groups) {context : String}
    (hok : progress.extract frontend group.header (group.classes.map Progress.selectionOf)
      context = (after, .ok ()))
    (hall : ∀ entry ∈ group.classes, after.survey.registry.isExtracted entry.name = true) :
    Filed frontend config (done ++ [group]) written after := by
  let call : ExtractCall :=
    ⟨progress.files, frontend, group.header, group.classes.map Progress.selectionOf⟩
  obtain ⟨houtcome, hsurvey, hfiles⟩ := Progress.extract_ok hok
  have hlines := Progress.lines_extract progress frontend group.header
    (group.classes.map Progress.selectionOf) context
  have hevolves : progress.survey.registry.Evolves after.survey.registry := by
    rw [hsurvey]
    exact call.evolves progress.survey
  have hsettings : after.survey.settings = progress.survey.settings := by
    rw [hsurvey]
    exact (call.step_walk progress.survey).2.2.2
  rw [hok] at hlines
  refine ⟨?_, hevolves.wellFormed hfiled.wellFormed, hlines.trans hfiled.lines, hfiled.own,
    fun one hone => hevolves.targetOf? (hfiled.named one hone), ?_, ?_, ?_⟩
  · rw [hsettings]
    exact hfiled.isRecursive
  · rw [hfiles]
    exact hfiled.holds
  · intro hplain
    obtain ⟨unit, reached, hparse, hregistry, hextract⟩ :=
      Survey.extract_of_plain (hfiled.isRecursive.trans hplain.1) houtcome
    rw [hsurvey, hextract] at hall ⊢
    have hsourced := hfiled.sourced hplain
    rw [← hregistry] at hsourced
    exact hsourced.extractAll hplain.2 hparse
      (fun decl hdecl => BatchConfig.mem_unitDecls hgroup hparse hdecl) hall
  · exact fun hplain one hone => (hfiled.built hplain one hone).append [group]

/-- One more class is written. -/
theorem writeClass (hfiled : Filed frontend config done written progress) {entry : ClassEntry}
    {header : Path}
    (hok : progress.writeClass header (Progress.selectionOf entry) entry.space none
      config.outputDir = (after, .ok ())) :
    ∃ one : WrittenClass, one.entry = entry ∧
      Filed frontend config done (written ++ [one]) after := by
  obtain ⟨⟨path, hpath⟩, hsurvey, hfiles⟩ := Progress.writeClass_ok hok
  have hlines := Progress.lines_writeClass hok hpath
  obtain ⟨labelled, interface, prepared, changed, hlabel, hfile, hprepare, hwrite, hlabelled,
    hchanged⟩ := Survey.writeClass_ok hpath
  rw [hlabelled] at hsurvey
  rw [hchanged] at hfiles
  have hevolves : progress.survey.registry.Evolves after.survey.registry := by
    rw [hsurvey]
    exact progress.survey.evolves_labelClass? hlabel
  obtain ⟨_, record, _, hname, hinterface, _, _, hsettings, hwf, _⟩ :=
    Survey.labelClass?_spec hfiled.wellFormed hlabel
  let one : WrittenClass := ⟨entry, path, interface⟩
  have hown : one.IsOwn config.outputDir := by
    refine ⟨congrArg ClassInterface.space hinterface, ?_, hfile⟩
    exact (congrArg (fun found => found.classType.nativeName) hinterface).trans hname
  have hmem : ∀ {other}, other ∈ written ++ [one] → other ∈ written ∨ other = one := by
    intro other hother
    simpa using hother
  refine ⟨one, rfl, ?_, ?_, ?_, ?_, ?_, ?_, ?_, ?_⟩
  · rw [hsurvey, hsettings]
    exact hfiled.isRecursive
  · exact hsurvey ▸ hwf
  · rw [hlines, hfiled.lines]
    simp [one]
  · intro other hother
    rcases hmem hother with hold | rfl
    · exact hfiled.own other hold
    · exact hown
  · intro other hother
    rcases hmem hother with hold | rfl
    · exact hevolves.targetOf? (hfiled.named other hold)
    · exact hevolves.targetOf? (Survey.targetOf?_of_labelClass? hlabel)
  · rw [hfiles]
    exact hfiled.holds.write one hprepare hwrite
  · intro hplain
    rw [hsurvey]
    exact ((hfiled.sourced hplain).label hlabel).1
  · intro hplain other hother
    rcases hmem hother with hold | rfl
    · exact hfiled.built hplain other hold
    · exact ((hfiled.sourced hplain).label hlabel).2

/-- All classes of a header are written one after the other. -/
theorem writeClasses (hfiled : Filed frontend config done written progress)
    {entries : List ClassEntry} {header : Path}
    (hok : Progress.writeClasses header config.outputDir entries progress = (after, .ok ())) :
    ∃ more : List WrittenClass, more.map WrittenClass.entry = entries ∧
      Filed frontend config done (written ++ more) after := by
  induction entries generalizing progress written with
  | nil =>
      obtain ⟨rfl, _⟩ := Prod.mk.inj hok
      exact ⟨[], rfl, by simpa using hfiled⟩
  | cons entry entries ih =>
      obtain ⟨reached, hfirst, hrest⟩ := Stage.andThen_eq_ok_iff.1 hok
      obtain ⟨one, rfl, hone⟩ := hfiled.writeClass hfirst
      obtain ⟨more, rfl, hmore⟩ := ih hone hrest
      exact ⟨one :: more, rfl, by simpa using hmore⟩

/-- The classes of all headers are extracted and written, one header after the other. -/
theorem extractGroups (hfiled : Filed frontend config done written progress)
    {groups : List HeaderGroup} (hgroups : ∀ group ∈ groups, group ∈ config.groups)
    (hok : Progress.extractGroups frontend config.outputDir groups progress =
      (after, .ok ())) :
    ∃ more : List WrittenClass,
      more.map WrittenClass.entry = HeaderGroup.classesIn groups ∧
        Filed frontend config (done ++ groups) (written ++ more) after := by
  induction groups generalizing progress done written with
  | nil =>
      obtain ⟨rfl, _⟩ := Prod.mk.inj hok
      exact ⟨[], rfl, by simpa using hfiled⟩
  | cons group groups ih =>
      obtain ⟨reached, hfirst, hrest⟩ := Stage.andThen_eq_ok_iff.1 hok
      obtain ⟨extracted, hextract, hwrite⟩ := Stage.andThen_eq_ok_iff.1 hfirst
      have hwf : extracted.survey.registry.WellFormed := by
        rw [(Progress.extract_ok hextract).2.1]
        exact Survey.extract_wellFormed hfiled.wellFormed _ _ _ _
      have hall := Progress.isExtracted_of_writeClasses hwf hwrite
      obtain ⟨some, hsome, hwritten⟩ :=
        (hfiled.extract (hgroups group List.mem_cons_self) hextract hall).writeClasses hwrite
      obtain ⟨more, hmore, hend⟩ :=
        ih hwritten (fun other hother => hgroups other (List.mem_cons_of_mem _ hother)) hrest
      refine ⟨some ++ more, ?_, by simpa using hend⟩
      rw [List.map_append, hsome, hmore]
      rfl

/-- Entries of one name have one path. -/
theorem path_eq (hfiled : Filed frontend config done written progress) {one other : WrittenClass}
    (hone : one ∈ written) (hother : other ∈ written)
    (hname : one.entry.name = other.entry.name) : one.path = other.path := by
  have htarget := hfiled.named one hone
  rw [hname, hfiled.named other hother] at htarget
  rw [(hfiled.own one hone).path, (hfiled.own other hother).path, Option.some.inj htarget]

end Filed

/-- What a batch run that succeeded has written, printed and left in its files. -/
structure Outcome.Leaves (outcome : Outcome) (frontend : Frontend) (config : BatchConfig)
    (written : List WrittenClass) : Prop where
  /-- One class is written for each entry, header after header. -/
  entries : written.map WrittenClass.entry = HeaderGroup.classesIn config.groups
  /-- The paths of the files are printed in this order. -/
  output : outcome.output = String.join (written.map fun one => one.path.text ++ "\n")
  /-- Each class had the name and the namespace of its entry when it was written. -/
  own : ∀ one ∈ written, one.IsOwn config.outputDir
  /-- Entries of one name have one path. -/
  shared : ∀ one ∈ written, ∀ other ∈ written,
    one.entry.name = other.entry.name → one.path = other.path
  /-- Every file holds the class that was written last to it. -/
  read : ∀ one ∈ written, ∃ location last, outcome.files.locate? one.path = some location ∧
    WrittenClass.lastAt? outcome.files location written = some last ∧
    SchemaFile.read outcome.files one.path = .ok last.interface
  /-- Without recursion a class is built from the unit of the first header that lists its
  name. -/
  built : config.IsPlain frontend →
    ∀ one ∈ written, one.interface.classType.IsListedFirst frontend config.groups

namespace Outcome.Leaves

variable {outcome : Outcome} {frontend : Frontend} {config : BatchConfig}
  {written : List WrittenClass}

/-- All files have the namespaces of their entries exactly when entries whose paths lead to one
file agree on the namespace. -/
theorem spaces_iff (hleaves : outcome.Leaves frontend config written) :
    (∀ one ∈ written, ∃ interface, SchemaFile.read outcome.files one.path = .ok interface ∧
        interface.space = one.entry.space) ↔
      ∀ one ∈ written, ∀ other ∈ written,
        outcome.files.locate? one.path = outcome.files.locate? other.path →
          one.entry.space = other.entry.space := by
  constructor
  · intro hall one hone other hother hsame
    obtain ⟨interface, hinterface, hspace⟩ := hall one hone
    obtain ⟨interface', hinterface', hspace'⟩ := hall other hother
    obtain ⟨location, last, hlocate, hlast, hread⟩ := hleaves.read one hone
    obtain ⟨location', last', hlocate', hlast', hread'⟩ := hleaves.read other hother
    -- Both paths lead to the file that one class was written to last.
    rw [hlocate, hlocate'] at hsame
    obtain rfl := Option.some.inj hsame
    rw [hlast] at hlast'
    obtain rfl := Option.some.inj hlast'
    rw [hread] at hinterface
    rw [hread'] at hinterface'
    rw [← hspace, ← hspace', ← Except.ok.inj hinterface, ← Except.ok.inj hinterface']
  · intro hagree one hone
    obtain ⟨location, last, hlocate, hlast, hread⟩ := hleaves.read one hone
    obtain ⟨hmem, hlocate'⟩ := WrittenClass.spec_of_lastAt? hlast
    refine ⟨last.interface, hread, ?_⟩
    rw [(hleaves.own last hmem).space]
    exact hagree last hmem one hone (hlocate'.trans hlocate.symm)

/-- The file of the class that was written last of all holds it. -/
theorem read_last {one : WrittenClass}
    (hleaves : outcome.Leaves frontend config (written ++ [one])) :
    SchemaFile.read outcome.files one.path = .ok one.interface := by
  obtain ⟨location, last, hlocate, hlast, hread⟩ := hleaves.read one (by simp)
  rw [WrittenClass.lastAt?_concat, if_pos hlocate] at hlast
  rw [hread, Option.some.inj hlast]

end Outcome.Leaves

theorem Selection.name_of_methodFor? {selection : Selection} {target qualified : String}
    {decl : Decl} {method : Method}
    (hmethod : selection.methodFor? target qualified decl = some method) :
    decl.name = method.nativeName := by
  unfold Selection.methodFor? at hmethod
  split at hmethod
  · split at hmethod
    · obtain rfl := Option.some.inj hmethod
      rfl
    · simp at hmethod
  · simp at hmethod

namespace ClassType.IsBuiltFrom

variable {classType : ClassType} {decls : List Decl}

theorem methods_ne_nil (hbuilt : classType.IsBuiltFrom decls) : classType.methods ≠ [] := by
  obtain ⟨parent, hfirst, hmethods⟩ := hbuilt
  rw [hmethods]
  exact Selection.methodsFor_ne_nil hfirst

/-- Methods have the names of declarations. -/
theorem name_mem (hbuilt : classType.IsBuiltFrom decls) {method : Method}
    (hmethod : method ∈ classType.methods) : method.nativeName ∈ decls.map Decl.name := by
  obtain ⟨parent, hfirst, hmethods⟩ := hbuilt
  rw [hmethods, Selection.methodsFor, List.mem_filterMap] at hmethod
  obtain ⟨decl, hdecl, hfor⟩ := hmethod
  rw [← Selection.name_of_methodFor? hfor]
  exact List.mem_map_of_mem hdecl

end ClassType.IsBuiltFrom

namespace World

variable {world : World} {path : Path} {config : BatchConfig}

/-- Whether an entry has a file of its own: the file has the namespace of the entry and, without
recursion, the methods of the class in the unit of its header. -/
def Keeps (world : World) (config : BatchConfig) (files : FileTree) (entry : ClassEntry)
    (file : Path) : Prop :=
  ∃ interface, SchemaFile.read files file = .ok interface ∧ interface.space = entry.space ∧
    (config.isRecursive = false →
      ∃ unit, world.frontend.parse entry.header = .ok unit ∧
        interface.classType.nativeName = entry.name ∧
          interface.classType.IsBuiltFrom unit.decls)

/-- An entry keeps its file if all entries that share the file have its name and its namespace and
its header is the first that lists the name. -/
theorem keeps_of_leaves {outcome : Outcome} {written : List WrittenClass}
    (hleaves : outcome.Leaves world.frontend config written)
    (hnames : config.isRecursive = false → NamesAgree (config.unitDecls world.frontend))
    {one : WrittenClass} (hone : one ∈ written)
    (halike : ∀ other ∈ written,
      outcome.files.locate? other.path = outcome.files.locate? one.path →
        other.entry.name = one.entry.name ∧ other.entry.space = one.entry.space)
    (hfirst : ∀ group ∈ HeaderGroup.lister? config.groups one.entry.name,
      world.frontend.parse group.header = world.frontend.parse one.entry.header) :
    world.Keeps config outcome.files one.entry one.path := by
  obtain ⟨location, last, hlocate, hlast, hread⟩ := hleaves.read one hone
  obtain ⟨hmem, hlocate'⟩ := WrittenClass.spec_of_lastAt? hlast
  obtain ⟨hname, hspace⟩ := halike last hmem (hlocate'.trans hlocate.symm)
  have hown := hleaves.own last hmem
  refine ⟨last.interface, hread, hown.space.trans hspace, fun hplain => ?_⟩
  obtain ⟨group, unit, hgroup, hparse, hbuilt⟩ := hleaves.built ⟨hplain, hnames hplain⟩ last hmem
  rw [hown.nativeName, hname] at hgroup
  refine ⟨unit, ?_, hown.nativeName.trans hname, hbuilt⟩
  rw [← hfirst group hgroup]
  exact hparse

/-- A batch run that succeeds leaves the classes that it has written. -/
theorem exists_leaves (hload : BatchConfig.load world.files path = .ok config)
    (hok : (world.batch path).failure = none) :
    ∃ written, (world.batch path).Leaves world.frontend config written := by
  cases hstart : world.start config.compiler config.includes config.args config.isRecursive with
  | error reasons => simp [batch, hload, hstart, Outcome.refused] at hok
  | ok start =>
      obtain ⟨hfiles, hsurvey, hlines, hrecursive⟩ := start_spec hstart
      rw [batch_eq hload hstart] at hok ⊢
      obtain ⟨hstage, htree⟩ := Outcome.ok_of_ofStage hok
      have hempty : Filed world.frontend config [] [] start := by
        refine ⟨hrecursive, ?_, hlines, by simp, by simp, by simp [FileTree.Holds], ?_, by simp⟩
        · rw [hsurvey]
          exact Registry.wellFormed_empty
        · intro _
          rw [hsurvey]
          exact Sourced.start _ _
      obtain ⟨written, hwritten, hend⟩ := hempty.extractGroups (fun _ hgroup => hgroup) hstage
      refine ⟨written, hwritten, ?_, hend.own,
        fun one hone other hother => hend.path_eq hone hother, ?_, hend.built⟩
      · rw [hstage]
        simp only [Outcome.ofStage, hend.lines, List.nil_append, List.map_map]
        rfl
      · rw [htree]
        exact fun one hone => hend.holds.read hone

/-- **A batch run keeps what was written last.**  A batch run that succeeds has written one class
for each entry, and every file holds the class that was written last to it.  Entries of one name
share a file, and without recursion they share the methods, which are those of the first header
that lists the name.  So all entries keep their namespaces if and only if those with one file
agree on the namespace.  An entry has a file of its own if those that share the file have its name
and its namespace and if no earlier header lists its name. -/
theorem batch_keeps_last_written (hload : BatchConfig.load world.files path = .ok config)
    (hok : (world.batch path).failure = none) :
    let outcome := world.batch path
    ∃ written : List WrittenClass,
      outcome.Leaves world.frontend config written ∧
      (written.map WrittenClass.entry).Perm config.classes ∧
      ((∀ one ∈ written, ∃ interface, SchemaFile.read outcome.files one.path = .ok interface ∧
          interface.space = one.entry.space) ↔
        ∀ one ∈ written, ∀ other ∈ written,
          outcome.files.locate? one.path = outcome.files.locate? other.path →
            one.entry.space = other.entry.space) ∧
      ((config.isRecursive = false → NamesAgree (config.unitDecls world.frontend)) →
        ∀ one ∈ written,
          (∀ other ∈ written,
            outcome.files.locate? other.path = outcome.files.locate? one.path →
              other.entry.name = one.entry.name ∧ other.entry.space = one.entry.space) →
          (∀ group ∈ HeaderGroup.lister? config.groups one.entry.name,
            world.frontend.parse group.header = world.frontend.parse one.entry.header) →
          world.Keeps config outcome.files one.entry one.path) := by
  intro outcome
  obtain ⟨written, hleaves⟩ := exists_leaves hload hok
  refine ⟨written, hleaves, ?_, hleaves.spaces_iff, ?_⟩
  · rw [hleaves.entries]
    exact HeaderGroup.perm_classesIn config.classes
  · intro hnames one hone halike hfirst
    exact keeps_of_leaves hleaves hnames hone halike hfirst

section Examples

/-- A public member of a class `n`. -/
def namesakeMember (kind : DeclKind) (name qualified : String) : Decl where
  kind := kind
  name := name
  access := some .isPublic
  lexicalParent := some { name := "n", type := { kind := .record, spelling := qualified } }

/-- Two headers that declare different classes of one name. -/
def namesakeUnits : List SourceUnit :=
  [{ path := ⟨"a.h"⟩, decls := [namesakeMember .constructor "n" "x::n"] },
    { path := ⟨"b.h"⟩, decls := [namesakeMember .method "f" "y::n"] }]

/-- A batch file for the two classes. -/
def namesakeText : String :=
  "recursive = false\noutput_dir = \"out\"\n" ++
    "class = [[\"a.h\", \"n\", \"S\"], [\"b.h\", \"n\", \"T\"]]\n"

/-- What the batch file says. -/
def namesakeConfig : BatchConfig where
  compiler := "clang"
  isRecursive := false
  includes := []
  args := []
  outputDir := ⟨"out"⟩
  classes := [⟨⟨"a.h"⟩, "n", "S"⟩, ⟨⟨"b.h"⟩, "n", "T"⟩]

/-- A world with the two headers and the batch file. -/
def namesakeWorld : World where
  files := { working := [], entries := [(["batch.toml"], .file namesakeText.toUTF8)] }
  toolchain := [{ name := "clang", report := .empty }]
  frontend := UnitStore.toFrontend ⟨namesakeUnits⟩

theorem namesake_load :
    BatchConfig.load namesakeWorld.files ⟨"batch.toml"⟩ = .ok namesakeConfig := by
  decide +kernel

theorem namesake_runs : (namesakeWorld.batch ⟨"batch.toml"⟩).failure = none :=
  Option.isNone_iff_eq_none.1 (by decide +kernel)

theorem namesake_isPlain : namesakeConfig.IsPlain namesakeWorld.frontend := by
  have hnames : ∀ decl ∈ namesakeConfig.unitDecls namesakeWorld.frontend,
      ∀ parent ∈ decl.lexicalParent, parent.name = "n" := by
    decide +kernel
  refine ⟨rfl, fun d hd e he p q hp hq _ => ?_⟩
  rw [hnames d hd p hp, hnames e he q hq]

theorem namesake_names {unit : SourceUnit} :
    (namesakeWorld.frontend.parse ⟨"a.h"⟩ = .ok unit → unit.decls.map Decl.name = ["n"]) ∧
      (namesakeWorld.frontend.parse ⟨"b.h"⟩ = .ok unit → unit.decls.map Decl.name = ["f"]) := by
  have hnames :
      (namesakeWorld.frontend.parse ⟨"a.h"⟩).toOption.map (fun unit => unit.decls.map Decl.name) =
          some ["n"] ∧
        (namesakeWorld.frontend.parse ⟨"b.h"⟩).toOption.map
            (fun unit => unit.decls.map Decl.name) =
          some ["f"] := by
    decide +kernel
  constructor
  · intro hparse
    rw [hparse] at hnames
    exact Option.some.inj hnames.1
  · intro hparse
    rw [hparse] at hnames
    exact Option.some.inj hnames.2

/-- Whatever is written under the name is built from the first header. -/
theorem namesake_built {written : List WrittenClass}
    (hleaves : (namesakeWorld.batch ⟨"batch.toml"⟩).Leaves namesakeWorld.frontend
      namesakeConfig written)
    {one : WrittenClass} (hone : one ∈ written) (hname : one.entry.name = "n") :
    ∃ unit, namesakeWorld.frontend.parse ⟨"a.h"⟩ = .ok unit ∧
      one.interface.classType.IsBuiltFrom unit.decls := by
  obtain ⟨group, unit, hgroup, hparse, hbuilt⟩ := hleaves.built namesake_isPlain one hone
  have hheader : (HeaderGroup.lister? namesakeConfig.groups "n").map HeaderGroup.header =
      some ⟨"a.h"⟩ := by
    decide +kernel
  rw [(hleaves.own one hone).nativeName, hname] at hgroup
  rw [hgroup] at hheader
  rw [Option.some.inj hheader] at hparse
  exact ⟨unit, hparse, hbuilt⟩

/-- The entries are written in their order. -/
theorem namesake_written {written : List WrittenClass}
    (hleaves : (namesakeWorld.batch ⟨"batch.toml"⟩).Leaves namesakeWorld.frontend
      namesakeConfig written) :
    ∃ one other : WrittenClass, written = [one, other] ∧
      one.entry = ⟨⟨"a.h"⟩, "n", "S"⟩ ∧ other.entry = ⟨⟨"b.h"⟩, "n", "T"⟩ := by
  have hentries : written.map WrittenClass.entry =
      [⟨⟨"a.h"⟩, "n", "S"⟩, ⟨⟨"b.h"⟩, "n", "T"⟩] := by
    rw [hleaves.entries]
    decide +kernel
  obtain ⟨one, rest, rfl, hone, hrest⟩ := List.map_eq_cons_iff.1 hentries
  obtain ⟨other, rest, rfl, hother, hrest⟩ := List.map_eq_cons_iff.1 hrest
  obtain rfl := List.map_eq_nil_iff.1 hrest
  exact ⟨one, other, rfl, hone, hother⟩

/-- The two entries share one file, which is not built from the second header. -/
theorem batch_keeps_last_written_namesakes :
    BatchConfig.load namesakeWorld.files ⟨"batch.toml"⟩ = .ok namesakeConfig ∧
      (namesakeWorld.batch ⟨"batch.toml"⟩).failure = none ∧
      namesakeConfig.IsPlain namesakeWorld.frontend ∧
      ∃ one other : WrittenClass,
        one.entry = ⟨⟨"a.h"⟩, "n", "S"⟩ ∧ other.entry = ⟨⟨"b.h"⟩, "n", "T"⟩ ∧
        (namesakeWorld.batch ⟨"batch.toml"⟩).Leaves namesakeWorld.frontend namesakeConfig
          [one, other] ∧
        one.path = other.path ∧
        ∃ unit, namesakeWorld.frontend.parse ⟨"a.h"⟩ = .ok unit ∧
          other.interface.classType.IsBuiltFrom unit.decls := by
  obtain ⟨written, hleaves, -⟩ := batch_keeps_last_written namesake_load namesake_runs
  obtain ⟨one, other, rfl, hone, hother⟩ := namesake_written hleaves
  refine ⟨namesake_load, namesake_runs, namesake_isPlain, one, other, hone, hother, hleaves, ?_, ?_⟩
  · exact hleaves.shared one (by simp) other (by simp) (by rw [hone, hother])
  · exact namesake_built hleaves (by simp) (by rw [hother])

/-- **Two classes of one name are mixed up.**  The headers declare different classes, and the run
succeeds.  It prints one path twice, and neither entry has a file of its own: the namespace is not
that of the first entry, and the methods are not those of the class in the second header. -/
theorem batch_mixes_namesakes :
    BatchConfig.load namesakeWorld.files ⟨"batch.toml"⟩ = .ok namesakeConfig ∧
      (namesakeWorld.batch ⟨"batch.toml"⟩).failure = none ∧
      ∃ file : Path,
        (namesakeWorld.batch ⟨"batch.toml"⟩).output =
          String.join [file.text ++ "\n", file.text ++ "\n"] ∧
        ∀ entry ∈ namesakeConfig.classes,
          ¬namesakeWorld.Keeps namesakeConfig (namesakeWorld.batch ⟨"batch.toml"⟩).files entry
            file := by
  obtain ⟨written, hleaves⟩ := exists_leaves namesake_load namesake_runs
  obtain ⟨one, other, rfl, hone, hother⟩ := namesake_written hleaves
  have hmember : other ∈ [one, other] := by simp
  have hpath := hleaves.shared one (by simp) other hmember (by rw [hone, hother])
  have hpair : (namesakeWorld.batch ⟨"batch.toml"⟩).Leaves namesakeWorld.frontend namesakeConfig
      ([one] ++ [other]) := hleaves
  have hlast := hpair.read_last
  refine ⟨namesake_load, namesake_runs, other.path, by simp [hleaves.output, hpath], ?_⟩
  rintro entry hentry ⟨interface, hread, hspace, hmethods⟩
  obtain rfl := Except.ok.inj (hlast.symm.trans hread)
  rw [(hleaves.own other hmember).space, hother] at hspace
  simp only [namesakeConfig, List.mem_cons, List.not_mem_nil, or_false] at hentry
  rcases hentry with rfl | rfl
  · exact absurd hspace (by decide)
  · -- The methods would be those of both units, which have no name in common.
    obtain ⟨second, hsecond, -, hown⟩ := hmethods rfl
    obtain ⟨first, hfirst, hbuilt⟩ := namesake_built hleaves hmember (by rw [hother])
    obtain ⟨method, hmethod⟩ := List.exists_mem_of_ne_nil _ hbuilt.methods_ne_nil
    have hfirstName := hbuilt.name_mem hmethod
    have hsecondName := hown.name_mem hmethod
    rw [namesake_names.1 hfirst, List.mem_singleton] at hfirstName
    rw [namesake_names.2 hsecond, hfirstName] at hsecondName
    simp at hsecondName

end Examples

end World

end Runs

end HeaderBindings
