import HeaderBindings.Proofs.BatchAgreement
import HeaderBindings.Proofs.SchemaRoundTrip
import HeaderBindings.Proofs.SingleParse

/-!
# When a class can be extracted

The command that extracts one class fails exactly when there is nothing to extract:
provided that the compiler answers, all headers on the way can be parsed and the file
can be written, it succeeds if and only if some declaration that comes up is a member
of the class.

**Declarations.**  What comes up are the declarations of the headers that the frontend is
asked for: their own declarations in recursive mode, and otherwise all declarations of
the one header.  `Site.mem_look_iff_reaches` says which headers these are.

**Results.**
* `Site.exists_look`: a header can be looked up if everything asked for can be parsed.
* `Selection.isExtracted_alone_iff`: a class gets a record if and only if it has a member.
* `FileTree.addsDirectories_prepare`: preparing for a file makes directories only.
* `World.extract_succeeds_iff`: when the command succeeds, and what it leaves behind.
-/

namespace HeaderBindings

section Directories

namespace FileTree

/-- Whether nothing but directories was added to a tree. -/
def AddsDirectories (old new : FileTree) : Prop :=
  ∀ location, new.entryAt? location = old.entryAt? location ∨
    old.entryAt? location = none ∧ new.entryAt? location = some .directory

theorem AddsDirectories.refl (tree : FileTree) : AddsDirectories tree tree :=
  fun _ => Or.inl rfl

theorem AddsDirectories.trans {first second third : FileTree}
    (h : AddsDirectories first second) (h' : AddsDirectories second third) :
    AddsDirectories first third := by
  intro location
  rcases h' location with hsame | ⟨hnone, hnew⟩
  · rw [hsame]
    exact h location
  · rcases h location with hsame | ⟨_, hmade⟩
    · exact Or.inr ⟨hsame ▸ hnone, hnew⟩
    · simp [hnone] at hmade

theorem addsDirectories_make {tree made : FileTree} {path : Path}
    (hmake : tree.make path .directory = .ok made) : AddsDirectories tree made := by
  unfold make at hmake
  split at hmake
  · simp at hmake
  · simp at hmake
  · next parent name hplace =>
      obtain rfl := Except.ok.inj hmake
      intro location
      by_cases hlocation : location = parent ++ [name]
      · subst hlocation
        exact Or.inr ⟨(place_eq_ok_iff.1 hplace).2.entryAt?_of_free,
          entryAt?_put_self tree _ (by simp)⟩
      · exact Or.inl (entryAt?_put_of_ne tree _ hlocation)

theorem addsDirectories_ensureDirectory (tree : FileTree) (path : Path) :
    AddsDirectories tree (tree.ensureDirectory path).1 := by
  unfold ensureDirectory
  split
  · next made hmake => exact addsDirectories_make hmake
  · split <;> exact .refl tree

theorem addsDirectories_makeNested (tree : FileTree) (paths : List Path) :
    AddsDirectories tree (tree.makeNested paths).1 := by
  induction paths with
  | nil => exact .refl tree
  | cons path above ih =>
      have hensure := tree.addsDirectories_ensureDirectory path
      unfold makeNested
      split
      · split
        · next outer houter =>
            rw [houter] at ih
            exact ih.trans (outer.addsDirectories_ensureDirectory path)
        · exact ih
      · exact hensure

/-- Preparing for a file makes directories only. -/
theorem addsDirectories_prepare (files : FileTree) (path : Path) :
    AddsDirectories files (Writing.prepare files path).1 := by
  unfold Writing.prepare
  split
  · exact .refl files
  · next directory _ =>
      have hmade : AddsDirectories files (files.makeDirectories directory).1 :=
        files.addsDirectories_makeNested _
      split
      · next made hok =>
          rw [hok] at hmade
          exact hmade
      · next made cause hfails =>
          rw [hfails] at hmade
          exact hmade

/-- Whether a file can be written: its directory can be made, and its name is free there or that
of a file. -/
def Takes (files : FileTree) (path : Path) : Prop :=
  ∃ prepared place, Writing.prepare files path = (prepared, .ok ()) ∧
    prepared.place .write path = .ok place ∧ IsWritable place

/-- To try it shows whether a file can be written. -/
theorem takes_of_isOk {files : FileTree} {path : Path} {content : ByteArray}
    (hprepare : (Writing.prepare files path).2.isOk = true)
    (hwrite : ((Writing.prepare files path).1.write path content).isOk = true) :
    files.Takes path := by
  rcases hresult : Writing.prepare files path with ⟨prepared, outcome⟩
  rw [hresult] at hprepare hwrite
  cases outcome with
  | error reasons => simp [Except.isOk, Except.toBool] at hprepare
  | ok done =>
      cases hwritten : prepared.write path content with
      | error cause => simp [hwritten, Except.isOk, Except.toBool] at hwrite
      | ok written =>
          obtain ⟨place, hplace, hwritable⟩ := exists_write_iff.1 ⟨written, hwritten⟩
          exact ⟨prepared, place, hresult, hplace, hwritable⟩

/-- Whether two trees differ in one file, which a path leads to, and in new directories. -/
def WritesOnly (old new : FileTree) (path : Path) : Prop :=
  ∃ location content,
    new.place .look path = .ok (.taken location (.file content)) ∧
    (old.entryAt? location = none ∨ ∃ before, old.entryAt? location = some (.file before)) ∧
    ∀ other, other ≠ location →
      new.entryAt? other = old.entryAt? other ∨
        old.entryAt? other = none ∧ new.entryAt? other = some .directory

/-- Writing a file after its directory was prepared changes nothing else. -/
theorem writesOnly_write {files prepared written : FileTree} {path : Path} {content : ByteArray}
    (hprepare : Writing.prepare files path = (prepared, .ok ()))
    (hwrite : prepared.write path content = .ok written) : WritesOnly files written path := by
  have hmade := files.addsDirectories_prepare path
  rw [hprepare] at hmade
  obtain ⟨location, hne, rfl, hgrows, hplace⟩ := write_spec hwrite
  refine ⟨location, content, hplace, ?_, fun other hother => ?_⟩
  · -- What stood there before is alike to a file.
    cases hold : files.entryAt? location with
    | none => exact Or.inl rfl
    | some entry =>
        have hkept : prepared.entryAt? location = some entry := by
          rcases hmade location with hsame | ⟨hnone, _⟩
          · rw [hsame, hold]
          · simp [hnone] at hold
        obtain ⟨after, hafter, halike⟩ := hgrows.kept location entry hkept
        rw [entryAt?_put_self prepared _ hne] at hafter
        obtain rfl := Option.some.inj hafter
        cases entry with
        | file before => exact Or.inr ⟨before, rfl⟩
        | directory => simp [Entry.Alike] at halike
        | link target => simp [Entry.Alike] at halike
  · rw [entryAt?_put_of_ne prepared _ hother]
    exact hmade other

end FileTree

/-- A file that holds the schema of a class is read as that class. -/
theorem SchemaFile.read_of_readBytes {tree : FileTree} {path : Path}
    {interface : ClassInterface}
    (hbytes : tree.readBytes path = .ok interface.schemaText.toUTF8) :
    SchemaFile.read tree path = .ok interface := by
  have htext : tree.readText path = .ok interface.schemaText := by
    simp [FileTree.readText, hbytes, String.fromUTF8?, String.fromUTF8,
      interface.schemaText.isValidUTF8]
  simp [SchemaFile.read, htext, interface.ofSchemaText_schemaText]

/-- A schema that was written is read as its class. -/
theorem SchemaFile.read_of_write {tree written : FileTree} {path : Path}
    {interface : ClassInterface}
    (hwrite : tree.write path interface.schemaText.toUTF8 = .ok written) :
    SchemaFile.read written path = .ok interface :=
  SchemaFile.read_of_readBytes (FileTree.readBytes_write hwrite)

end Directories

section Looking

/-- A walk that fails asked for a header that can not be parsed. -/
theorem WalkSetting.exists_of_walk_error {setting : WalkSetting} {names : List Path}
    {hnames : ∀ name ∈ setting.frontend.names, name ∈ names} (visited : List Key)
    (stack : List OpenUnit) (hstack : Covers names stack) {failure : ParseFailure}
    (hfails : (setting.walk names hnames visited stack hstack).outcome = .error failure) :
    ∃ path ∈ (setting.walk names hnames visited stack hstack).requests,
      ∃ reason, setting.frontend.parse path = .error reason := by
  revert failure
  refine walk_induction (motive := fun _ _ result =>
    ∀ {failure : ParseFailure}, result.outcome = .error failure →
      ∃ path ∈ result.requests, ∃ reason, setting.frontend.parse path = .error reason)
    ?_ ?_ ?_ ?_ ?_ visited stack hstack
  · intro visited failure hfails
    simp at hfails
  · intro visited unit rest result ih failure hfails
    cases hresult : result.outcome with
    | error other => exact ih hresult
    | ok found => simp [hresult, Except.map] at hfails
  · intro visited unit path pending rest result _ ih failure hfails
    exact ih hfails
  · intro visited unit path pending rest reason _ hparse failure _
    exact ⟨path, List.mem_singleton.2 rfl, reason, hparse⟩
  · intro visited unit path pending rest included result _ _ ih failure hfails
    obtain ⟨asked, hasked, hreason⟩ := ih hfails
    exact ⟨asked, List.mem_cons_of_mem _ hasked, hreason⟩

/-- The declarations of a walk are the own ones of its root and of the headers asked for. -/
theorem WalkSetting.Account.mem_iff {setting : WalkSetting} {visited : List Key}
    {root : SourceUnit} {result : WalkResult} {decls : List Decl}
    {entered : List (Path × SourceUnit)}
    (account : setting.Account visited [OpenUnit.start root] result decls entered) (decl : Decl) :
    decl ∈ decls ↔ decl ∈ root.ownDecls ∨
      ∃ path ∈ result.requests, ∃ unit, setting.frontend.parse path = .ok unit ∧
        decl ∈ unit.ownDecls := by
  obtain ⟨order, hperm, rfl⟩ := account.decls_eq
  rw [List.mem_flatMap, account.requests_eq]
  constructor
  · rintro ⟨unit, hunit, hown⟩
    rcases List.mem_append.1 (hperm.subset hunit) with hentered | hroot
    · obtain ⟨entry, hentry, rfl⟩ := List.mem_map.1 hentered
      exact Or.inr ⟨entry.1, List.mem_map_of_mem hentry, entry.2, account.parsed entry hentry,
        hown⟩
    · obtain rfl : unit = root := by simpa [OpenUnit.start] using hroot
      exact Or.inl hown
  · rintro (hown | ⟨path, hpath, unit, hunit, hown⟩)
    · exact ⟨root, hperm.symm.subset (by simp [OpenUnit.start]), hown⟩
    · obtain ⟨entry, hentry, rfl⟩ := List.mem_map.1 hpath
      obtain rfl := Except.ok.inj ((account.parsed entry hentry).symm.trans hunit)
      exact ⟨entry.2, hperm.symm.subset (List.mem_append_left _ (List.mem_map_of_mem hentry)),
        hown⟩

namespace Site

variable (site : Site)

/-- The declarations of a unit that come up when it is walked. -/
def declsFrom (unit : SourceUnit) : List Decl :=
  if site.settings.isRecursive then unit.ownDecls else unit.decls

/-- Whether a declaration comes up when a header is looked up: it is one of a header that the
frontend is asked for. -/
def BringsUp (header : Path) (decl : Decl) : Prop :=
  ∃ path ∈ (site.look header).requests, ∃ unit, site.frontend.parse path = .ok unit ∧
    decl ∈ site.declsFrom unit

variable {site} {header : Path} {root : SourceUnit}

theorem look_of_missing {reason : String} (hparse : site.frontend.parse header = .error reason) :
    site.look header =
      { survey := site.survey, requests := [header], outcome := .error ⟨header, reason⟩ } := by
  cases hrecursive : site.settings.isRecursive <;>
    simp [look, survey, Survey.declsOf, Survey.parseAndWalk, Survey.isVisited, hparse, hrecursive,
      Except.map]

theorem look_of_plain (hrecursive : site.settings.isRecursive = false)
    (hparse : site.frontend.parse header = .ok root) :
    (site.look header).requests = [header] ∧ (site.look header).outcome = .ok root.decls := by
  simp [look, survey, Survey.declsOf, Survey.parseAndWalk, Survey.walk, hparse, hrecursive]

theorem look_of_recursive (hrecursive : site.settings.isRecursive = true)
    (hparse : site.frontend.parse header = .ok root) :
    let result := site.setting.walkUnit ([] ++ [site.setting.key root.path]) root
    (site.look header).requests = header :: result.requests ∧
      (site.look header).outcome = result.outcome := by
  intro result
  have hnew : ∀ path, site.survey.isVisited site.files path = false := by
    intro path
    simp [survey, Survey.isVisited]
  have hrec : site.survey.settings.isRecursive = true := hrecursive
  have hwalk := Survey.walk_eq_of_new hrec (hnew root.path) site.frontend
  simp only [look, Survey.declsOf, hrec, hnew, Survey.parseAndWalk, hparse, if_true,
    Bool.false_eq_true, if_false, hwalk]
  refine ⟨rfl, ?_⟩
  change (Except.map _ result.outcome) = result.outcome
  cases hresult : result.outcome with
  | error failure => rfl
  | ok decls =>
      change Except.ok ([] ++ result.outcome.toOption.getD []) = _
      rw [hresult]
      rfl

/-- A header can be looked up if everything that is asked for can be parsed, and then exactly the
declarations of the headers asked for come up. -/
theorem exists_look (hparsed : ∀ path ∈ (site.look header).requests,
      ∃ unit, site.frontend.parse path = .ok unit) :
    ∃ decls, (site.look header).outcome = .ok decls ∧
      ∀ decl, decl ∈ decls ↔ site.BringsUp header decl := by
  cases hparse : site.frontend.parse header with
  | error reason =>
      obtain ⟨unit, hunit⟩ := hparsed header (by simp [look_of_missing hparse])
      simp [hparse] at hunit
  | ok root =>
      cases hrecursive : site.settings.isRecursive with
      | false =>
          obtain ⟨hrequests, houtcome⟩ := look_of_plain hrecursive hparse
          refine ⟨root.decls, houtcome, fun decl => ?_⟩
          simp [BringsUp, hrequests, hparse, declsFrom, hrecursive]
      | true =>
          obtain ⟨hrequests, houtcome⟩ := look_of_recursive hrecursive hparse
          rw [hrequests] at hparsed
          cases hresult : (site.setting.walkUnit ([] ++ [site.setting.key root.path])
              root).outcome with
          | error failure =>
              obtain ⟨path, hpath, reason, hreason⟩ :=
                WalkSetting.exists_of_walk_error _ _ _ hresult
              obtain ⟨unit, hunit⟩ := hparsed path (List.mem_cons_of_mem _ hpath)
              have hsame : site.frontend.parse path = .error reason := hreason
              simp [hsame] at hunit
          | ok decls =>
              obtain ⟨entered, account⟩ := WalkSetting.exists_walkUnit_account hresult
              refine ⟨decls, houtcome.trans hresult, fun decl => ?_⟩
              rw [account.mem_iff]
              simp only [BringsUp, hrequests, declsFrom, hrecursive, if_true, List.mem_cons,
                exists_eq_or_imp, hparse, Except.ok.injEq, exists_eq_left']
              rfl

/-- Without recursion all declarations of the header come up. -/
theorem bringsUp_iff_of_plain (hrecursive : site.settings.isRecursive = false)
    (hparse : site.frontend.parse header = .ok root) (decl : Decl) :
    site.BringsUp header decl ↔ decl ∈ root.decls := by
  simp [BringsUp, (look_of_plain hrecursive hparse).1, hparse, declsFrom, hrecursive]

/-- In recursive mode the own declarations of all headers that can be reached come up, if paths
with the same key are answered alike. -/
theorem mem_look_iff_reaches (hrecursive : site.settings.isRecursive = true)
    (halike : site.setting.AnswersAlike) (hparse : site.frontend.parse header = .ok root)
    {decls : List Decl} (hok : (site.look header).outcome = .ok decls) (decl : Decl) :
    decl ∈ decls ↔ ∃ key unit, site.setting.Reaches [] root key ∧
      site.setting.UnitAt root key unit ∧ decl ∈ unit.ownDecls := by
  rw [(look_of_recursive hrecursive hparse).2] at hok
  obtain ⟨entered, account⟩ := WalkSetting.exists_walkUnit_account hok
  obtain ⟨order, hkeys, hunits, rfl⟩ := WalkSetting.exists_unit_order account
  have hreached := WalkSetting.mem_addedKeys_iff halike account
  rw [List.mem_flatMap]
  constructor
  · rintro ⟨entry, hentry, hown⟩
    have hkey := hkeys.subset (List.mem_map_of_mem hentry)
    exact ⟨entry.1, entry.2, (hreached entry.1).1 hkey, hunits entry hentry, hown⟩
  · rintro ⟨key, unit, hreaches, hunit, hown⟩
    obtain ⟨⟨found, other⟩, hentry, rfl⟩ :=
      List.mem_map.1 (hkeys.symm.subset ((hreached key).2 hreaches))
    refine ⟨_, hentry, ?_⟩
    have hother := hunits _ hentry
    -- Both units answer for the same key.
    unfold WalkSetting.UnitAt at hunit hother
    split at hunit
    · next hroot =>
        rw [if_pos hroot] at hother
        rw [hother, ← hunit]
        exact hown
    · next hroot =>
        rw [if_neg hroot] at hother
        obtain ⟨p, hp, hpunit⟩ := hunit
        obtain ⟨q, hq, hqunit⟩ := hother
        have hdecls := (halike p q _ _ (hp.trans hq.symm) hpunit hqunit).2
        simpa [SourceUnit.ownDecls, hdecls] using hown

end Site

end Looking

section Records

namespace Selection

variable {selection : Selection} {decls : List Decl}

/-- A class that is extracted alone gets a record if and only if it has a member. -/
theorem isExtracted_alone_iff :
    (selection.alone decls).isExtracted selection.className = true ↔
      ∃ decl ∈ decls, ∃ kind parent, selection.member? decl = some (kind, parent) := by
  rw [(selection.wellFormed_alone decls).isExtracted_iff]
  constructor
  · rintro ⟨target, qualified, record, hclass, _⟩
    obtain ⟨_, decl, hdecl, kind, parent, hmember, _⟩ :=
      Selection.spec_of_classOf?_alone hclass
    exact ⟨decl, hdecl, kind, parent, hmember⟩
  · rintro ⟨decl, hdecl, kind, parent, hmember⟩
    have hfirst : (selection.firstParent? parent.target decls).isSome = true := by
      rw [Selection.firstParent?, List.findSome?_isSome_iff]
      exact ⟨decl, hdecl, by simp [hmember]⟩
    obtain ⟨first, hfirst⟩ := Option.isSome_iff_exists.1 hfirst
    have hclass := selection.classOf?_alone decls parent.target
    rw [Selection.gather, hfirst] at hclass
    exact ⟨_, _, _, hclass, rfl⟩

/-- The class of a first parent gets the method of the first member. -/
theorem methodsFor_ne_nil {target : String} {parent : Parent}
    (hfirst : selection.firstParent? target decls = some parent) :
    selection.methodsFor target parent.qualified decls ≠ [] := by
  obtain ⟨htarget, decl, hdecl, kind, hmember⟩ := Selection.exists_of_firstParent? hfirst
  have hmethod : buildMethod kind decl parent ∈
      selection.methodsFor target parent.qualified decls := by
    refine List.mem_filterMap.2 ⟨decl, hdecl, ?_⟩
    rw [Selection.methodFor?_of_member hmember, if_pos ⟨rfl, htarget⟩]
  exact List.ne_nil_of_mem hmethod

/-- A record that a selection makes alone has a method. -/
theorem methods_ne_nil_of_classOf?_alone {target qualified : String} {record : ClassInterface}
    (hclass : (selection.alone decls).classOf? target = some (qualified, record)) :
    record.classType.methods ≠ [] := by
  rw [selection.classOf?_alone, Selection.gather] at hclass
  obtain ⟨parent, hfirst, heq⟩ := Option.map_eq_some_iff.1 hclass
  obtain ⟨rfl, rfl⟩ := Prod.mk.inj heq
  simpa [ClassInterface.fresh] using methodsFor_ne_nil hfirst

end Selection

end Records

section Commands

namespace ExtractOptions

/-- The settings of a run with these options, where the compiler reports some directories. -/
def settings (options : ExtractOptions) (paths : List Path) : Settings where
  isRecursive := options.walk.isRecursive
  systemPaths := paths ++ options.walk.includes
  extraArgs := options.walk.args

/-- What is extracted with these options. -/
def selection (options : ExtractOptions) : Selection where
  className := options.className
  access := options.access

/-- Whether a declaration is what these options ask for: a constructor or method with the access
asked for, in a parent that is named like the class. -/
def Fits (options : ExtractOptions) (parent : Parent) (decl : Decl) : Prop :=
  decl.access = some options.access ∧ (decl.kind = .constructor ∨ decl.kind = .method) ∧
    decl.lexicalParent = some parent ∧ parent.name = options.className

theorem fits_iff {options : ExtractOptions} {parent : Parent} {decl : Decl} :
    options.Fits parent decl ↔ ∃ kind, options.selection.member? decl = some (kind, parent) := by
  simp only [Selection.member?_eq_some_iff, Fits, selection]
  constructor
  · rintro ⟨haccess, hkind, hparent, hname⟩
    rcases hkind with hkind | hkind
    · exact ⟨.constructor, haccess, hparent, by rw [hkind]; rfl, hname⟩
    · exact ⟨.method, haccess, hparent, by rw [hkind]; rfl, hname⟩
  · rintro ⟨kind, haccess, hparent, hkind, hname⟩
    refine ⟨haccess, ?_, hparent, hname⟩
    revert hkind
    cases decl.kind <;> simp [MethodKind.ofDecl?]

end ExtractOptions

theorem Outcome.requests_ofStage (stage : Stage) :
    (Outcome.ofStage stage).requests.map Prod.fst = stage.1.requests := by
  obtain ⟨progress, outcome⟩ := stage
  cases outcome <;> simp [Outcome.ofStage, Function.comp_def]

theorem Progress.requests_writeClass (progress : Progress) (header : Path)
    (selection : Selection) (space : String) (output : Option Path) (outputDir : Path) :
    (progress.writeClass header selection space output outputDir).1.requests =
      progress.requests := by
  unfold Progress.writeClass
  simp only
  split <;> rfl

theorem Progress.requests_extract (progress : Progress) (frontend : Frontend) (header : Path)
    (selections : List Selection) (context : String) :
    (progress.extract frontend header selections context).1.requests =
      progress.requests ++
        (progress.survey.declsOf progress.files frontend header).requests := by
  rw [← (ExtractCall.step_walk ⟨progress.files, frontend, header, selections⟩
    progress.survey).1]
  unfold Progress.extract
  simp only
  split <;> rfl

theorem Stage.requests_andThen {stage : Stage} {next : Progress → Stage}
    (hnext : ∀ reached : Progress, (next reached).1.requests = reached.requests) :
    (stage.andThen next).1.requests = stage.1.requests := by
  obtain ⟨reached, outcome⟩ := stage
  cases outcome with
  | error reasons => rfl
  | ok done => exact hnext reached

namespace World

variable {world : World} {options : ExtractOptions} {paths : List Path}

/-- The command begins in a survey of its own. -/
theorem exists_start
    (hprobe : world.toolchain.searchPaths world.files options.walk.compiler = .ok paths) :
    ∃ start : Progress,
      world.start options.walk.compiler options.walk.includes options.walk.args
          options.walk.isRecursive = .ok start ∧
        start.files = world.files ∧ start.lines = [] ∧ start.requests = [] ∧
        start.survey = (world.site (options.settings paths)).survey := by
  unfold World.start
  rw [hprobe]
  exact ⟨_, rfl, rfl, rfl, rfl, rfl⟩

/-- The headers that the command asks for. -/
theorem requests_extract
    (hprobe : world.toolchain.searchPaths world.files options.walk.compiler = .ok paths) :
    (world.extract options).requests.map Prod.fst =
      ((world.site (options.settings paths)).look options.header).requests := by
  obtain ⟨start, hstart, hfiles, _, hrequests, hsurvey⟩ := exists_start hprobe
  unfold World.extract
  simp only [hstart]
  rw [Outcome.requests_ofStage, Stage.requests_andThen, Progress.requests_extract, hrequests,
    hfiles, hsurvey]
  · rfl
  · exact fun reached => reached.requests_writeClass _ _ _ _ _

/-- The command is one extraction and one file, if the header can be looked up. -/
theorem exists_extract_eq
    (hprobe : world.toolchain.searchPaths world.files options.walk.compiler = .ok paths)
    {decls : List Decl}
    (hlook : ((world.site (options.settings paths)).look options.header).outcome = .ok decls) :
    ∃ reached : Progress,
      reached.files = world.files ∧ reached.lines = [] ∧
      reached.survey.registry = options.selection.alone decls ∧
      world.extract options =
        Outcome.ofStage
          (reached.writeClass options.header options.selection options.space options.output
            options.outputDir) := by
  obtain ⟨start, hstart, hfiles, hlines, _, hsurvey⟩ := exists_start hprobe
  have hdecls : (start.survey.declsOf start.files world.frontend options.header).outcome =
      .ok decls := by
    rw [hsurvey, hfiles]
    exact hlook
  let call : ExtractCall := ⟨start.files, world.frontend, options.header, [options.selection]⟩
  have hstep : call.step start.survey = _ := ExtractCall.step_of_ok hdecls
  change start.survey.extract start.files world.frontend options.header [options.selection] = _
    at hstep
  obtain ⟨reached, hreached, hsurvey', hfiles', hlines'⟩ := Progress.extract_of_ok
    ("extracting " ++ options.className ++ " from " ++ options.header.text)
    (congrArg Step.outcome hstep)
  refine ⟨reached, hfiles'.trans hfiles, hlines'.trans hlines, ?_, ?_⟩
  · have hempty : (call.afterWalk start.survey).registry = {} := by
      rw [ExtractCall.afterWalk, (start.survey.declsOf_frame _ _ _).1, hsurvey]
      rfl
    rw [hsurvey', hstep]
    change (Survey.extractOne _ options.header decls options.selection).1.registry = _
    rw [Survey.extractOne_fst]
    simp only [hempty]
    rfl
  · unfold World.extract
    simp only [hstart]
    change Outcome.ofStage ((start.extract world.frontend options.header [options.selection]
      _).andThen _) = _
    rw [hreached]
    rfl

/-- A class without a member is not written. -/
theorem extract_of_no_member
    (hprobe : world.toolchain.searchPaths world.files options.walk.compiler = .ok paths)
    {decls : List Decl}
    (hlook : ((world.site (options.settings paths)).look options.header).outcome = .ok decls)
    (hnone : ¬∃ decl ∈ decls, ∃ kind parent,
      options.selection.member? decl = some (kind, parent)) :
    (world.extract options).failure ≠ none ∧ (world.extract options).files = world.files ∧
      (world.extract options).output = "" := by
  obtain ⟨reached, hfiles, hlines, hregistry, hextract⟩ := exists_extract_eq hprobe hlook
  rw [← Selection.isExtracted_alone_iff, ← hregistry] at hnone
  have hlabel : reached.survey.labelClass? options.selection.className options.space = none := by
    cases hlabel : reached.survey.labelClass? options.selection.className options.space with
    | none => rfl
    | some found => exact absurd (Survey.exists_labelClass?_iff.1 ⟨found.1, found.2, hlabel⟩) hnone
  rw [hextract]
  simp [Progress.writeClass, Survey.writeClass, hlabel, Outcome.ofStage, hfiles, hlines]

/-- A class with a member is written, if its file can be. -/
theorem extract_of_member
    (hprobe : world.toolchain.searchPaths world.files options.walk.compiler = .ok paths)
    {decls : List Decl}
    (hlook : ((world.site (options.settings paths)).look options.header).outcome = .ok decls)
    (hsome : ∃ decl ∈ decls, ∃ kind parent,
      options.selection.member? decl = some (kind, parent))
    (htakes : ∀ decl ∈ decls, ∀ kind parent,
      options.selection.member? decl = some (kind, parent) →
        world.files.Takes (Writing.pathOf parent.target options.output options.outputDir)) :
    (world.extract options).failure = none ∧
      ∃ path interface, (world.extract options).output = path.text ++ "\n" ∧
        SchemaFile.read (world.extract options).files path = .ok interface ∧
        interface.space = options.space ∧ interface.classType.methods ≠ [] ∧
        world.files.WritesOnly (world.extract options).files path := by
  obtain ⟨reached, hfiles, hlines, hregistry, hextract⟩ := exists_extract_eq hprobe hlook
  have hwf : reached.survey.registry.WellFormed := by
    rw [hregistry]
    exact options.selection.wellFormed_alone decls
  rw [← Selection.isExtracted_alone_iff, ← hregistry, ← Survey.exists_labelClass?_iff] at hsome
  obtain ⟨labelled, interface, hlabel⟩ := hsome
  obtain ⟨qualified, record, hclass, _, hinterface, _⟩ := Survey.labelClass?_spec hwf hlabel
  have htype : interface.classType = record.classType := by rw [hinterface]
  rw [hregistry, ← htype] at hclass
  obtain ⟨_, decl, hdecl, kind, parent, hmember, htarget⟩ :=
    Selection.spec_of_classOf?_alone hclass
  -- The file of the record is the file of the parent that the record was made for.
  obtain ⟨prepared, place, hprepare, hplace, hwritable⟩ := htakes decl hdecl kind parent hmember
  rw [htarget] at hprepare hplace
  obtain ⟨written, hwrite⟩ := FileTree.exists_write_iff.2 ⟨place, hplace, hwritable⟩
  have hwriting : reached.survey.writeClass reached.files options.header options.selection
      options.space options.output options.outputDir = _ :=
    Survey.writeClass_of_ok hlabel rfl (hfiles ▸ hprepare) hwrite
  rw [hextract, Progress.writeClass, hwriting]
  refine ⟨rfl, _, interface, ?_, SchemaFile.read_of_write hwrite, by rw [hinterface], ?_,
    FileTree.writesOnly_write hprepare hwrite⟩
  · simp [Outcome.ofStage, hlines, String.join]
  · rw [htype]
    exact Selection.methods_ne_nil_of_classOf?_alone hclass

variable (world options) in
/-- Whether a declaration comes up while the command runs: it is one of a header that was asked
for, and its own one in recursive mode. -/
def BringsUp (decl : Decl) : Prop :=
  ∃ request ∈ (world.extract options).requests, ∃ unit,
    world.frontend.parse request.1 = .ok unit ∧
      decl ∈ if options.walk.isRecursive then unit.ownDecls else unit.decls

theorem bringsUp_iff
    (hprobe : world.toolchain.searchPaths world.files options.walk.compiler = .ok paths)
    (decl : Decl) :
    world.BringsUp options decl ↔
      (world.site (options.settings paths)).BringsUp options.header decl := by
  unfold BringsUp Site.BringsUp
  rw [← requests_extract hprobe]
  simp only [List.mem_map, exists_exists_and_eq_and]
  rfl

/-- **A class is extracted exactly when it has a member.**  Let the compiler answer, let every
header that the command asks for be parsed, and let the file of every class that comes up under
the name be writable.  The command succeeds if and only if a constructor or method with the
access asked for comes up in a parent named like the class.  If it succeeds, it has written one
file and printed its path, and the file holds a class with the given namespace and at least one
method.  If it fails, it has changed no file and printed nothing.  What comes up is the whole unit
of the header or, in recursive mode, the own declarations of all headers that can be reached. -/
theorem extract_succeeds_iff (world : World) (options : ExtractOptions) (paths : List Path)
    (hprobe : world.toolchain.searchPaths world.files options.walk.compiler = .ok paths)
    (hparsed : ∀ request ∈ (world.extract options).requests,
      ∃ unit, world.frontend.parse request.1 = .ok unit)
    (htakes : ∀ decl parent, world.BringsUp options decl → options.Fits parent decl →
      world.files.Takes (Writing.pathOf parent.target options.output options.outputDir)) :
    let outcome := world.extract options
    let setting := (world.site (options.settings paths)).setting
    (outcome.failure = none ↔
      ∃ decl parent, world.BringsUp options decl ∧ options.Fits parent decl) ∧
    (outcome.failure = none →
      ∃ path interface, outcome.output = path.text ++ "\n" ∧
        SchemaFile.read outcome.files path = .ok interface ∧
        interface.space = options.space ∧ interface.classType.methods ≠ [] ∧
        world.files.WritesOnly outcome.files path) ∧
    (outcome.failure ≠ none → outcome.files = world.files ∧ outcome.output = "") ∧
    ∀ root, world.frontend.parse options.header = .ok root →
      (options.walk.isRecursive = false →
        ∀ decl, world.BringsUp options decl ↔ decl ∈ root.decls) ∧
      (options.walk.isRecursive = true → setting.AnswersAlike →
        ∀ decl, world.BringsUp options decl ↔
          ∃ key unit, setting.Reaches [] root key ∧ setting.UnitAt root key unit ∧
            decl ∈ unit.ownDecls) := by
  intro outcome setting
  have hasked : ∀ path ∈ ((world.site (options.settings paths)).look options.header).requests,
      ∃ unit, world.frontend.parse path = .ok unit := by
    rw [← requests_extract hprobe]
    intro path hpath
    obtain ⟨request, hrequest, rfl⟩ := List.mem_map.1 hpath
    exact hparsed request hrequest
  obtain ⟨decls, hlook, hdecls⟩ := Site.exists_look hasked
  have hup : ∀ decl, decl ∈ decls ↔ world.BringsUp options decl := fun decl =>
    (hdecls decl).trans (bringsUp_iff hprobe decl).symm
  have hmembers : (∃ decl ∈ decls, ∃ kind parent,
      options.selection.member? decl = some (kind, parent)) ↔
        ∃ decl parent, world.BringsUp options decl ∧ options.Fits parent decl := by
    simp only [hup, ExtractOptions.fits_iff]
    constructor
    · rintro ⟨decl, hdecl, kind, parent, hmember⟩
      exact ⟨decl, parent, hdecl, kind, hmember⟩
    · rintro ⟨decl, parent, hdecl, kind, hmember⟩
      exact ⟨decl, hdecl, kind, parent, hmember⟩
  have htakes' : ∀ decl ∈ decls, ∀ kind parent,
      options.selection.member? decl = some (kind, parent) →
        world.files.Takes (Writing.pathOf parent.target options.output options.outputDir) := by
    intro decl hdecl kind parent hmember
    exact htakes decl parent ((hup decl).1 hdecl) (ExtractOptions.fits_iff.2 ⟨kind, hmember⟩)
  have hsucceeds : outcome.failure = none ↔ ∃ decl ∈ decls, ∃ kind parent,
      options.selection.member? decl = some (kind, parent) := by
    constructor
    · intro hok
      by_contra hnone
      exact (extract_of_no_member hprobe hlook hnone).1 hok
    · exact fun hsome => (extract_of_member hprobe hlook hsome htakes').1
  refine ⟨hsucceeds.trans hmembers, ?_, ?_, fun root hparse => ⟨?_, ?_⟩⟩
  · intro hok
    exact (extract_of_member hprobe hlook (hsucceeds.1 hok) htakes').2
  · intro hfails
    exact (extract_of_no_member hprobe hlook fun hsome => hfails (hsucceeds.2 hsome)).2
  · intro hplain decl
    rw [bringsUp_iff hprobe]
    exact Site.bringsUp_iff_of_plain hplain hparse decl
  · intro hrecursive halike decl
    rw [← hup]
    exact Site.mem_look_iff_reaches hrecursive halike hparse hlook decl

/-- Options that ask for the class of an included header. -/
def includedOptions : ExtractOptions where
  header := ⟨"a.h"⟩
  className := "b"
  space := "T"
  access := .isPublic
  output := none
  outputDir := ⟨"out"⟩
  walk := { compiler := "clang", includes := [], args := [], isRecursive := true }

theorem included_requests :
    ((pairWorld false).extract includedOptions).requests.map Prod.fst = [⟨"a.h"⟩, ⟨"b.h"⟩] := by
  decide +kernel

theorem included_parsed {path : Path} (hpath : path ∈ [(⟨"a.h"⟩ : Path), ⟨"b.h"⟩]) :
    ∃ unit ∈ pairUnits, (pairWorld false).frontend.parse path = .ok unit := by
  have hall : ∀ path ∈ [(⟨"a.h"⟩ : Path), ⟨"b.h"⟩], ∃ unit ∈ pairUnits,
      ((pairWorld false).frontend.parse path).toOption = some unit := by
    decide +kernel
  obtain ⟨unit, hunit, hparse⟩ := hall path hpath
  refine ⟨unit, hunit, ?_⟩
  cases hresult : (pairWorld false).frontend.parse path with
  | error reason => simp [hresult, Except.toOption] at hparse
  | ok found =>
      rw [hresult] at hparse
      exact congrArg Except.ok (Option.some.inj hparse)

theorem included_takes :
    (pairWorld false).files.Takes (Writing.pathOf "B" none ⟨"out"⟩) := by
  have hprepare : (Writing.prepare (pairWorld false).files
      (Writing.pathOf "B" none ⟨"out"⟩)).2.isOk = true := by
    decide +kernel
  have hwrite : ((Writing.prepare (pairWorld false).files
      (Writing.pathOf "B" none ⟨"out"⟩)).1.write (Writing.pathOf "B" none ⟨"out"⟩)
        ByteArray.empty).isOk = true := by
    decide +kernel
  exact FileTree.takes_of_isOk hprepare hwrite

/-- A constructor comes up in the included header, so the command succeeds. -/
theorem extract_succeeds_iff_included :
    let outcome := (pairWorld false).extract includedOptions
    outcome.failure = none ∧
      (∃ decl parent, (pairWorld false).BringsUp includedOptions decl ∧
        includedOptions.Fits parent decl) ∧
      ∃ path interface, outcome.output = path.text ++ "\n" ∧
        SchemaFile.read outcome.files path = .ok interface ∧
        interface.space = "T" ∧ interface.classType.methods ≠ [] ∧
        (pairWorld false).files.WritesOnly outcome.files path := by
  intro outcome
  have hprobe : (pairWorld false).toolchain.searchPaths (pairWorld false).files
      includedOptions.walk.compiler = .ok [] := by
    decide +kernel
  have hparsed : ∀ request ∈ outcome.requests,
      ∃ unit, (pairWorld false).frontend.parse request.1 = .ok unit := by
    intro request hrequest
    have hpath := List.mem_map_of_mem (f := Prod.fst) hrequest
    rw [included_requests] at hpath
    obtain ⟨unit, _, hparse⟩ := included_parsed hpath
    exact ⟨unit, hparse⟩
  have htargets : ∀ unit ∈ pairUnits, ∀ decl ∈ unit.ownDecls, ∀ parent ∈ decl.lexicalParent,
      parent.name = "b" → parent.target = "B" := by
    decide +kernel
  obtain ⟨hiff, hwritten, _⟩ := extract_succeeds_iff (pairWorld false) includedOptions [] hprobe
    hparsed (by
      rintro decl parent ⟨_, _, unit, hparse, hdecl⟩ ⟨_, _, hparent, hname⟩
      rw [htargets unit (keyedFrontend_parse hparse).1 decl hdecl parent hparent hname]
      exact included_takes)
  have hok : outcome.failure = none := Option.isNone_iff_eq_none.1 (by decide +kernel)
  exact ⟨hok, hiff.1 hok, hwritten hok⟩

end World

end Commands

end HeaderBindings
