import HeaderBindings.Program.Progress
import HeaderBindings.Proofs.OutputPaths
import HeaderBindings.Proofs.SoleRecords
import HeaderBindings.Proofs.WalkClosure

/-!
# Runs that share a survey

Classes can be extracted one after the other in one survey, or each in a survey of
its own.  The shared survey skips headers that earlier classes needed, looks up
members among everything that was walked, and keeps the records of all classes in
one registry.  A class whose members stand in one unit is not affected.

**Assumptions.**  `Separable` says what the classes of a run must be like: each has
its own name, and its public members stand in one unit that its header leads to and
have one parent.

**Results.**
* `Separable.alone_eq`: a class finds the same members in the shared survey as in a
  survey of its own.
* `InStep.extract`: every record of the shared survey is the one that its class has
  alone, up to the label.
-/

namespace HeaderBindings

/-- What a run depends on: the files, the frontend and the settings. -/
structure Site where
  files : FileTree
  frontend : Frontend
  settings : Settings

namespace Site

section Alone

variable (site : Site)

/-- The survey in which nothing was done yet. -/
def survey : Survey where
  settings := site.settings

/-- The circumstances of all walks. -/
def setting : WalkSetting :=
  site.survey.walkSetting site.files site.frontend

/-- What looking for the declarations of a header does in a survey of its own. -/
def look (header : Path) : Step (List Decl) :=
  site.survey.declsOf site.files site.frontend header

/-- The registry of a class in a survey of its own. -/
def soleRegistry (entry : ClassEntry) : Registry :=
  (Progress.selectionOf entry).alone (site.look entry.header).survey.walked

end Alone

section Assumptions

/-- Whether a declaration is a public constructor or method in a parent with a given name. -/
def IsPublicMember (name : String) (parent : Parent) (decl : Decl) : Prop :=
  decl.access = some .isPublic ∧ (decl.kind = .constructor ∨ decl.kind = .method) ∧
    decl.lexicalParent = some parent ∧ parent.name = name

/-- Whether all own public members with a parent of a given name, in all units of the frontend,
stand in one unit that a header leads to and have the same parent. -/
def HasHome (site : Site) (header : Path) (name : String) (parent : Parent) : Prop :=
  ∃ home, ∀ asked unit, site.frontend.parse asked = .ok unit →
    ∀ decl ∈ unit.ownDecls, ∀ found, IsPublicMember name found decl →
      found = parent ∧ site.setting.key asked = home ∧
        ∃ root, site.frontend.parse header = .ok root ∧ site.setting.Reaches [] root home

/-- What the classes of a run must be like. -/
structure Separable (site : Site) (classes : List ClassEntry) (parents : String → Parent) :
    Prop where
  isRecursive : site.settings.isRecursive = true
  keyed : site.setting.Keyed
  distinct : (classes.map ClassEntry.name).Nodup
  /-- No name has a path separator. -/
  plain : ∀ entry ∈ classes, '/' ∉ entry.name.toList
  /-- Two spellings of one path do not stand for two units.  Headers are grouped by their
  components, which `a.h` and `a.h/` share, but only the first of them can lead to a file. -/
  onePath : ∀ first ∈ classes, ∀ second ∈ classes,
    first.header.same second.header = true →
      ∀ u v, site.frontend.parse first.header = .ok u →
        site.frontend.parse second.header = .ok v → u = v
  home : ∀ entry ∈ classes, site.HasHome entry.header entry.name (parents entry.name)

variable {site : Site} {classes : List ClassEntry} {parents : String → Parent}
  {entry : ClassEntry}

theorem isPublicMember_of_member? {decl : Decl} {kind : MethodKind} {parent : Parent}
    (hmember : (Progress.selectionOf entry).member? decl = some (kind, parent)) :
    IsPublicMember entry.name parent decl := by
  obtain ⟨haccess, hparent, hkind, hname⟩ := Selection.member?_eq_some_iff.1 hmember
  refine ⟨haccess, ?_, hparent, hname⟩
  revert hkind
  cases decl.kind <;> simp [MethodKind.ofDecl?]

theorem Separable.name_inj (hsep : site.Separable classes parents) {other : ClassEntry}
    (hentry : entry ∈ classes) (hother : other ∈ classes) (hname : other.name = entry.name) :
    other = entry :=
  List.inj_on_of_nodup_map hsep.distinct hother hentry hname

/-- Where a member is that was walked. -/
theorem Separable.home_of_walked (hsep : site.Separable classes parents)
    (hentry : entry ∈ classes) {visited : List Key} {walked : List Decl}
    (hclosed : site.setting.Closed visited walked) {decl : Decl} (hdecl : decl ∈ walked)
    {kind : MethodKind} {parent : Parent}
    (hmember : (Progress.selectionOf entry).member? decl = some (kind, parent)) :
    parent = parents entry.name ∧
      ∃ root, site.frontend.parse entry.header = .ok root := by
  obtain ⟨order, _, hholds, rfl⟩ := hclosed.walked_eq
  obtain ⟨unit, hunit, hown⟩ := List.mem_flatMap.1 hdecl
  obtain ⟨asked, _, hparse⟩ := hholds unit hunit
  obtain ⟨home, hhome⟩ := hsep.home entry hentry
  obtain ⟨hparent, _, root, hroot, _⟩ := hhome asked unit.2 hparse decl hown parent
    (isPublicMember_of_member? hmember)
  exact ⟨hparent, root, hroot⟩

theorem Separable.oneParent (hsep : site.Separable classes parents) (hentry : entry ∈ classes)
    {visited : List Key} {walked : List Decl} (hclosed : site.setting.Closed visited walked) :
    (Progress.selectionOf entry).OneParent walked (parents entry.name) :=
  fun _ hdecl _ _ hmember => (hsep.home_of_walked hentry hclosed hdecl hmember).1

/-- Two closed walks that both visited the header of a class find the same members. -/
theorem Separable.filter_eq (hsep : site.Separable classes parents) (hentry : entry ∈ classes)
    {root : SourceUnit} (hparse : site.frontend.parse entry.header = .ok root)
    {first second : List Key} {walked other : List Decl}
    (hclosed : site.setting.Closed first walked)
    (hclosed' : site.setting.Closed second other)
    (hroot : site.setting.key root.path ∈ first)
    (hroot' : site.setting.key root.path ∈ second) :
    walked.filter (Progress.selectionOf entry).isMember =
      other.filter (Progress.selectionOf entry).isMember := by
  obtain ⟨home, hhome⟩ := hsep.home entry hentry
  have hfacts : ∀ key unit, site.setting.Holds key unit → ∀ decl ∈ unit.ownDecls,
      (Progress.selectionOf entry).isMember decl = true →
        key = home ∧ site.setting.Reaches [] root home := by
    rintro _ unit ⟨asked, rfl, hasked⟩ decl hdecl hmember
    obtain ⟨⟨kind, parent⟩, hfound⟩ := Option.isSome_iff_exists.1 hmember
    obtain ⟨_, hkey, origin, horigin, hreaches⟩ := hhome asked unit hasked decl hdecl parent
      (isPublicMember_of_member? hfound)
    rw [hparse] at horigin
    obtain rfl := Except.ok.inj horigin
    exact ⟨hkey, hreaches⟩
  by_cases hany : ∃ key unit, site.setting.Holds key unit ∧
      ∃ decl ∈ unit.ownDecls, (Progress.selectionOf entry).isMember decl = true
  · obtain ⟨key, unit, hholds, decl, hdecl, hmember⟩ := hany
    obtain ⟨rfl, hreaches⟩ := hfacts key unit hholds decl hdecl hmember
    have honly : ∀ other unit, site.setting.Holds other unit → ∀ decl ∈ unit.ownDecls,
        (Progress.selectionOf entry).isMember decl = true → other = key :=
      fun other unit hother decl hdecl hmember =>
        (hfacts other unit hother decl hdecl hmember).1
    rw [hclosed.filter_eq hsep.keyed hholds
        (hclosed.mem_of_reaches hsep.keyed hparse hroot hreaches) honly,
      hclosed'.filter_eq hsep.keyed hholds
        (hclosed'.mem_of_reaches hsep.keyed hparse hroot' hreaches) honly]
  · have hnone : ∀ key unit, site.setting.Holds key unit → ∀ decl ∈ unit.ownDecls,
        (Progress.selectionOf entry).isMember decl = false := by
      intro key unit hholds decl hdecl
      rw [← Bool.not_eq_true]
      exact fun hmember => hany ⟨key, unit, hholds, decl, hdecl, hmember⟩
    rw [hclosed.filter_eq_nil hnone, hclosed'.filter_eq_nil hnone]

theorem Separable.look_closed (hsep : site.Separable classes parents) {header : Path}
    {decls : List Decl} (hok : (site.look header).outcome = .ok decls) :
    site.setting.Closed (site.look header).survey.visited (site.look header).survey.walked ∧
      ∃ root, site.frontend.parse header = .ok root ∧
        site.setting.key root.path ∈ (site.look header).survey.visited :=
  Survey.declsOf_closed hsep.isRecursive hsep.keyed site.setting.closed_nil hok

/-- Extracting a class in a survey of its own gives its sole registry. -/
theorem Separable.extract_alone (hsep : site.Separable classes parents) {decls : List Decl}
    (hok : (site.look entry.header).outcome = .ok decls) :
    (site.survey.extract site.files site.frontend entry.header
        [Progress.selectionOf entry]).outcome = .ok () ∧
      (site.survey.extract site.files site.frontend entry.header
        [Progress.selectionOf entry]).survey.registry = site.soleRegistry entry := by
  have hwalked : decls = (site.look entry.header).survey.walked :=
    Survey.declsOf_walked hsep.isRecursive hok
  have hregistry : (site.look entry.header).survey.registry = {} :=
    (site.survey.declsOf_frame site.files site.frontend entry.header).1
  have hextract : site.survey.extract site.files site.frontend entry.header
      [Progress.selectionOf entry] =
      let extracted := (site.look entry.header).survey.extractAll entry.header decls
        [Progress.selectionOf entry]
      ⟨extracted.1, (site.look entry.header).requests,
        (site.look entry.header).events ++ extracted.2, .ok ()⟩ := by
    unfold look at hok ⊢
    simp only [Survey.extract, hok]
  rw [hextract]
  refine ⟨rfl, ?_⟩
  change ((site.look entry.header).survey.extractOne entry.header decls
    (Progress.selectionOf entry)).1.registry = _
  rw [Survey.extractOne_fst, hregistry, hwalked]
  rfl

/-- A class with a member that was walked finds the same members in a survey of its own. -/
theorem Separable.alone_eq (hsep : site.Separable classes parents) {first : ClassEntry}
    (hfirst : first ∈ classes) (hentry : entry ∈ classes)
    (hsame : first.header.same entry.header = true) {visited : List Key} {walked : List Decl}
    (hclosed : site.setting.Closed visited walked) {root : SourceUnit}
    (hparse : site.frontend.parse first.header = .ok root)
    (hroot : site.setting.key root.path ∈ visited) {decl : Decl} (hdecl : decl ∈ walked)
    (hmember : (Progress.selectionOf entry).isMember decl = true) :
    (∃ decls, (site.look entry.header).outcome = .ok decls) ∧
      (Progress.selectionOf entry).alone walked = site.soleRegistry entry := by
  obtain ⟨⟨kind, parent⟩, hfound⟩ := Option.isSome_iff_exists.1 hmember
  obtain ⟨_, origin, horigin⟩ := hsep.home_of_walked hentry hclosed hdecl hfound
  obtain rfl := hsep.onePath first hfirst entry hentry hsame root origin hparse horigin
  obtain ⟨decls, hok⟩ : ∃ decls, (site.look entry.header).outcome = .ok decls :=
    Survey.exists_declsOf hsep.isRecursive hsep.keyed hclosed horigin hroot
  obtain ⟨hclosed', origin, horigin', hroot'⟩ := hsep.look_closed hok
  rw [horigin] at horigin'
  obtain rfl := Except.ok.inj horigin'
  refine ⟨⟨decls, hok⟩, ?_⟩
  unfold soleRegistry Selection.alone
  rw [collect_filter, hsep.filter_eq hentry horigin hclosed hclosed' hroot hroot',
    ← collect_filter]

/-- A class alone has the target name of its parent, and no other one. -/
theorem Separable.target_soleRegistry (hsep : site.Separable classes parents)
    (hentry : entry ∈ classes) {decls : List Decl}
    (hok : (site.look entry.header).outcome = .ok decls) {target qualified : String}
    {record : ClassInterface}
    (hclass : (site.soleRegistry entry).classOf? target = some (qualified, record)) :
    target = (parents entry.name).target ∧ (parents entry.name).name = entry.name := by
  obtain ⟨_, decl, hdecl, kind, parent, hmember, rfl⟩ :=
    Selection.spec_of_classOf?_alone hclass
  obtain rfl := hsep.oneParent hentry (hsep.look_closed hok).1 decl hdecl kind parent hmember
  exact ⟨rfl, (isPublicMember_of_member? hmember).2.2.2⟩

end Assumptions

section Sharing

variable {site : Site} {classes : List ClassEntry} {parents : String → Parent}

/-- A survey in which some classes were extracted: what is visited is closed, and every record
is the one that its class has alone, up to the label. -/
structure InStep (site : Site) (done : List ClassEntry) (survey : Survey) : Prop where
  settings : survey.settings = site.settings
  closed : site.setting.Closed survey.visited survey.walked
  wellFormed : survey.registry.WellFormed
  looked : ∀ entry ∈ done, ∃ decls, (site.look entry.header).outcome = .ok decls
  extracted : ∀ entry ∈ done, survey.registry.isExtracted entry.name = true
  records : ∀ target qualified record,
    survey.registry.classOf? target = some (qualified, record) →
      ∃ entry ∈ done, ∃ made,
        (site.soleRegistry entry).classOf? target = some (qualified, made) ∧
          record = { made with space := record.space }

theorem inStep_start (site : Site) : site.InStep [] site.survey where
  settings := rfl
  closed := site.setting.closed_nil
  wellFormed := Registry.wellFormed_empty
  looked := by simp
  extracted := by simp
  records := by
    intro target qualified record hclass
    simp [survey, Registry.classOf?] at hclass

variable {done : List ClassEntry} {survey : Survey}

theorem InStep.isExtracted (hstep : site.InStep done survey) {name : String}
    (hextracted : survey.registry.isExtracted name = true) :
    name ∈ done.map ClassEntry.name := by
  obtain ⟨target, qualified, record, hclass, rfl⟩ :=
    hstep.wellFormed.isExtracted_iff.1 hextracted
  obtain ⟨entry, hentry, made, hmade, hrecord⟩ := hstep.records target qualified record hclass
  refine List.mem_map.2 ⟨entry, hentry, ?_⟩
  rw [hrecord]
  exact (Selection.spec_of_classOf?_alone hmade).1.symm

/-- Walking a header keeps a survey in step, and the unit of the header is visited then. -/
theorem InStep.declsOf (hstep : site.InStep done survey) (hsep : site.Separable classes parents)
    {header : Path} {decls : List Decl}
    (hok : (survey.declsOf site.files site.frontend header).outcome = .ok decls) :
    site.InStep done (survey.declsOf site.files site.frontend header).survey ∧
      decls = (survey.declsOf site.files site.frontend header).survey.walked ∧
      ∃ root, site.frontend.parse header = .ok root ∧
        site.setting.key root.path ∈
          (survey.declsOf site.files site.frontend header).survey.visited := by
  have hrecursive : survey.settings.isRecursive = true := by
    rw [hstep.settings]
    exact hsep.isRecursive
  have hsetting : survey.walkSetting site.files site.frontend = site.setting := by
    simp [Survey.walkSetting, setting, Site.survey, hstep.settings]
  obtain ⟨hregistry, hsettings, _⟩ := survey.declsOf_frame site.files site.frontend header
  obtain ⟨hclosed, hroot⟩ := Survey.declsOf_closed hrecursive
    (hsetting ▸ hsep.keyed) (hsetting ▸ hstep.closed) hok
  rw [hsetting] at hclosed
  refine ⟨⟨hsettings.trans hstep.settings, hclosed, ?_, hstep.looked, ?_, ?_⟩,
    Survey.declsOf_walked hrecursive hok, hroot⟩
  · rw [hregistry]
    exact hstep.wellFormed
  · rw [hregistry]
    exact hstep.extracted
  · rw [hregistry]
    exact hstep.records

/-- A class with a new name has no record. -/
theorem InStep.isExtracted_of_new (hstep : site.InStep done survey) {entries : List ClassEntry}
    (hnames : ((done ++ entries).map ClassEntry.name).Nodup) {entry : ClassEntry}
    (hentry : entry ∈ entries) : survey.registry.isExtracted entry.name = false := by
  rw [List.map_append, List.nodup_append] at hnames
  rw [← Bool.not_eq_true]
  intro hextracted
  exact hnames.2.2 _ (hstep.isExtracted hextracted) entry.name (List.mem_map_of_mem hentry) rfl

/-- Extracting classes with new names, all with success, gives each the record that it has alone
in what was walked. -/
theorem InStep.records_extractAll (hstep : site.InStep done survey)
    (hsep : site.Separable classes parents) {entries : List ClassEntry}
    (hentries : ∀ entry ∈ entries, entry ∈ classes)
    (hnames : ((done ++ entries).map ClassEntry.name).Nodup) {header : Path} {after : Survey}
    (hafter : (survey.extractAll header survey.walked
      (entries.map Progress.selectionOf)).1 = after)
    (hmade : ∀ entry ∈ entries, after.registry.isExtracted entry.name = true)
    {target : String} {found : String × ClassInterface}
    (hfound : after.registry.classOf? target = some found) :
    survey.registry.classOf? target = some found ∨
      ∃ entry ∈ entries,
        ((Progress.selectionOf entry).alone survey.walked).classOf? target = some found := by
  subst hafter
  have hnodup : ((entries.map Progress.selectionOf).map Selection.className).Nodup := by
    rw [List.map_append, List.nodup_append] at hnames
    simpa [Progress.selectionOf, Function.comp_def] using hnames.2.1
  have hall := Survey.extractAll_alone hstep.wellFormed hnodup
    (fun selection hselection => by
      obtain ⟨entry, hentry, rfl⟩ := List.mem_map.1 hselection
      exact hstep.isExtracted_of_new hnames hentry)
    (fun selection hselection => by
      obtain ⟨entry, hentry, rfl⟩ := List.mem_map.1 hselection
      exact ⟨_, hsep.oneParent (hentries entry hentry) hstep.closed⟩)
    (fun selection hselection => by
      obtain ⟨entry, hentry, rfl⟩ := List.mem_map.1 hselection
      exact hmade entry hentry)
    target found hfound
  simpa using hall

/-- Extracting classes whose header is visited, all with success, keeps a survey in step. -/
theorem InStep.extractAll (hstep : site.InStep done survey)
    (hsep : site.Separable classes parents) {first : ClassEntry} (hfirst : first ∈ classes)
    {root : SourceUnit} (hparse : site.frontend.parse first.header = .ok root)
    (hroot : site.setting.key root.path ∈ survey.visited) {entries : List ClassEntry}
    (hentries : ∀ entry ∈ entries,
      entry ∈ classes ∧ first.header.same entry.header = true)
    (hnames : ((done ++ entries).map ClassEntry.name).Nodup) {after : Survey}
    (hafter : (survey.extractAll first.header survey.walked
      (entries.map Progress.selectionOf)).1 = after)
    (hmade : ∀ entry ∈ entries, after.registry.isExtracted entry.name = true) :
    site.InStep (done ++ entries) after := by
  have hwf : after.registry.WellFormed := by
    rw [← hafter]
    exact Survey.extractAll_wellFormed hstep.wellFormed _ _ _
  -- Each class has a record, so it has a member that was walked.
  have hsole : ∀ entry ∈ entries,
      (∃ decls, (site.look entry.header).outcome = .ok decls) ∧
        (Progress.selectionOf entry).alone survey.walked = site.soleRegistry entry := by
    intro entry hentry
    obtain ⟨hclass, hsame⟩ := hentries entry hentry
    obtain ⟨target, qualified, record, hrecord, hname⟩ :=
      hwf.isExtracted_iff.1 (hmade entry hentry)
    rcases hstep.records_extractAll hsep (fun entry hentry => (hentries entry hentry).1) hnames
      hafter hmade hrecord with hold | ⟨other, hother, halone⟩
    · have hbefore := hstep.wellFormed.isExtracted_iff.2
        ⟨target, qualified, record, hold, hname⟩
      rw [hstep.isExtracted_of_new hnames hentry] at hbefore
      simp at hbefore
    · obtain ⟨hnative, decl, hdecl, kind, parent, hmember, _⟩ :=
        Selection.spec_of_classOf?_alone halone
      obtain rfl := hsep.name_inj hclass (hentries other hother).1
        (hnative.symm.trans hname)
      exact hsep.alone_eq hfirst hclass hsame hstep.closed hparse hroot hdecl
        (by simp [Selection.isMember, hmember])
  obtain ⟨hvisited, hwalked, hsettings⟩ := survey.extractAll_frame first.header survey.walked
    (entries.map Progress.selectionOf)
  rw [hafter] at hvisited hwalked hsettings
  refine ⟨hsettings.trans hstep.settings, ?_, hwf, ?_, ?_, ?_⟩
  · rw [hvisited, hwalked]
    exact hstep.closed
  · intro entry hentry
    rcases List.mem_append.1 hentry with hold | hadded
    · exact hstep.looked entry hold
    · exact (hsole entry hadded).1
  · intro entry hentry
    rcases List.mem_append.1 hentry with hold | hadded
    · rw [← hafter]
      exact Survey.isExtracted_extractAll hstep.wellFormed _ _ (hstep.extracted entry hold)
    · exact hmade entry hadded
  · intro target qualified record hrecord
    rcases hstep.records_extractAll hsep (fun entry hentry => (hentries entry hentry).1) hnames
      hafter hmade hrecord with hold | ⟨entry, hentry, halone⟩
    · obtain ⟨entry, hentry, made, hmade, heq⟩ := hstep.records target qualified record hold
      exact ⟨entry, List.mem_append_left _ hentry, made, hmade, heq⟩
    · rw [(hsole entry hentry).2] at halone
      exact ⟨entry, List.mem_append_right _ hentry, record, halone, rfl⟩

/-- Extracting the classes of one header, all with success, keeps a survey in step. -/
theorem InStep.extract (hstep : site.InStep done survey)
    (hsep : site.Separable classes parents) {first : ClassEntry} (hfirst : first ∈ classes)
    {entries : List ClassEntry}
    (hentries : ∀ entry ∈ entries,
      entry ∈ classes ∧ first.header.same entry.header = true)
    (hnames : ((done ++ entries).map ClassEntry.name).Nodup) {after : Step Unit}
    (hafter : survey.extract site.files site.frontend first.header
      (entries.map Progress.selectionOf) = after)
    (hok : after.outcome = .ok ())
    (hmade : ∀ entry ∈ entries, after.survey.registry.isExtracted entry.name = true) :
    site.InStep (done ++ entries) after.survey := by
  unfold Survey.extract at hafter
  cases hdecls : (survey.declsOf site.files site.frontend first.header).outcome with
  | error failure =>
      simp only [hdecls] at hafter
      subst hafter
      simp at hok
  | ok decls =>
      simp only [hdecls] at hafter
      subst hafter
      obtain ⟨hwalked, rfl, root, hparse, hroot⟩ := hstep.declsOf hsep hdecls
      exact hwalked.extractAll hsep hfirst hparse hroot hentries hnames rfl hmade

/-- Labelling a class keeps a survey in step. -/
theorem InStep.label (hstep : site.InStep done survey) {name space : String}
    {labelled : Survey} {interface : ClassInterface}
    (hlabel : survey.labelClass? name space = some (labelled, interface)) :
    site.InStep done labelled := by
  obtain ⟨found, labelRecord, hclass, _, rfl, hvisited, hwalked, hsettings, hwf, hclasses⟩ :=
    Survey.labelClass?_spec hstep.wellFormed hlabel
  refine ⟨hsettings.trans hstep.settings, ?_, hwf, hstep.looked, ?_, ?_⟩
  · rw [hvisited, hwalked]
    exact hstep.closed
  · intro entry hentry
    exact (Survey.isExtracted_labelClass? hstep.wellFormed hlabel entry.name).2
      (hstep.extracted entry hentry)
  · intro target qualified record hrecord
    rw [hclasses] at hrecord
    split at hrecord
    · next htarget =>
        subst htarget
        obtain ⟨rfl, rfl⟩ := Prod.mk.inj (Option.some.inj hrecord)
        obtain ⟨entry, hentry, made, hmade, heq⟩ := hstep.records _ _ _ hclass
        refine ⟨entry, hentry, made, hmade, ?_⟩
        rw [heq]
    · exact hstep.records target qualified record hrecord

/-- A record with the name of a class is the one that the class has alone. -/
theorem InStep.record_of_name (hstep : site.InStep done survey)
    (hsep : site.Separable classes parents) (hdone : ∀ entry ∈ done, entry ∈ classes)
    {entry : ClassEntry} (hentry : entry ∈ classes) {target qualified : String}
    {record : ClassInterface}
    (hclass : survey.registry.classOf? target = some (qualified, record))
    (hname : record.classType.nativeName = entry.name) :
    target = (parents entry.name).target ∧ (parents entry.name).name = entry.name ∧
      (∃ decls, (site.look entry.header).outcome = .ok decls) ∧
      ∃ made, (site.soleRegistry entry).classOf? target = some (qualified, made) ∧
        record = { made with space := record.space } := by
  obtain ⟨other, hother, made, hmade, hrecord⟩ := hstep.records target qualified record hclass
  have hnative : made.classType.nativeName = entry.name := by
    rw [← hname, hrecord]
  obtain rfl := hsep.name_inj hentry (hdone other hother)
    ((Selection.spec_of_classOf?_alone hmade).1.symm.trans hnative)
  obtain ⟨decls, hok⟩ := hstep.looked other hother
  obtain ⟨htarget, hparent⟩ := hsep.target_soleRegistry hentry hok hmade
  exact ⟨htarget, hparent, ⟨decls, hok⟩, made, hmade, hrecord⟩

/-- Classes that were all extracted have target names of their own. -/
theorem InStep.target_inj (hstep : site.InStep done survey)
    (hsep : site.Separable classes parents) (hdone : ∀ entry ∈ done, entry ∈ classes)
    {first second : ClassEntry} (hfirst : first ∈ done) (hsecond : second ∈ done)
    (htarget : (parents first.name).target = (parents second.name).target) :
    first = second := by
  obtain ⟨target, _, record, hclass, hname⟩ :=
    hstep.wellFormed.isExtracted_iff.1 (hstep.extracted first hfirst)
  obtain ⟨target', _, other, hother, hname'⟩ :=
    hstep.wellFormed.isExtracted_iff.1 (hstep.extracted second hsecond)
  obtain ⟨rfl, _⟩ := hstep.record_of_name hsep hdone (hdone first hfirst) hclass hname
  obtain ⟨rfl, _⟩ := hstep.record_of_name hsep hdone (hdone second hsecond) hother hname'
  rw [htarget, hother] at hclass
  obtain ⟨_, rfl⟩ := Prod.mk.inj (Option.some.inj hclass)
  exact hsep.name_inj (hdone second hsecond) (hdone first hfirst) (hname.symm.trans hname')

/-- A class that is labelled in a survey in step gets the record that it gets alone. -/
theorem InStep.label_alone (hstep : site.InStep done survey)
    (hsep : site.Separable classes parents) (hdone : ∀ entry ∈ done, entry ∈ classes)
    {entry : ClassEntry} (hentry : entry ∈ classes) {labelled : Survey}
    {interface : ClassInterface}
    (hlabel : survey.labelClass? entry.name entry.space = some (labelled, interface))
    {sole : Survey} (hsole : sole.registry = site.soleRegistry entry) :
    (∃ own, sole.labelClass? entry.name entry.space = some (own, interface)) ∧
      interface.classType.targetName = (parents entry.name).target ∧
      '/' ∉ (parents entry.name).target.toList := by
  obtain ⟨qualified, record, hclass, hname, rfl, _⟩ :=
    Survey.labelClass?_spec hstep.wellFormed hlabel
  obtain ⟨htarget, hparent, ⟨decls, hok⟩, made, hmade, hrecord⟩ :=
    hstep.record_of_name hsep hdone hentry hclass hname
  have hwf : sole.registry.WellFormed := by
    rw [hsole]
    exact Selection.wellFormed_alone _ _
  have hextracted : sole.registry.isExtracted entry.name = true := by
    have hown := hmade
    rw [← hsole] at hown
    rw [hrecord] at hname
    exact hwf.isExtracted_iff.2 ⟨_, qualified, made, hown, hname⟩
  obtain ⟨own, found, hfound⟩ := Survey.exists_labelClass?_iff.2 hextracted
  refine ⟨⟨own, ?_⟩, htarget, ?_⟩
  · -- Both labelled records have the target name of the one parent.
    obtain ⟨qualified', record', hclass', hname', rfl, _⟩ := Survey.labelClass?_spec hwf hfound
    rw [hsole] at hclass'
    have htarget' := (hsep.target_soleRegistry hentry hok hclass').1
    rw [htarget', ← htarget, hmade] at hclass'
    obtain ⟨_, rfl⟩ := Prod.mk.inj (Option.some.inj hclass')
    rw [hfound, hrecord]
  · refine not_mem_typeName _ ?_
    rw [hparent]
    exact hsep.plain entry hentry

end Sharing

end Site
end HeaderBindings
