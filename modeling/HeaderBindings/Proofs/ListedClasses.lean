import HeaderBindings.Program.Progress
import HeaderBindings.Proofs.ExactExtraction
import HeaderBindings.Proofs.RegistryGrowth

/-!
# Classes and the headers that list them

A batch run goes through groups of classes, one group for each header.  A name may be
listed by several groups.  The first of them makes the record of the class; the later
ones find the record and leave it alone, whatever their headers declare.

**Results.**
* `Registry.Evolves.targetOf?`: what a class is called does not change.
* `Registry.MadeFor.collect`: a new class is built from the declarations at hand.
* `Sourced.extractAll`: without recursion every class is built from the unit of the first
  header that lists it.
-/

namespace HeaderBindings

section Names

/-- The target name of the first record of a class with a given native name. -/
def Registry.targetOf? (registry : Registry) (nativeName : String) : Option String :=
  ((registry.records.map ClassInterface.names).find? fun names => names.2 = nativeName).map
    Prod.fst

/-- What a class is called does not change any more. -/
theorem Registry.Evolves.targetOf? {before after : Registry} (hevolves : before.Evolves after)
    {nativeName target : String} (hbefore : before.targetOf? nativeName = some target) :
    after.targetOf? nativeName = some target := by
  obtain ⟨names, hnames, rfl⟩ := Option.map_eq_some_iff.1 hbefore
  obtain ⟨added, hadded⟩ := hevolves.names_prefix
  unfold Registry.targetOf?
  rw [← hadded, List.find?_append, hnames]
  rfl

theorem Survey.targetOf?_of_labelClass? {survey labelled : Survey} {name space : String}
    {interface : ClassInterface}
    (hlabel : survey.labelClass? name space = some (labelled, interface)) :
    survey.registry.targetOf? name = some interface.classType.targetName := by
  unfold Survey.labelClass? at hlabel
  split at hlabel
  · simp at hlabel
  · next position hposition =>
      split at hlabel
      · simp at hlabel
      · next record hrecord =>
          obtain ⟨-, rfl⟩ := Prod.mk.inj (Option.some.inj hlabel)
          obtain ⟨hlt, hname, hfirst⟩ := List.findIdx?_eq_some_iff_getElem.1 hposition
          obtain ⟨_, rfl⟩ := List.getElem?_eq_some_iff.1 hrecord
          have hfind : survey.registry.records.find?
              (fun record => record.classType.nativeName = name) =
                some survey.registry.records[position] :=
            List.find?_eq_some_iff_getElem.2 ⟨hname, position, hlt, rfl, by simpa using hfirst⟩
          rw [Registry.targetOf?, List.find?_map]
          change ((survey.registry.records.find?
            (fun record => record.classType.nativeName = name)).map _).map _ = _
          rw [hfind]
          rfl

end Names

section Sources

/-- The first group that lists a class of some name. -/
def HeaderGroup.lister? (groups : List HeaderGroup) (name : String) : Option HeaderGroup :=
  groups.find? fun group => group.classes.any fun entry => entry.name = name

/-- Whether the methods of a class are those that some declarations contribute to it: the class is
the one of the first public member with its names. -/
def ClassType.IsBuiltFrom (classType : ClassType) (decls : List Decl) : Prop :=
  let selection : Selection := { className := classType.nativeName }
  ∃ parent, selection.firstParent? classType.targetName decls = some parent ∧
    classType.methods = selection.methodsFor classType.targetName parent.qualified decls

/-- Whether a class is built from the unit of the first header that lists its name. -/
def ClassType.IsListedFirst (frontend : Frontend) (groups : List HeaderGroup)
    (classType : ClassType) : Prop :=
  ∃ group unit, HeaderGroup.lister? groups classType.nativeName = some group ∧
    frontend.parse group.header = .ok unit ∧ classType.IsBuiltFrom unit.decls

/-- The declarations of the headers of a batch file. -/
def BatchConfig.unitDecls (config : BatchConfig) (frontend : Frontend) : List Decl :=
  config.groups.flatMap fun group =>
    match frontend.parse group.header with
    | .ok unit => unit.decls
    | .error _ => []

theorem BatchConfig.mem_unitDecls {config : BatchConfig} {frontend : Frontend}
    {group : HeaderGroup} (hgroup : group ∈ config.groups) {unit : SourceUnit}
    (hparse : frontend.parse group.header = .ok unit) {decl : Decl} (hdecl : decl ∈ unit.decls) :
    decl ∈ config.unitDecls frontend := by
  refine List.mem_flatMap.2 ⟨group, hgroup, ?_⟩
  simpa [hparse] using hdecl

theorem ClassType.IsListedFirst.append {frontend : Frontend} {done : List HeaderGroup}
    {classType : ClassType} (hlisted : classType.IsListedFirst frontend done)
    (groups : List HeaderGroup) : classType.IsListedFirst frontend (done ++ groups) := by
  obtain ⟨group, unit, hgroup, hunit, hbuilt⟩ := hlisted
  refine ⟨group, unit, ?_, hunit, hbuilt⟩
  unfold HeaderGroup.lister? at hgroup ⊢
  rw [List.find?_append, hgroup]
  rfl

/-- The group of a new name is the one that was added. -/
theorem HeaderGroup.lister?_concat {done : List HeaderGroup} {group : HeaderGroup} {name : String}
    (hnew : ∀ entry ∈ classesIn done, entry.name ≠ name)
    (hname : name ∈ group.classes.map ClassEntry.name) :
    lister? (done ++ [group]) name = some group := by
  have hnone : done.find? (fun group => group.classes.any fun entry => entry.name = name) =
      none := by
    rw [List.find?_eq_none]
    intro other hother hany
    obtain ⟨entry, hentry, heq⟩ := List.any_eq_true.1 hany
    exact hnew entry (List.mem_flatMap.2 ⟨other, hother, hentry⟩) (of_decide_eq_true heq)
  obtain ⟨entry, hentry, rfl⟩ := List.mem_map.1 hname
  have hany : (group.classes.any fun other => other.name = entry.name) = true :=
    List.any_eq_true.2 ⟨entry, hentry, by simp⟩
  rw [lister?, List.find?_append, hnone]
  simp [hany]

section Registries

variable {registry : Registry} {pool decls : List Decl} {name : String}

/-- Whether every class was made for a parent of one of some declarations. -/
def Registry.MadeFor (registry : Registry) (pool : List Decl) : Prop :=
  Survey.Sound { settings := {}, walked := pool, registry := registry }

/-- A class that is collected from some declarations is built from them, and the other classes
are left alone. -/
theorem Registry.MadeFor.collect (hmade : registry.MadeFor pool) (hnames : NamesAgree pool)
    (hdecls : ∀ decl ∈ decls, decl ∈ pool) (hnew : registry.isExtracted name = false) :
    let after := (HeaderBindings.collect { className := name } registry decls).1
    after.MadeFor pool ∧ ∀ target found, after.classOf? target = some found →
      registry.classOf? target = some found ∨
        found.2.classType.nativeName = name ∧ found.2.classType.IsBuiltFrom decls := by
  intro after
  let selection : Selection := { className := name }
  obtain ⟨hwf, hclass⟩ := hmade.wellFormed.collect selection decls
  have hcases : ∀ target found, after.classOf? target = some found →
      registry.classOf? target = some found ∨
        registry.classOf? target = none ∧
          ∃ parent, selection.firstParent? target decls = some parent ∧
            found = (parent.qualified, (ClassInterface.fresh target name).withMethods
              (selection.methodsFor target parent.qualified decls)) := by
    intro target found hfound
    rw [hclass] at hfound
    cases hbefore : registry.classOf? target with
    | none =>
        rw [hbefore, Selection.gather] at hfound
        obtain ⟨parent, hfirst, rfl⟩ := Option.map_eq_some_iff.1 hfound
        exact Or.inr ⟨rfl, parent, hfirst, rfl⟩
    | some old =>
        obtain ⟨qualified, record⟩ := old
        -- What all declarations contribute to an old class is nothing, so some contribute nothing.
        have hnone : selection.methodsFor target qualified pool = [] :=
          hmade.methodsFor_eq_nil hnames hnew hbefore
        have hpart : selection.methodsFor target qualified decls = [] := by
          rw [Selection.methodsFor, List.filterMap_eq_nil_iff] at hnone ⊢
          exact fun decl hdecl => hnone decl (hdecls decl hdecl)
        rw [hbefore, Selection.gather, hpart, ClassInterface.withMethods_nil] at hfound
        exact Or.inl hfound
  refine ⟨⟨hwf, ?_⟩, ?_⟩
  · intro target qualified record hfound
    rcases hcases target (qualified, record) hfound with hold | ⟨_, parent, hfirst, heq⟩
    · exact hmade.rooted target qualified record hold
    · obtain ⟨rfl, rfl⟩ := Prod.mk.inj heq
      obtain ⟨_, decl, hdecl, kind, hmember⟩ := Selection.exists_of_firstParent? hfirst
      obtain ⟨_, hparent, _, hname⟩ := Selection.member?_eq_some_iff.1 hmember
      exact ⟨decl, hdecls decl hdecl, parent, hparent, hname, rfl⟩
  · intro target found hfound
    rcases hcases target found hfound with hold | ⟨_, parent, hfirst, rfl⟩
    · exact Or.inl hold
    · exact Or.inr ⟨rfl, parent, hfirst, by simp [ClassInterface.fresh, selection]⟩

/-- Classes that are extracted from some declarations are built from them, unless they were
extracted before. -/
theorem Survey.extractAll_built {survey : Survey} (hmade : survey.registry.MadeFor pool)
    (hnames : NamesAgree pool) (hdecls : ∀ decl ∈ decls, decl ∈ pool) (header : Path)
    (entries : List ClassEntry) :
    let after := (survey.extractAll header decls (entries.map Progress.selectionOf)).1.registry
    after.MadeFor pool ∧ ∀ target found, after.classOf? target = some found →
      survey.registry.classOf? target = some found ∨
        survey.registry.isExtracted found.2.classType.nativeName = false ∧
          found.2.classType.nativeName ∈ entries.map ClassEntry.name ∧
            found.2.classType.IsBuiltFrom decls := by
  induction entries generalizing survey with
  | nil => exact ⟨hmade, fun target found hfound => Or.inl hfound⟩
  | cons entry entries ih =>
      rw [List.map_cons, extractAll_cons, extractOne_fst]
      split
      · obtain ⟨hafter, hcases⟩ := ih hmade
        refine ⟨hafter, fun target found hfound => ?_⟩
        rcases hcases target found hfound with hold | ⟨hnew, hname, hbuilt⟩
        · exact Or.inl hold
        · exact Or.inr ⟨hnew, List.mem_cons_of_mem _ hname, hbuilt⟩
      · next hnew =>
          have hnew : survey.registry.isExtracted entry.name = false := by
            simpa [Progress.selectionOf] using hnew
          let reached : Survey :=
            { survey with
              registry := (HeaderBindings.collect (Progress.selectionOf entry) survey.registry
                decls).1 }
          obtain ⟨hone, hfirst⟩ : reached.registry.MadeFor pool ∧ _ :=
            hmade.collect hnames hdecls hnew
          obtain ⟨hafter, hcases⟩ := ih hone
          refine ⟨hafter, fun target found hfound => ?_⟩
          rcases hcases target found hfound with hold | ⟨hlater, hname, hbuilt⟩
          · rcases hfirst target found hold with hold | ⟨hname, hbuilt⟩
            · exact Or.inl hold
            · exact Or.inr ⟨by rw [hname, hnew], by simp [hname], hbuilt⟩
          · refine Or.inr ⟨?_, List.mem_cons_of_mem _ hname, hbuilt⟩
            by_contra hold
            rw [Bool.not_eq_false] at hold
            have hkept := isExtracted_collect hmade.wellFormed (Progress.selectionOf entry) decls
              hold
            simp [reached, hkept] at hlater

end Registries

section Groups

/-- The registry after the classes of some groups were extracted without recursion: all of them
have records, and every class is built from the unit of the first header that lists it. -/
structure Sourced (frontend : Frontend) (pool : List Decl) (done : List HeaderGroup)
    (registry : Registry) : Prop where
  made : registry.MadeFor pool
  listed : ∀ entry ∈ HeaderGroup.classesIn done, registry.isExtracted entry.name = true
  built : ∀ target found, registry.classOf? target = some found →
    found.2.classType.IsListedFirst frontend done

namespace Sourced

variable {frontend : Frontend} {pool : List Decl} {done : List HeaderGroup} {survey : Survey}

theorem start (frontend : Frontend) (pool : List Decl) : Sourced frontend pool [] {} where
  made :=
    { wellFormed := Registry.wellFormed_empty
      rooted := by
        intro target qualified record hclass
        simp [Registry.classOf?] at hclass }
  listed := by simp [HeaderGroup.classesIn]
  built := by
    intro target found hclass
    simp [Registry.classOf?] at hclass

theorem wellFormed (hsourced : Sourced frontend pool done survey.registry) :
    survey.registry.WellFormed :=
  hsourced.made.wellFormed

/-- The classes of one more header are extracted from its unit.  A name that an earlier header
lists has a record and is left alone. -/
theorem extractAll (hsourced : Sourced frontend pool done survey.registry)
    (hnames : NamesAgree pool) {group : HeaderGroup} {unit : SourceUnit}
    (hparse : frontend.parse group.header = .ok unit) (hunit : ∀ decl ∈ unit.decls, decl ∈ pool)
    (hall : ∀ entry ∈ group.classes,
      (survey.extractAll group.header unit.decls
        (group.classes.map Progress.selectionOf)).1.registry.isExtracted entry.name = true) :
    Sourced frontend pool (done ++ [group])
      (survey.extractAll group.header unit.decls
        (group.classes.map Progress.selectionOf)).1.registry := by
  obtain ⟨hmade, hcases⟩ :=
    Survey.extractAll_built hsourced.made hnames hunit group.header group.classes
  refine ⟨hmade, ?_, ?_⟩
  · intro entry hentry
    rw [HeaderGroup.classesIn, List.flatMap_append, List.mem_append] at hentry
    rcases hentry with hold | hnew
    · exact Survey.isExtracted_extractAll hsourced.wellFormed _ _ (hsourced.listed entry hold)
    · exact hall entry (by simpa using hnew)
  · intro target found hfound
    rcases hcases target found hfound with hold | ⟨hnew, hname, hbuilt⟩
    · exact (hsourced.built target found hold).append [group]
    · refine ⟨group, unit, HeaderGroup.lister?_concat ?_ hname, hparse, hbuilt⟩
      intro entry hentry heq
      have hlisted := hsourced.listed entry hentry
      rw [heq, hnew] at hlisted
      simp at hlisted

/-- Labels do not matter. -/
theorem label (hsourced : Sourced frontend pool done survey.registry) {name space : String}
    {labelled : Survey} {interface : ClassInterface}
    (hlabel : survey.labelClass? name space = some (labelled, interface)) :
    Sourced frontend pool done labelled.registry ∧
      interface.classType.IsListedFirst frontend done := by
  obtain ⟨qualified, record, hclass, _, rfl, _, _, _, hwf, hclasses⟩ :=
    Survey.labelClass?_spec hsourced.wellFormed hlabel
  have hbefore : ∀ target found, labelled.registry.classOf? target = some found →
      ∃ old, survey.registry.classOf? target = some old ∧ found.1 = old.1 ∧
        found.2.classType = old.2.classType := by
    intro target found hfound
    rw [hclasses] at hfound
    split at hfound
    · next htarget =>
        obtain rfl := Option.some.inj hfound
        exact ⟨(qualified, record), htarget ▸ hclass, rfl, rfl⟩
    · exact ⟨found, hfound, rfl, rfl⟩
  refine ⟨⟨⟨hwf, ?_⟩, ?_, ?_⟩, hsourced.built _ _ hclass⟩
  · intro target found interface hfound
    obtain ⟨old, hold, hfirst, hsecond⟩ := hbefore target (found, interface) hfound
    obtain ⟨decl, hdecl, parent, hparent, hname, hqualified⟩ :=
      hsourced.made.rooted target old.1 old.2 hold
    exact ⟨decl, hdecl, parent, hparent, hsecond ▸ hname, hqualified.trans hfirst.symm⟩
  · intro entry hentry
    exact (Survey.isExtracted_labelClass? hsourced.wellFormed hlabel _).2
      (hsourced.listed entry hentry)
  · intro target found hfound
    obtain ⟨old, hold, _, hsecond⟩ := hbefore target found hfound
    rw [hsecond]
    exact hsourced.built target old hold

end Sourced

/-- Without recursion classes are extracted from the unit of the header. -/
theorem Survey.extract_of_plain {survey : Survey} {files : FileTree} {frontend : Frontend}
    {header : Path} {selections : List Selection}
    (hplain : survey.settings.isRecursive = false)
    (hok : (survey.extract files frontend header selections).outcome = .ok ()) :
    ∃ unit reached, frontend.parse header = .ok unit ∧
      Survey.registry reached = survey.registry ∧
      (survey.extract files frontend header selections).survey =
        (reached.extractAll header unit.decls selections).1 := by
  cases hparse : frontend.parse header with
  | error reason =>
      simp [Survey.extract, Survey.declsOf, hplain, Survey.parseAndWalk, hparse] at hok
  | ok unit =>
      refine ⟨unit, survey.markVisited files unit.path, rfl, rfl, ?_⟩
      simp [Survey.extract, Survey.declsOf, hplain, Survey.parseAndWalk, hparse, Survey.walk]

end Groups

end Sources

end HeaderBindings
