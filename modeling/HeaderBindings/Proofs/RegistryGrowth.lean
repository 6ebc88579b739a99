import HeaderBindings.Proofs.SoleRecords
import Mathlib.Logic.Relation

/-!
# The registry under all operations

Whatever is done with a survey, its registry changes in two ways only: a record is
made for a target name that has none, or a record is changed that keeps its names and
its methods and may get more of them.  Operations that fail are no exception.

**Changes.**  `Registry.Change` is one such change and `Registry.Evolves` any number of
them.  Each operation is shown once to be made of changes; what holds of every
reachable registry then follows from what one change does.

**Results.**
* `Registry.Evolves.wellFormed`: changes keep a registry well formed.
* `Registry.Evolves.kept`: records never move or disappear.
* `Operation.evolves`: every operation is made of changes.
* `Operation.registry_indexed`: index and records of a survey stay in step, and records
  only grow.
-/

namespace HeaderBindings

section Records

/-- A record and what became of it: its names are the same, and methods were only added. -/
structure ClassInterface.Continues (before after : ClassInterface) : Prop where
  targetName : after.classType.targetName = before.classType.targetName
  nativeName : after.classType.nativeName = before.classType.nativeName
  methods : before.classType.methods <+: after.classType.methods

theorem ClassInterface.Continues.refl (record : ClassInterface) : record.Continues record :=
  ⟨rfl, rfl, List.prefix_rfl⟩

theorem ClassInterface.Continues.trans {first second third : ClassInterface}
    (hfirst : first.Continues second) (hsecond : second.Continues third) :
    first.Continues third :=
  ⟨hsecond.targetName.trans hfirst.targetName, hsecond.nativeName.trans hfirst.nativeName,
    hfirst.methods.trans hsecond.methods⟩

theorem ClassInterface.continues_withMethod (method : Method) (record : ClassInterface) :
    record.Continues (Registry.withMethod method record) :=
  ⟨rfl, rfl, List.prefix_append _ _⟩

theorem ClassInterface.continues_label (space : String) (record : ClassInterface) :
    record.Continues { record with space := space } :=
  ⟨rfl, rfl, List.prefix_rfl⟩

/-- The two names of the class of a record. -/
def ClassInterface.names (record : ClassInterface) : String × String :=
  (record.classType.targetName, record.classType.nativeName)

end Records

namespace Registry

section Changes

/-- One change of a registry. -/
inductive Change : Registry → Registry → Prop
  | create {registry : Registry} {target : String} (qualified nativeName : String) :
      registry.index.lookup target = none →
      Change registry (registry.create target qualified nativeName).1
  | modify {registry : Registry} (position : Nat) {change : ClassInterface → ClassInterface} :
      (∀ record : ClassInterface, record.Continues (change record)) →
      Change registry (registry.modifyAt position change)

/-- A registry and what became of it after any number of changes. -/
def Evolves : Registry → Registry → Prop :=
  Relation.ReflTransGen Change

variable {before after registry : Registry}

theorem Evolves.refl (registry : Registry) : registry.Evolves registry :=
  Relation.ReflTransGen.refl

theorem Evolves.trans {middle : Registry} (hfirst : before.Evolves middle)
    (hsecond : middle.Evolves after) : before.Evolves after :=
  Relation.ReflTransGen.trans hfirst hsecond

theorem Change.evolves (hchange : before.Change after) : before.Evolves after :=
  Relation.ReflTransGen.single hchange

theorem Change.wellFormed (hchange : before.Change after) (hwf : before.WellFormed) :
    after.WellFormed := by
  cases hchange with
  | create qualified nativeName hnone => exact hwf.create hnone qualified nativeName
  | modify position hkeeps => exact hwf.modifyAt position fun record => (hkeeps record).targetName

/-- Changes keep a registry well formed. -/
theorem Evolves.wellFormed (hevolves : before.Evolves after) (hwf : before.WellFormed) :
    after.WellFormed := by
  induction hevolves with
  | refl => exact hwf
  | tail _ hchange ih => exact hchange.wellFormed ih

/-- A change leaves every record at its position. -/
theorem Change.kept (hchange : before.Change after) {position : Nat} {record : ClassInterface}
    (hrecord : before.records[position]? = some record) :
    ∃ later, after.records[position]? = some later ∧ record.Continues later := by
  cases hchange with
  | @create target qualified nativeName _ =>
      have hlt := (List.getElem?_eq_some_iff.1 hrecord).1
      refine ⟨record, ?_, .refl record⟩
      rw [Registry.create, List.getElem?_append_left hlt, hrecord]
  | @modify changed change hkeeps =>
      by_cases hposition : changed = position
      · refine ⟨change record, ?_, hkeeps record⟩
        simp [Registry.modifyAt, hposition, hrecord]
      · refine ⟨record, ?_, .refl record⟩
        rw [Registry.modifyAt, List.getElem?_modify_ne _ _ hposition, hrecord]

/-- Records never move or disappear. -/
theorem Evolves.kept (hevolves : before.Evolves after) {position : Nat}
    {record : ClassInterface} (hrecord : before.records[position]? = some record) :
    ∃ later, after.records[position]? = some later ∧ record.Continues later := by
  induction hevolves with
  | refl => exact ⟨record, hrecord, .refl record⟩
  | tail _ hchange ih =>
      obtain ⟨middle, hmiddle, hfirst⟩ := ih
      obtain ⟨later, hlater, hsecond⟩ := hchange.kept hmiddle
      exact ⟨later, hlater, hfirst.trans hsecond⟩

/-- The names of the records of a registry are the first ones of what became of it. -/
theorem Evolves.names_prefix (hevolves : before.Evolves after) :
    before.records.map ClassInterface.names <+: after.records.map ClassInterface.names := by
  rw [List.prefix_iff_getElem?]
  intro position hposition
  rw [List.length_map] at hposition
  obtain ⟨later, hlater, hkeeps⟩ := hevolves.kept (List.getElem?_eq_getElem hposition)
  rw [List.getElem?_map, hlater, List.getElem_map, Option.map_some, ClassInterface.names,
    ClassInterface.names, hkeeps.targetName, hkeeps.nativeName]

end Changes

section Primitives

variable {registry found : Registry} {position : Nat} {parent : Parent}

theorem evolves_addMethod (registry : Registry) (position : Nat) (method : Method) :
    registry.Evolves (registry.addMethod position method) :=
  (Change.modify position fun record => record.continues_withMethod method).evolves

theorem evolves_addMethods (registry : Registry) (position : Nat) (methods : List Method) :
    registry.Evolves (methods.foldl (fun found => found.addMethod position) registry) := by
  induction methods generalizing registry with
  | nil => exact .refl registry
  | cons method methods ih =>
      exact (registry.evolves_addMethod position method).trans
        (ih (registry.addMethod position method))

/-- Asking for the record of a class makes it or changes nothing. -/
theorem evolves_findOrCreate (hfound : registry.findOrCreate parent = .ok (found, position)) :
    registry.Evolves found := by
  unfold findOrCreate at hfound
  simp only at hfound
  split at hfound
  · next hnone =>
      obtain ⟨rfl, _⟩ := Prod.mk.inj (Except.ok.inj hfound)
      exact (Change.create _ _ hnone).evolves
  · split at hfound
    · obtain ⟨rfl, _⟩ := Prod.mk.inj (Except.ok.inj hfound)
      exact .refl registry
    · simp at hfound

theorem evolves_setSpace? {target space : String}
    (hlabel : registry.setSpace? target space = some found) : registry.Evolves found := by
  unfold setSpace? at hlabel
  split at hlabel
  · simp at hlabel
  · obtain rfl := Option.some.inj hlabel
    exact (Change.modify _ fun record => record.continues_label space).evolves

end Primitives

section Members

theorem evolves_recordMember (registry : Registry) (decl : Decl) (kind : MethodKind)
    (parent : Parent) : registry.Evolves (recordMember registry decl kind parent).1 := by
  unfold recordMember
  split
  · next found position hfound =>
      exact (evolves_findOrCreate hfound).trans (found.evolves_addMethod position _)
  · exact .refl registry

theorem evolves_collect (selection : Selection) (registry : Registry) (decls : List Decl) :
    registry.Evolves (collect selection registry decls).1 := by
  induction decls generalizing registry with
  | nil => exact .refl registry
  | cons decl decls ih =>
      have hdecl : registry.Evolves (collectDecl selection registry decl).1 := by
        rw [collectDecl_fst]
        split
        · exact .refl registry
        · exact registry.evolves_recordMember decl _ _
      exact hdecl.trans (ih (collectDecl selection registry decl).1)

end Members

section Shape

/-- The index and the records are in bijection: an index entry leads to the record that has its
target name. -/
structure Indexed (registry : Registry) : Prop where
  /-- The index is a map. -/
  keys_nodup : (registry.index.map Prod.fst).Nodup
  in_range : ∀ entry ∈ registry.index, entry.2.position < registry.records.length
  positions_inj : ∀ first ∈ registry.index, ∀ second ∈ registry.index,
    first.2.position = second.2.position → first = second
  covered : ∀ position < registry.records.length,
    ∃ entry ∈ registry.index, entry.2.position = position
  named : ∀ entry ∈ registry.index, ∀ record,
    registry.records[entry.2.position]? = some record →
      record.classType.targetName = entry.1

variable {registry : Registry}

theorem WellFormed.indexed (hwf : registry.WellFormed) : registry.Indexed where
  keys_nodup := hwf.nodup
  in_range := by
    intro entry hentry
    obtain ⟨_, record, hrecord, _⟩ := hwf.getElem?_of_mem hentry
    exact (List.getElem?_eq_some_iff.1 hrecord).1
  positions_inj := by
    intro first hfirst second hsecond hposition
    have hone := (hwf.getElem?_of_mem hfirst).1
    have htwo := (hwf.getElem?_of_mem hsecond).1
    rw [hposition, htwo] at hone
    exact (Option.some.inj hone).symm
  covered := by
    intro position hposition
    have hmem : position ∈ registry.index.map fun entry => entry.2.position := by
      rw [hwf.positions]
      exact List.mem_range.2 hposition
    exact List.mem_map.1 hmem
  named := by
    intro entry hentry record hrecord
    obtain ⟨_, found, hfound, hname⟩ := hwf.getElem?_of_mem hentry
    rw [hrecord] at hfound
    rw [Option.some.inj hfound, hname]

theorem WellFormed.nodup_targetNames (hwf : registry.WellFormed) :
    (registry.records.map fun record => record.classType.targetName).Nodup :=
  hwf.keys ▸ hwf.nodup

/-- Looking up a target name gives the record of that name, if there is one. -/
theorem WellFormed.interface?_eq_some_iff (hwf : registry.WellFormed) {target : String}
    {record : ClassInterface} :
    registry.interface? target = some record ↔
      record ∈ registry.records ∧ record.classType.targetName = target := by
  constructor
  · intro hrecord
    unfold interface? at hrecord
    split at hrecord
    · simp at hrecord
    · next slot hslot =>
        exact ⟨List.mem_of_getElem? hrecord,
          hwf.indexed.named (target, slot) (mem_index_of_lookup hslot) record hrecord⟩
  · rintro ⟨hmem, rfl⟩
    obtain ⟨position, hposition⟩ := List.getElem?_of_mem hmem
    obtain ⟨qualified, hlookup, _⟩ := hwf.exists_classOf? hposition
    rw [interface?, hlookup]
    exact hposition

end Shape

end Registry

section Surveys

variable (survey : Survey)

theorem Survey.evolves_extractAll (header : Path) (decls : List Decl)
    (selections : List Selection) :
    survey.registry.Evolves (survey.extractAll header decls selections).1.registry := by
  induction selections generalizing survey with
  | nil => exact .refl survey.registry
  | cons selection selections ih =>
      have hone :
          survey.registry.Evolves (survey.extractOne header decls selection).1.registry := by
        rw [Survey.extractOne_fst]
        split
        · exact .refl survey.registry
        · exact Registry.evolves_collect selection survey.registry decls
      rw [Survey.extractAll_cons]
      exact hone.trans (ih (survey.extractOne header decls selection).1)

/-- A call changes the registry after its walk only, and only if the walk succeeds. -/
theorem ExtractCall.evolves (call : ExtractCall) :
    survey.registry.Evolves (call.step survey).survey.registry := by
  have hwalk : (call.afterWalk survey).registry = survey.registry :=
    (survey.declsOf_frame call.files call.frontend call.header).1
  rw [← hwalk]
  cases hdecls : (survey.declsOf call.files call.frontend call.header).outcome with
  | error failure =>
      rw [ExtractCall.step_of_error hdecls]
      exact .refl _
  | ok decls =>
      rw [ExtractCall.step_of_ok hdecls]
      exact (call.afterWalk survey).evolves_extractAll call.header decls call.selections

theorem Survey.evolves_labelClass? {name space : String} {labelled : Survey}
    {interface : ClassInterface}
    (hlabel : survey.labelClass? name space = some (labelled, interface)) :
    survey.registry.Evolves labelled.registry := by
  unfold Survey.labelClass? at hlabel
  split at hlabel
  · simp at hlabel
  · split at hlabel
    · simp at hlabel
    · next record hrecord =>
        obtain ⟨rfl, _⟩ := Prod.mk.inj (Option.some.inj hlabel)
        rw [Survey.modifyAt_label hrecord]
        exact (Registry.Change.modify _ fun found => found.continues_label space).evolves

/-- Writing a class labels its record, also if the file cannot be written. -/
theorem Survey.evolves_writeClass (files : FileTree) (header : Path) (selection : Selection)
    (space : String) (output : Option Path) (outputDir : Path) :
    survey.registry.Evolves
      (survey.writeClass files header selection space output outputDir).survey.registry := by
  unfold Survey.writeClass
  split
  · exact .refl survey.registry
  · next labelled interface hlabel =>
      have hevolves := survey.evolves_labelClass? hlabel
      simp only
      split
      · exact hevolves
      · split <;> exact hevolves

end Surveys

section Operations

/-- An operation that records members of classes: declarations are handed over, or a header is
walked. -/
inductive Gathering where
  | collect (selection : Selection) (decls : List Decl)
  | extract (call : ExtractCall)

/-- The survey after members were recorded, and what was said meanwhile. -/
def Gathering.perform (survey : Survey) : Gathering → Survey × List Event
  | .collect selection decls => survey.collect selection decls
  | .extract call => ((call.step survey).survey, (call.step survey).events)

/-- Anything that can be done with a survey, in the files and with the frontend of the moment. -/
inductive Operation where
  | walk (files : FileTree) (frontend : Frontend) (unit : SourceUnit)
  /-- Asks for the record of a class and adds methods to it. -/
  | request (parent : Parent) (methods : List Method)
  | gather (gathering : Gathering)
  | setSpace (target space : String)
  | write (files : FileTree) (header : Path) (selection : Selection) (space : String)
      (output : Option Path) (outputDir : Path)

namespace Operation

/-- The survey after an operation, which may have failed. -/
def perform (survey : Survey) : Operation → Survey
  | .walk files frontend unit => (survey.walk files frontend unit).survey
  | .request parent methods =>
      match survey.registry.findOrCreate parent with
      | .error _ => survey
      | .ok (found, position) =>
          { survey with
            registry := methods.foldl (fun registry => registry.addMethod position) found }
  | .gather gathering => (gathering.perform survey).1
  | .setSpace target space =>
      match survey.registry.setSpace? target space with
      | none => survey
      | some labelled => { survey with registry := labelled }
  | .write files header selection space output outputDir =>
      (survey.writeClass files header selection space output outputDir).survey

/-- The survey after some operations. -/
def performAll (survey : Survey) (operations : List Operation) : Survey :=
  operations.foldl perform survey

/-- Every operation is made of changes. -/
theorem evolves (survey : Survey) (operation : Operation) :
    survey.registry.Evolves (operation.perform survey).registry := by
  cases operation with
  | walk files frontend unit =>
      rw [perform, (survey.walk_frame files frontend unit).1]
      exact .refl survey.registry
  | request parent methods =>
      simp only [perform]
      split
      · exact .refl survey.registry
      · next found position hfound =>
          exact (Registry.evolves_findOrCreate hfound).trans
            (found.evolves_addMethods position methods)
  | gather gathering =>
      cases gathering with
      | collect selection decls => exact survey.registry.evolves_collect selection decls
      | extract call => exact call.evolves survey
  | setSpace target space =>
      simp only [perform]
      split
      · exact .refl survey.registry
      · next labelled hlabel => exact Registry.evolves_setSpace? hlabel
  | write files header selection space output outputDir =>
      exact survey.evolves_writeClass files header selection space output outputDir

theorem evolves_performAll (survey : Survey) (operations : List Operation) :
    survey.registry.Evolves (performAll survey operations).registry := by
  induction operations generalizing survey with
  | nil => exact .refl survey.registry
  | cons operation operations ih =>
      exact (operation.evolves survey).trans (ih (operation.perform survey))

/-- **Index and records stay in step.**  After any operations on a new survey the index and the
records are in bijection, target names are different, and a target name leads to the record that
has it.  Compared with any earlier moment, every record stands where it stood, with the names
that it had and with the methods that it had in front. -/
theorem registry_indexed (settings : Settings) (earlier later : List Operation) :
    let before := (performAll { settings := settings } earlier).registry
    let after := (performAll { settings := settings } (earlier ++ later)).registry
    after.Indexed ∧
      (after.records.map fun record => record.classType.targetName).Nodup ∧
      (∀ target slot, after.index.lookup target = some slot →
        slot.position < after.records.length) ∧
      (∀ target record, after.interface? target = some record ↔
        record ∈ after.records ∧ record.classType.targetName = target) ∧
      before.records.map ClassInterface.names <+: after.records.map ClassInterface.names ∧
      ∀ (position : Nat) (record : ClassInterface), before.records[position]? = some record →
        ∃ kept, after.records[position]? = some kept ∧
          record.classType.methods <+: kept.classType.methods := by
  intro before after
  have hwf : after.WellFormed :=
    (evolves_performAll _ _).wellFormed Registry.wellFormed_empty
  have hevolves : before.Evolves after := by
    simp only [before, after, performAll, List.foldl_append]
    exact evolves_performAll _ later
  refine ⟨hwf.indexed, hwf.nodup_targetNames, ?_, fun target record =>
    hwf.interface?_eq_some_iff, hevolves.names_prefix, ?_⟩
  · intro target slot hlookup
    exact hwf.indexed.in_range (target, slot) (Registry.mem_index_of_lookup hlookup)
  · intro position record hrecord
    obtain ⟨kept, hkept, hkeeps⟩ := hevolves.kept hrecord
    exact ⟨kept, hkept, hkeeps.methods⟩

end Operation

end Operations

end HeaderBindings
