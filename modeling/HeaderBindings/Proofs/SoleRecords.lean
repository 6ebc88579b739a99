import HeaderBindings.Program.Writing
import HeaderBindings.Proofs.Calls
import HeaderBindings.Proofs.RegistryView

/-!
# Records that are made alone

The members of a class usually have one parent.  Such a class either gets a record
of its own, and this is the record that it gets in an empty registry, or it gets no
record at all: its members were refused, or they went into the record of another
class with the same target name.  Whoever asks for the record of every class finds
out.

**Results.**
* `collect_filter`: only the members among some declarations matter.
* `extractAll_alone`: if all selected classes have records in the end, each has the
  record that it has alone.
* `labelClass?_spec`: what labelling a class does to the registry.
-/

namespace HeaderBindings

section Members

/-- Whether a declaration is a member that fits a selection. -/
def Selection.isMember (selection : Selection) (decl : Decl) : Bool :=
  (selection.member? decl).isSome

/-- Whether all members among some declarations have the same parent. -/
def Selection.OneParent (selection : Selection) (decls : List Decl) (parent : Parent) : Prop :=
  ∀ decl ∈ decls, ∀ kind found, selection.member? decl = some (kind, found) → found = parent

/-- The registry that a selection fills when it is alone. -/
def Selection.alone (selection : Selection) (decls : List Decl) : Registry :=
  (collect selection {} decls).1

variable {selection : Selection} {registry : Registry} {decls : List Decl} {parent : Parent}

/-- Only the members among some declarations matter. -/
theorem collect_filter (selection : Selection) (registry : Registry) (decls : List Decl) :
    (collect selection registry decls).1 =
      (collect selection registry (decls.filter selection.isMember)).1 := by
  induction decls generalizing registry with
  | nil => rfl
  | cons decl decls ih =>
      cases hmember : selection.isMember decl with
      | true =>
          rw [List.filter_cons_of_pos hmember]
          exact ih (collectDecl selection registry decl).1
      | false =>
          have hnone : selection.member? decl = none := by
            simpa [Selection.isMember] using hmember
          rw [List.filter_cons_of_neg (by simp [hmember]), ← ih registry]
          change (collect selection (collectDecl selection registry decl).1 decls).1 = _
          rw [collectDecl_fst, hnone]

theorem Selection.wellFormed_alone (selection : Selection) (decls : List Decl) :
    (selection.alone decls).WellFormed :=
  (Registry.wellFormed_empty.collect selection decls).1

theorem Selection.classOf?_alone (selection : Selection) (decls : List Decl)
    (target : String) :
    (selection.alone decls).classOf? target = selection.gather target decls none :=
  (Registry.wellFormed_empty.collect selection decls).2 target

/-- A record that a selection makes alone has the name that was selected, and the target name of
the parent of some member. -/
theorem Selection.spec_of_classOf?_alone {target qualified : String} {record : ClassInterface}
    (hclass : (selection.alone decls).classOf? target = some (qualified, record)) :
    record.classType.nativeName = selection.className ∧
      ∃ decl ∈ decls, ∃ kind parent,
        selection.member? decl = some (kind, parent) ∧ parent.target = target := by
  rw [selection.classOf?_alone, Selection.gather] at hclass
  obtain ⟨parent, hfirst, heq⟩ := Option.map_eq_some_iff.1 hclass
  obtain ⟨_, rfl⟩ := Prod.mk.inj heq
  obtain ⟨htarget, decl, hdecl, kind, hmember⟩ := Selection.exists_of_firstParent? hfirst
  exact ⟨rfl, decl, hdecl, kind, parent, hmember, htarget⟩

/-- The class of another target name is left alone. -/
theorem Selection.OneParent.gather_of_ne (hone : selection.OneParent decls parent)
    {target : String} (hne : target ≠ parent.target)
    (found : Option (String × ClassInterface)) :
    selection.gather target decls found = found := by
  induction decls with
  | nil => exact selection.gather_nil target found
  | cons decl decls ih =>
      have hrest := ih fun other hother => hone other (List.mem_cons_of_mem _ hother)
      cases hmember : selection.member? decl with
      | none => rw [Selection.gather_cons_of_not_member hmember, hrest]
      | some member =>
          obtain ⟨kind, maker⟩ := member
          obtain rfl := hone decl List.mem_cons_self kind maker hmember
          rw [Selection.gather_cons_of_ne hmember hne, hrest]

/-- A selection makes records of its own class only. -/
theorem isExtracted_of_collect (hwf : registry.WellFormed) (selection : Selection)
    (decls : List Decl) {name : String}
    (hafter : (collect selection registry decls).1.isExtracted name = true) :
    registry.isExtracted name = true ∨ name = selection.className := by
  obtain ⟨hwf', hclass⟩ := hwf.collect selection decls
  obtain ⟨target, qualified, record, hfound, hname⟩ := hwf'.isExtracted_iff.1 hafter
  rw [hclass] at hfound
  cases hbefore : registry.classOf? target with
  | some found =>
      rw [hbefore, Selection.gather] at hfound
      obtain ⟨_, rfl⟩ := Prod.mk.inj (Option.some.inj hfound)
      exact Or.inl (hwf.isExtracted_iff.2 ⟨target, found.1, found.2, hbefore, hname⟩)
  | none =>
      rw [hbefore, Selection.gather] at hfound
      obtain ⟨maker, _, heq⟩ := Option.map_eq_some_iff.1 hfound
      obtain ⟨_, rfl⟩ := Prod.mk.inj heq
      exact Or.inr hname.symm

/-- No record is lost. -/
theorem isExtracted_collect (hwf : registry.WellFormed) (selection : Selection)
    (decls : List Decl) {name : String} (hbefore : registry.isExtracted name = true) :
    (collect selection registry decls).1.isExtracted name = true := by
  obtain ⟨hwf', hclass⟩ := hwf.collect selection decls
  obtain ⟨target, qualified, record, hfound, hname⟩ := hwf.isExtracted_iff.1 hbefore
  have hafter := hclass target
  rw [hfound, Selection.gather] at hafter
  exact hwf'.isExtracted_iff.2 ⟨target, qualified, _, hafter, hname⟩

/-- A class that gets a record gets the one that it gets alone, and leaves the others as they
are. -/
theorem collect_alone (hwf : registry.WellFormed) (hone : selection.OneParent decls parent)
    (hnew : registry.isExtracted selection.className = false)
    (hmade : (collect selection registry decls).1.isExtracted selection.className = true)
    {target : String} {found : String × ClassInterface}
    (hfound : (collect selection registry decls).1.classOf? target = some found) :
    registry.classOf? target = some found ∨
      (selection.alone decls).classOf? target = some found := by
  obtain ⟨hwf', hclass⟩ := hwf.collect selection decls
  by_cases htarget : target = parent.target
  · cases hbefore : registry.classOf? target with
    | none =>
        right
        rw [selection.classOf?_alone, ← hbefore, ← hclass]
        exact hfound
    | some old =>
        -- The members went into the record of another class, so the class has none.
        exfalso
        obtain ⟨other, qualified, record, hrecord, hname⟩ := hwf'.isExtracted_iff.1 hmade
        have hextracted : registry.isExtracted selection.className = true := by
          rw [hclass] at hrecord
          by_cases hother : other = parent.target
          · rw [hother, ← htarget, hbefore, Selection.gather] at hrecord
            obtain ⟨_, rfl⟩ := Prod.mk.inj (Option.some.inj hrecord)
            exact hwf.isExtracted_iff.2 ⟨target, old.1, old.2, hbefore, hname⟩
          · rw [hone.gather_of_ne hother] at hrecord
            exact hwf.isExtracted_iff.2 ⟨other, qualified, record, hrecord, hname⟩
        simp [hnew] at hextracted
  · left
    rw [hclass, hone.gather_of_ne htarget] at hfound
    exact hfound

end Members

namespace Survey

section Selections

variable {survey : Survey} {decls : List Decl}

theorem extractOne_wellFormed (hwf : survey.registry.WellFormed) (header : Path)
    (decls : List Decl) (selection : Selection) :
    (survey.extractOne header decls selection).1.registry.WellFormed := by
  rw [extractOne_fst]
  split
  · exact hwf
  · exact (hwf.collect selection decls).1

theorem extractAll_wellFormed {survey : Survey} (hwf : survey.registry.WellFormed)
    (header : Path) (decls : List Decl) (selections : List Selection) :
    (survey.extractAll header decls selections).1.registry.WellFormed := by
  induction selections generalizing survey with
  | nil => exact hwf
  | cons selection selections ih =>
      rw [extractAll_cons]
      exact ih (extractOne_wellFormed hwf header decls selection)

theorem extract_wellFormed (hwf : survey.registry.WellFormed) (files : FileTree)
    (frontend : Frontend) (header : Path) (selections : List Selection) :
    (survey.extract files frontend header selections).survey.registry.WellFormed := by
  have hwalk : (survey.declsOf files frontend header).survey.registry.WellFormed := by
    rw [(survey.declsOf_frame files frontend header).1]
    exact hwf
  unfold extract
  simp only
  split
  · exact hwalk
  · next decls _ => exact extractAll_wellFormed hwalk header decls selections

theorem isExtracted_of_extractOne (hwf : survey.registry.WellFormed) {header : Path}
    {selection : Selection} {name : String}
    (hafter : (survey.extractOne header decls selection).1.registry.isExtracted name = true) :
    survey.registry.isExtracted name = true ∨ name = selection.className := by
  rw [extractOne_fst] at hafter
  split at hafter
  · exact Or.inl hafter
  · exact isExtracted_of_collect hwf selection decls hafter

theorem isExtracted_extractAll {survey : Survey} (hwf : survey.registry.WellFormed)
    (header : Path) (selections : List Selection) {name : String}
    (hbefore : survey.registry.isExtracted name = true) :
    (survey.extractAll header decls selections).1.registry.isExtracted name = true := by
  induction selections generalizing survey with
  | nil => exact hbefore
  | cons selection selections ih =>
      rw [extractAll_cons]
      refine ih (extractOne_wellFormed hwf header decls selection) ?_
      rw [extractOne_fst]
      split
      · exact hbefore
      · exact isExtracted_collect hwf selection decls hbefore

theorem isExtracted_of_extractAll {survey : Survey} (hwf : survey.registry.WellFormed)
    {header : Path} {selections : List Selection} {name : String}
    (hafter : (survey.extractAll header decls selections).1.registry.isExtracted name = true) :
    survey.registry.isExtracted name = true ∨ name ∈ selections.map Selection.className := by
  induction selections generalizing survey with
  | nil => exact Or.inl hafter
  | cons selection selections ih =>
      rw [extractAll_cons] at hafter
      rcases ih (extractOne_wellFormed hwf header decls selection) hafter with hone | hlater
      · rcases isExtracted_of_extractOne hwf hone with hold | hname
        · exact Or.inl hold
        · exact Or.inr (by simp [hname])
      · exact Or.inr (List.mem_cons_of_mem _ hlater)

/-- If all selected classes have records in the end, each has the record that it has alone. -/
theorem extractAll_alone {survey : Survey} (hwf : survey.registry.WellFormed) {header : Path}
    {selections : List Selection}
    (hnodup : (selections.map Selection.className).Nodup)
    (hnew : ∀ selection ∈ selections,
      survey.registry.isExtracted selection.className = false)
    (hone : ∀ selection ∈ selections, ∃ parent, selection.OneParent decls parent)
    (hmade : ∀ selection ∈ selections,
      (survey.extractAll header decls selections).1.registry.isExtracted
        selection.className = true) :
    ∀ target found,
      (survey.extractAll header decls selections).1.registry.classOf? target = some found →
      survey.registry.classOf? target = some found ∨
        ∃ selection ∈ selections,
          (selection.alone decls).classOf? target = some found := by
  induction selections generalizing survey with
  | nil => exact fun target found hfound => Or.inl hfound
  | cons selection selections ih =>
      rw [List.map_cons, List.nodup_cons] at hnodup
      have hfirst := hnew selection List.mem_cons_self
      have hwf' := extractOne_wellFormed hwf header decls selection
      have hstep : (survey.extractOne header decls selection).1.registry =
          (HeaderBindings.collect selection survey.registry decls).1 := by
        rw [extractOne_fst, hfirst]
        rfl
      have hown : (survey.extractOne header decls selection).1.registry.isExtracted
          selection.className = true := by
        have hlast := hmade selection List.mem_cons_self
        rw [extractAll_cons] at hlast
        exact (isExtracted_of_extractAll hwf' hlast).resolve_right hnodup.1
      have hlater : ∀ other ∈ selections,
          (survey.extractOne header decls selection).1.registry.isExtracted
            other.className = false := by
        intro other hother
        by_contra hextracted
        rw [Bool.not_eq_false] at hextracted
        rcases isExtracted_of_extractOne hwf hextracted with hold | hname
        · simp [hnew other (List.mem_cons_of_mem _ hother)] at hold
        · exact hnodup.1 (hname ▸ List.mem_map_of_mem hother)
      intro target found hfound
      have hlast := ih hwf' hnodup.2 hlater
        (fun other hother => hone other (List.mem_cons_of_mem _ hother))
        (fun other hother => hmade other (List.mem_cons_of_mem _ hother)) target found hfound
      rcases hlast with hbefore | ⟨other, hother, halone⟩
      · obtain ⟨parent, hparent⟩ := hone selection List.mem_cons_self
        rw [hstep] at hbefore hown
        rcases collect_alone hwf hparent hfirst hown hbefore with hold | halone
        · exact Or.inl hold
        · exact Or.inr ⟨selection, List.mem_cons_self, halone⟩
      · exact Or.inr ⟨other, List.mem_cons_of_mem _ hother, halone⟩

end Selections

section Labels

variable {survey labelled : Survey} {name space : String} {interface : ClassInterface}

/-- Labelling changes the space of a record. -/
theorem modifyAt_label {registry : Registry} {position : Nat} {record : ClassInterface}
    (hrecord : registry.records[position]? = some record) (space : String) :
    registry.modifyAt position (fun _ => { record with space := space }) =
      registry.modifyAt position fun found => { found with space := space } := by
  have hmodify : registry.records.modify position (fun _ => { record with space := space }) =
      registry.records.modify position fun found => { found with space := space } := by
    apply List.ext_getElem?
    intro i
    rw [List.getElem?_modify, List.getElem?_modify]
    by_cases hi : position = i
    · subst hi
      simp [hrecord]
    · simp [hi]
  simp only [Registry.modifyAt, hmodify]

/-- A class is labelled if it has a record: this record gets the space and is given back. -/
theorem labelClass?_spec (hwf : survey.registry.WellFormed)
    (hlabel : survey.labelClass? name space = some (labelled, interface)) :
    ∃ qualified record,
      survey.registry.classOf? record.classType.targetName = some (qualified, record) ∧
      record.classType.nativeName = name ∧
      interface = { record with space := space } ∧
      labelled.visited = survey.visited ∧ labelled.walked = survey.walked ∧
      labelled.settings = survey.settings ∧
      labelled.registry.WellFormed ∧
      ∀ target, labelled.registry.classOf? target =
        if target = record.classType.targetName then some (qualified, interface)
        else survey.registry.classOf? target := by
  unfold labelClass? at hlabel
  split at hlabel
  · simp at hlabel
  · next position hposition =>
      split at hlabel
      · simp at hlabel
      · next record hrecord =>
          obtain ⟨rfl, rfl⟩ := Prod.mk.inj (Option.some.inj hlabel)
          obtain ⟨qualified, hlookup, hclass⟩ := hwf.exists_classOf? hrecord
          have hname : record.classType.nativeName = name := by
            obtain ⟨hlt, htest, _⟩ := List.findIdx?_eq_some_iff_getElem.1 hposition
            obtain ⟨_, hget⟩ := List.getElem?_eq_some_iff.1 hrecord
            rw [hget] at htest
            exact of_decide_eq_true htest
          refine ⟨qualified, record, hclass, hname, rfl, rfl, rfl, rfl, ?_, fun target => ?_⟩
          · rw [modifyAt_label hrecord]
            exact hwf.modifyAt position fun found => rfl
          · rw [modifyAt_label hrecord, hwf.classOf?_modifyAt hlookup]
            split
            · next htarget =>
                subst htarget
                rw [hclass]
                rfl
            · rfl

theorem exists_labelClass?_iff :
    (∃ labelled interface, survey.labelClass? name space = some (labelled, interface)) ↔
      survey.registry.isExtracted name = true := by
  have hsome : survey.registry.isExtracted name = true ↔
      ∃ position, survey.registry.positionOf? name = some position := by
    rw [← Option.isSome_iff_exists, Registry.positionOf?, List.findIdx?_isSome]
    rfl
  rw [hsome]
  unfold labelClass?
  constructor
  · rintro ⟨labelled, interface, hlabel⟩
    split at hlabel
    · simp at hlabel
    · next position hposition => exact ⟨position, hposition⟩
  · rintro ⟨position, hposition⟩
    obtain ⟨hlt, _, _⟩ := List.findIdx?_eq_some_iff_getElem.1 hposition
    rw [hposition]
    simp [List.getElem?_eq_getElem hlt]

/-- Labelling makes no record and loses none. -/
theorem isExtracted_labelClass? (hwf : survey.registry.WellFormed)
    (hlabel : survey.labelClass? name space = some (labelled, interface)) (other : String) :
    labelled.registry.isExtracted other = true ↔ survey.registry.isExtracted other = true := by
  obtain ⟨qualified, record, hclass, _, rfl, _, _, _, hwf', hclasses⟩ :=
    labelClass?_spec hwf hlabel
  constructor
  · intro hafter
    obtain ⟨target, found, extracted, hextracted, hname⟩ := hwf'.isExtracted_iff.1 hafter
    rw [hclasses] at hextracted
    split at hextracted
    · obtain ⟨_, rfl⟩ := Prod.mk.inj (Option.some.inj hextracted)
      exact hwf.isExtracted_iff.2 ⟨_, qualified, record, hclass, hname⟩
    · exact hwf.isExtracted_iff.2 ⟨target, found, extracted, hextracted, hname⟩
  · intro hbefore
    obtain ⟨target, found, extracted, hextracted, hname⟩ := hwf.isExtracted_iff.1 hbefore
    by_cases htarget : target = record.classType.targetName
    · rw [htarget, hclass] at hextracted
      obtain ⟨_, rfl⟩ := Prod.mk.inj (Option.some.inj hextracted)
      have hlabelled := hclasses record.classType.targetName
      rw [if_pos rfl] at hlabelled
      exact hwf'.isExtracted_iff.2 ⟨_, qualified, _, hlabelled, hname⟩
    · have hkept := hclasses target
      rw [if_neg htarget, hextracted] at hkept
      exact hwf'.isExtracted_iff.2 ⟨target, found, extracted, hkept, hname⟩

end Labels

end Survey
end HeaderBindings
