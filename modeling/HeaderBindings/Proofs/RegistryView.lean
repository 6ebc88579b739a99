import HeaderBindings.Extraction
import Mathlib.Data.List.Nodup

/-!
# The registry as a map

A registry keeps records in a list and finds them through an index.  Seen from
outside it is a map: a target name leads to a record and to the qualified name
that the record was made for.

**Invariant.**  In a *well-formed* registry the index lists the records in their
order, and no two records have the same target name.  The empty registry is well
formed and every operation keeps it so.

**Results.**
* `Registry.WellFormed.recordMember`: recording a member changes the class of one
  target name, or none at all.
* `Registry.WellFormed.collect`: what collecting a list of declarations does to the class of a
  target name.
-/

namespace HeaderBindings
namespace Registry

section Shape

/-- The index lists the records in their order, and their target names are different. -/
structure WellFormed (registry : Registry) : Prop where
  keys : registry.index.map Prod.fst =
    registry.records.map fun record => record.classType.targetName
  positions : (registry.index.map fun entry => entry.2.position) =
    List.range registry.records.length
  nodup : (registry.index.map Prod.fst).Nodup

/-- The class of a target name: the qualified name that it was made for and its record. -/
def classOf? (registry : Registry) (target : String) : Option (String × ClassInterface) :=
  match registry.index.lookup target with
  | none => none
  | some slot => (registry.records[slot.position]?).map fun record => (slot.qualified, record)

theorem wellFormed_empty : WellFormed {} where
  keys := rfl
  positions := rfl
  nodup := List.nodup_nil

variable {registry : Registry}

theorem mem_index_of_lookup {target : String} {slot : Slot}
    (hlookup : registry.index.lookup target = some slot) : (target, slot) ∈ registry.index := by
  obtain ⟨before, after, hindex, _⟩ := List.lookup_eq_some_iff.1 hlookup
  rw [hindex]
  simp

/-- The index of a well-formed registry leads to the record with the target name. -/
theorem WellFormed.getElem?_of_mem (hwf : registry.WellFormed) {target : String} {slot : Slot}
    (hmem : (target, slot) ∈ registry.index) :
    registry.index[slot.position]? = some (target, slot) ∧
      ∃ record, registry.records[slot.position]? = some record ∧
        record.classType.targetName = target := by
  obtain ⟨i, hi⟩ := List.getElem?_of_mem hmem
  have hposition := congrArg (fun list => list[i]?) hwf.positions
  have hkey := congrArg (fun list => list[i]?) hwf.keys
  simp only [List.getElem?_map, hi, Option.map_some] at hposition hkey
  have hslot : slot.position = i := by
    obtain ⟨_, heq⟩ := List.getElem?_eq_some_iff.1 hposition.symm
    simpa using heq.symm
  obtain ⟨record, hrecord, htarget⟩ := Option.map_eq_some_iff.1 hkey.symm
  rw [hslot]
  exact ⟨hi, record, hrecord, htarget⟩

/-- In a well-formed registry every entry of the index is the one that is found. -/
theorem WellFormed.lookup_of_mem (hwf : registry.WellFormed) {target : String} {slot : Slot}
    (hmem : (target, slot) ∈ registry.index) : registry.index.lookup target = some slot := by
  obtain ⟨before, after, hindex⟩ := List.append_of_mem hmem
  refine List.lookup_eq_some_iff.2 ⟨before, after, hindex, ?_⟩
  intro entry hentry
  have hnodup := hwf.nodup
  rw [hindex, List.map_append, List.nodup_append] at hnodup
  have hne := hnodup.2.2 entry.1 (List.mem_map_of_mem hentry) target (by simp)
  simpa using Ne.symm hne

/-- Every record of a well-formed registry is the class of its target name. -/
theorem WellFormed.exists_classOf? (hwf : registry.WellFormed) {position : Nat}
    {record : ClassInterface} (hrecord : registry.records[position]? = some record) :
    ∃ qualified,
      registry.index.lookup record.classType.targetName = some ⟨position, qualified⟩ ∧
        registry.classOf? record.classType.targetName = some (qualified, record) := by
  have hkey := congrArg (fun list => list[position]?) hwf.keys
  simp only [List.getElem?_map, hrecord, Option.map_some] at hkey
  obtain ⟨⟨target, slot⟩, hentry, htarget⟩ := Option.map_eq_some_iff.1 hkey
  simp only at htarget
  subst htarget
  have hlookup := hwf.lookup_of_mem (List.mem_of_getElem? hentry)
  -- The entry stands at the position that it names.
  have hslot : slot.position = position := by
    have hposition := congrArg (fun list => list[position]?) hwf.positions
    simp only [List.getElem?_map, hentry, Option.map_some] at hposition
    obtain ⟨_, heq⟩ := List.getElem?_eq_some_iff.1 hposition.symm
    simpa using heq.symm
  obtain ⟨_, qualified⟩ := slot
  subst hslot
  exact ⟨qualified, hlookup, by simp [classOf?, hlookup, hrecord]⟩

/-- A class that is found has the target name that it is found under. -/
theorem WellFormed.targetName_of_classOf? (hwf : registry.WellFormed)
    {target qualified : String} {record : ClassInterface}
    (hclass : registry.classOf? target = some (qualified, record)) :
    record ∈ registry.records ∧ record.classType.targetName = target := by
  unfold classOf? at hclass
  split at hclass
  · simp at hclass
  · next slot hlookup =>
      obtain ⟨found, hfound, heq⟩ := Option.map_eq_some_iff.1 hclass
      obtain ⟨_, rfl⟩ := Prod.mk.inj heq
      obtain ⟨_, other, hother, htarget⟩ := hwf.getElem?_of_mem (mem_index_of_lookup hlookup)
      rw [hfound] at hother
      obtain rfl := Option.some.inj hother
      exact ⟨List.mem_of_getElem? hfound, htarget⟩

theorem WellFormed.classOf?_eq_none_iff (hwf : registry.WellFormed) {target : String} :
    registry.classOf? target = none ↔ registry.index.lookup target = none := by
  unfold classOf?
  split
  · next hlookup => simp [hlookup]
  · next slot hlookup =>
      obtain ⟨_, record, hrecord, _⟩ := hwf.getElem?_of_mem (mem_index_of_lookup hlookup)
      simp [hlookup, hrecord]

/-- Whether a class was extracted can be seen in the map. -/
theorem WellFormed.isExtracted_iff (hwf : registry.WellFormed) {nativeName : String} :
    registry.isExtracted nativeName = true ↔
      ∃ target qualified record, registry.classOf? target = some (qualified, record) ∧
        record.classType.nativeName = nativeName := by
  simp only [isExtracted, List.any_eq_true, decide_eq_true_eq]
  constructor
  · rintro ⟨record, hmem, hname⟩
    obtain ⟨position, hposition⟩ := List.getElem?_of_mem hmem
    obtain ⟨qualified, _, hclass⟩ := hwf.exists_classOf? hposition
    exact ⟨_, qualified, record, hclass, hname⟩
  · rintro ⟨target, qualified, record, hclass, hname⟩
    exact ⟨record, (hwf.targetName_of_classOf? hclass).1, hname⟩

end Shape

section Operations

variable {registry : Registry}

theorem WellFormed.create (hwf : registry.WellFormed) {target : String}
    (hnone : registry.index.lookup target = none) (qualified nativeName : String) :
    (registry.create target qualified nativeName).1.WellFormed where
  keys := by simp [Registry.create, hwf.keys, ClassInterface.fresh]
  positions := by simp [Registry.create, hwf.positions, List.range_succ]
  nodup := by
    simp only [Registry.create, List.map_append, List.map_cons, List.map_nil]
    rw [List.nodup_append]
    refine ⟨hwf.nodup, List.nodup_singleton _, ?_⟩
    intro key hkey other hother
    obtain rfl := List.mem_singleton.1 hother
    obtain ⟨entry, hentry, rfl⟩ := List.mem_map.1 hkey
    have hne := List.lookup_eq_none_iff.1 hnone entry hentry
    simpa using Ne.symm (by simpa using hne)

theorem WellFormed.modifyAt (hwf : registry.WellFormed) (position : Nat)
    {change : ClassInterface → ClassInterface}
    (hchange : ∀ record, (change record).classType.targetName = record.classType.targetName) :
    (registry.modifyAt position change).WellFormed where
  keys := by
    rw [Registry.modifyAt, hwf.keys]
    apply List.ext_getElem?
    intro i
    simp only [List.getElem?_map, List.getElem?_modify]
    cases registry.records[i]? with
    | none => simp
    | some record => by_cases hi : position = i <;> simp [hi, hchange]
  positions := by simp [Registry.modifyAt, hwf.positions]
  nodup := hwf.nodup

/-- Making a record gives its target name a class and leaves the other classes alone. -/
theorem WellFormed.classOf?_create (hwf : registry.WellFormed) {target : String}
    (hnone : registry.index.lookup target = none) (qualified nativeName other : String) :
    (registry.create target qualified nativeName).1.classOf? other =
      if other = target then some (qualified, ClassInterface.fresh target nativeName)
      else registry.classOf? other := by
  by_cases hother : other = target
  · subst hother
    simp [classOf?, Registry.create, List.lookup_append, hnone]
  · have hb : (other == target) = false := by simp [hother]
    rw [if_neg hother]
    simp only [classOf?, Registry.create, List.lookup_append, List.lookup_cons, List.lookup_nil, hb,
      Option.or_none]
    split
    · next hlookup => rfl
    · next slot hlookup =>
        obtain ⟨_, record, hrecord, _⟩ := hwf.getElem?_of_mem (mem_index_of_lookup hlookup)
        have hlt := (List.getElem?_eq_some_iff.1 hrecord).1
        rw [List.getElem?_append_left hlt]

/-- Changing the record of a class leaves the other classes alone. -/
theorem WellFormed.classOf?_modifyAt (hwf : registry.WellFormed) {target : String} {slot : Slot}
    (hlookup : registry.index.lookup target = some slot)
    (change : ClassInterface → ClassInterface) (other : String) :
    (registry.modifyAt slot.position change).classOf? other =
      if other = target then
        (registry.classOf? other).map fun found => (found.1, change found.2)
      else registry.classOf? other := by
  by_cases hother : other = target
  · subst hother
    simp [classOf?, Registry.modifyAt, hlookup, Function.comp_def]
  · rw [if_neg hother]
    simp only [classOf?, Registry.modifyAt]
    split
    · rfl
    · next found hfound =>
        have hne : slot.position ≠ found.position := by
          intro heq
          have h1 := (hwf.getElem?_of_mem (mem_index_of_lookup hlookup)).1
          have h2 := (hwf.getElem?_of_mem (mem_index_of_lookup hfound)).1
          rw [heq, h2] at h1
          exact hother (Prod.mk.inj (Option.some.inj h1)).1
        rw [List.getElem?_modify_ne _ _ hne]

end Operations

end Registry

section Members

/-- The target name of the class that a parent stands for. -/
def Parent.target (parent : Parent) : String :=
  Target.typeName parent.type.kind parent.name

/-- A record with more methods. -/
def ClassInterface.withMethods (methods : List Method) (record : ClassInterface) :
    ClassInterface :=
  { record with
    classType := { record.classType with methods := record.classType.methods ++ methods } }

@[simp] theorem ClassInterface.withMethods_nil (record : ClassInterface) :
    record.withMethods [] = record := by
  simp [withMethods]

@[simp] theorem ClassInterface.withMethods_withMethods (first second : List Method)
    (record : ClassInterface) :
    (record.withMethods first).withMethods second = record.withMethods (first ++ second) := by
  simp [withMethods]

@[simp] theorem ClassInterface.withMethods_classType (methods : List Method)
    (record : ClassInterface) :
    (record.withMethods methods).classType =
      { record.classType with methods := record.classType.methods ++ methods } := rfl

theorem Registry.withMethod_eq (method : Method) (record : ClassInterface) :
    Registry.withMethod method record = record.withMethods [method] := rfl

/-- What a member does to the class of its target name: it makes a class that is missing, joins
the class that was made for its parent, and leaves any other class alone. -/
def Parent.enter (parent : Parent) (method : Method) :
    Option (String × ClassInterface) → String × ClassInterface
  | none =>
      (parent.qualified,
        (ClassInterface.fresh parent.target parent.name).withMethods [method])
  | some (qualified, record) =>
      (qualified, if qualified = parent.qualified then record.withMethods [method] else record)

theorem Registry.lookup_create {registry : Registry} {target : String}
    (hnone : registry.index.lookup target = none) (qualified nativeName : String) :
    (registry.create target qualified nativeName).1.index.lookup target =
      some ⟨registry.records.length, qualified⟩ := by
  simp [Registry.create, List.lookup_append, hnone]

/-- Recording a member changes the class of its target name only. -/
theorem Registry.WellFormed.recordMember {registry : Registry} (hwf : registry.WellFormed)
    (decl : Decl) (kind : MethodKind) (parent : Parent) :
    (recordMember registry decl kind parent).1.WellFormed ∧
      ∀ target, (recordMember registry decl kind parent).1.classOf? target =
        if target = parent.target then
          some (parent.enter (buildMethod kind decl parent) (registry.classOf? target))
        else registry.classOf? target := by
  cases hlookup : registry.index.lookup parent.target with
  | none =>
      have hfound : registry.findOrCreate parent =
          .ok (registry.create parent.target parent.qualified parent.name) := by
        simp only [Registry.findOrCreate, ← Parent.target.eq_1, hlookup]
      have hcreated := hwf.create hlookup parent.qualified parent.name
      have hslot := Registry.lookup_create hlookup parent.qualified parent.name
      have hclass := hwf.classOf?_create hlookup parent.qualified parent.name
      have hrecord : (HeaderBindings.recordMember registry decl kind parent).1 =
          (registry.create parent.target parent.qualified parent.name).1.modifyAt
            registry.records.length (Registry.withMethod (buildMethod kind decl parent)) := by
        simp only [HeaderBindings.recordMember, hfound]
        rfl
      rw [hrecord]
      refine ⟨hcreated.modifyAt _ fun record => rfl, fun target => ?_⟩
      rw [hcreated.classOf?_modifyAt hslot, hclass]
      by_cases htarget : target = parent.target
      · subst htarget
        rw [hwf.classOf?_eq_none_iff.2 hlookup]
        simp [Parent.enter, Registry.withMethod_eq]
      · simp [htarget]
  | some slot =>
      obtain ⟨_, record, hrecord, _⟩ := hwf.getElem?_of_mem (mem_index_of_lookup hlookup)
      have hclass : registry.classOf? parent.target = some (slot.qualified, record) := by
        simp [Registry.classOf?, hlookup, hrecord]
      by_cases hqualified : slot.qualified = parent.qualified
      · have hfound : registry.findOrCreate parent = .ok (registry, slot.position) := by
          simp only [Registry.findOrCreate, ← Parent.target.eq_1, hlookup, if_pos hqualified]
        have hresult : (HeaderBindings.recordMember registry decl kind parent).1 =
            registry.modifyAt slot.position
              (Registry.withMethod (buildMethod kind decl parent)) := by
          simp only [HeaderBindings.recordMember, hfound]
          rfl
        rw [hresult]
        refine ⟨hwf.modifyAt _ fun record => rfl, fun target => ?_⟩
        rw [hwf.classOf?_modifyAt hlookup]
        by_cases htarget : target = parent.target
        · subst htarget
          simp [hclass, Parent.enter, hqualified, Registry.withMethod_eq]
        · simp [htarget]
      · have hresult : (HeaderBindings.recordMember registry decl kind parent).1 = registry := by
          simp only [HeaderBindings.recordMember, Registry.findOrCreate, ← Parent.target.eq_1,
            hlookup, if_neg hqualified]
        rw [hresult]
        refine ⟨hwf, fun target => ?_⟩
        by_cases htarget : target = parent.target
        · subst htarget
          simp [hclass, Parent.enter, hqualified]
        · simp [htarget]

end Members

section Collecting

variable {registry : Registry}

/-- The method that a declaration contributes to a class: it is a constructor or method with the
access asked for, and its lexical parent has the names of the class. -/
def Selection.methodFor? (selection : Selection) (target qualified : String) (decl : Decl) :
    Option Method :=
  match MethodKind.ofDecl? decl.kind, decl.lexicalParent with
  | some kind, some parent =>
      if decl.access = some selection.access ∧ parent.name = selection.className ∧
          parent.qualified = qualified ∧ parent.target = target then
        some (buildMethod kind decl parent)
      else none
  | _, _ => none

/-- The parent of the first member with a target name. -/
def Selection.firstParent? (selection : Selection) (target : String) (decls : List Decl) :
    Option Parent :=
  decls.findSome? fun decl =>
    match selection.member? decl with
    | some (_, parent) => if parent.target = target then some parent else none
    | none => none

theorem Selection.member?_eq_some_iff {selection : Selection} {decl : Decl} {kind : MethodKind}
    {parent : Parent} :
    selection.member? decl = some (kind, parent) ↔
      decl.access = some selection.access ∧ decl.lexicalParent = some parent ∧
        MethodKind.ofDecl? decl.kind = some kind ∧ parent.name = selection.className := by
  unfold Selection.member?
  by_cases haccess : decl.access = some selection.access
  · rw [if_neg (not_not.2 haccess)]
    cases hparent : decl.lexicalParent with
    | none => simp
    | some found =>
        cases hkind : MethodKind.ofDecl? decl.kind with
        | none => simp
        | some member =>
            simp only [haccess, true_and, Option.some.injEq]
            split
            · next hname =>
                constructor
                · intro heq
                  obtain ⟨rfl, rfl⟩ := Prod.mk.inj (Option.some.inj heq)
                  exact ⟨rfl, rfl, hname⟩
                · rintro ⟨rfl, rfl, _⟩
                  rfl
            · next hname =>
                constructor
                · intro heq
                  simp at heq
                · rintro ⟨rfl, _, heq⟩
                  exact absurd heq hname
  · simp [haccess]

/-- The first parent is that of a member. -/
theorem Selection.exists_of_firstParent? {selection : Selection} {target : String}
    {decls : List Decl} {parent : Parent}
    (hfirst : selection.firstParent? target decls = some parent) :
    parent.target = target ∧
      ∃ decl ∈ decls, ∃ kind, selection.member? decl = some (kind, parent) := by
  obtain ⟨decl, hdecl, hfound⟩ := List.exists_of_findSome?_eq_some hfirst
  split at hfound
  · next kind found hmember =>
      split at hfound
      · next htarget =>
          obtain rfl := Option.some.inj hfound
          exact ⟨htarget, decl, hdecl, kind, hmember⟩
      · simp at hfound
  · simp at hfound

theorem Selection.methodFor?_of_member {selection : Selection} {decl : Decl} {kind : MethodKind}
    {parent : Parent} (hmember : selection.member? decl = some (kind, parent))
    (target qualified : String) :
    selection.methodFor? target qualified decl =
      if parent.qualified = qualified ∧ parent.target = target then
        some (buildMethod kind decl parent)
      else none := by
  obtain ⟨haccess, hparent, hkind, hname⟩ := Selection.member?_eq_some_iff.1 hmember
  simp [Selection.methodFor?, haccess, hparent, hkind, hname]

theorem Selection.methodFor?_of_not_member {selection : Selection} {decl : Decl}
    (hmember : selection.member? decl = none) (target qualified : String) :
    selection.methodFor? target qualified decl = none := by
  unfold Selection.methodFor?
  split
  · next kind parent hkind hparent =>
      rw [if_neg]
      rintro ⟨haccess, hname, _, _⟩
      have := Selection.member?_eq_some_iff.2 ⟨haccess, hparent, hkind, hname⟩
      simp [hmember] at this
  · rfl

/-- A member is of a kind that extraction looks at. -/
theorem Selection.isConcerned_of_member {selection : Selection} {decl : Decl}
    {kind : MethodKind} {parent : Parent}
    (hmember : selection.member? decl = some (kind, parent)) : decl.kind.isConcerned = true := by
  obtain ⟨_, _, hkind, _⟩ := Selection.member?_eq_some_iff.1 hmember
  revert hkind
  cases decl.kind <;> simp [MethodKind.ofDecl?, DeclKind.isConcerned]

/-- One declaration changes the registry only if it is a member. -/
theorem collectDecl_fst (selection : Selection) (registry : Registry) (decl : Decl) :
    (collectDecl selection registry decl).1 =
      match selection.member? decl with
      | none => registry
      | some (kind, parent) => (recordMember registry decl kind parent).1 := by
  unfold collectDecl
  cases hmember : selection.member? decl with
  | none => by_cases hconcerned : decl.kind.isConcerned <;> simp [hconcerned]
  | some found => simp [Selection.isConcerned_of_member hmember]

/-- The methods that a list of declarations contributes to a class. -/
def Selection.methodsFor (selection : Selection) (target qualified : String)
    (decls : List Decl) : List Method :=
  decls.filterMap (selection.methodFor? target qualified)

/-- What a list of declarations does to the class of a target name.  A class that is there gets
the methods of its own members; one that is missing is made for the parent of the first member
with this target name. -/
def Selection.gather (selection : Selection) (target : String) (decls : List Decl) :
    Option (String × ClassInterface) → Option (String × ClassInterface)
  | some (qualified, record) =>
      some (qualified, record.withMethods (selection.methodsFor target qualified decls))
  | none =>
      (selection.firstParent? target decls).map fun parent =>
        (parent.qualified,
          (ClassInterface.fresh target selection.className).withMethods
            (selection.methodsFor target parent.qualified decls))

theorem Selection.gather_nil (selection : Selection) (target : String)
    (found : Option (String × ClassInterface)) : selection.gather target [] found = found := by
  cases found <;> simp [Selection.gather, Selection.methodsFor, Selection.firstParent?]

/-- A declaration that is no member does not matter. -/
theorem Selection.gather_cons_of_not_member {selection : Selection} {decl : Decl}
    (hmember : selection.member? decl = none) (target : String) (decls : List Decl)
    (found : Option (String × ClassInterface)) :
    selection.gather target (decl :: decls) found = selection.gather target decls found := by
  have hmethods : ∀ qualified, selection.methodsFor target qualified (decl :: decls) =
      selection.methodsFor target qualified decls := by
    intro qualified
    simp [Selection.methodsFor, Selection.methodFor?_of_not_member hmember]
  have hfirst : selection.firstParent? target (decl :: decls) =
      selection.firstParent? target decls := by
    simp [Selection.firstParent?, hmember]
  cases found <;> simp [Selection.gather, hmethods, hfirst]

/-- A member with another target name does not matter. -/
theorem Selection.gather_cons_of_ne {selection : Selection} {decl : Decl} {kind : MethodKind}
    {parent : Parent} (hmember : selection.member? decl = some (kind, parent))
    {target : String} (hne : target ≠ parent.target) (decls : List Decl)
    (found : Option (String × ClassInterface)) :
    selection.gather target (decl :: decls) found = selection.gather target decls found := by
  have hmethods : ∀ qualified, selection.methodsFor target qualified (decl :: decls) =
      selection.methodsFor target qualified decls := by
    intro qualified
    simp [Selection.methodsFor, Selection.methodFor?_of_member hmember, Ne.symm hne]
  have hfirst : selection.firstParent? target (decl :: decls) =
      selection.firstParent? target decls := by
    simp [Selection.firstParent?, hmember, Ne.symm hne]
  cases found <;> simp [Selection.gather, hmethods, hfirst]

/-- A member with the target name goes first. -/
theorem Selection.gather_cons_of_eq {selection : Selection} {decl : Decl} {kind : MethodKind}
    {parent : Parent} (hmember : selection.member? decl = some (kind, parent))
    (decls : List Decl) (found : Option (String × ClassInterface)) :
    selection.gather parent.target (decl :: decls) found =
      selection.gather parent.target decls
        (some (parent.enter (buildMethod kind decl parent) found)) := by
  have hname := (Selection.member?_eq_some_iff.1 hmember).2.2.2
  have hmethods : ∀ qualified,
      selection.methodsFor parent.target qualified (decl :: decls) =
        (if qualified = parent.qualified then [buildMethod kind decl parent] else []) ++
          selection.methodsFor parent.target qualified decls := by
    intro qualified
    by_cases hqualified : qualified = parent.qualified
    · simp [Selection.methodsFor, Selection.methodFor?_of_member hmember, hqualified]
    · simp [Selection.methodsFor, Selection.methodFor?_of_member hmember, hqualified,
        Ne.symm hqualified]
  cases found with
  | none =>
      have hfirst : selection.firstParent? parent.target (decl :: decls) = some parent := by
        simp [Selection.firstParent?, hmember]
      simp [Selection.gather, hfirst, hmethods, Parent.enter, hname]
  | some found =>
      obtain ⟨qualified, record⟩ := found
      by_cases hqualified : qualified = parent.qualified
      · simp [Selection.gather, hmethods, Parent.enter, hqualified]
      · simp [Selection.gather, hmethods, Parent.enter, hqualified]

/-- What collecting a list of declarations does to every class. -/
theorem Registry.WellFormed.collect {registry : Registry} (hwf : registry.WellFormed)
    (selection : Selection) (decls : List Decl) :
    (collect selection registry decls).1.WellFormed ∧
      ∀ target, (collect selection registry decls).1.classOf? target =
        selection.gather target decls (registry.classOf? target) := by
  induction decls generalizing registry with
  | nil => exact ⟨hwf, fun target => (Selection.gather_nil _ _ _).symm⟩
  | cons decl decls ih =>
      have hcons : (HeaderBindings.collect selection registry (decl :: decls)).1 =
          (HeaderBindings.collect selection (collectDecl selection registry decl).1 decls).1 := rfl
      rw [hcons, collectDecl_fst]
      cases hmember : selection.member? decl with
      | none =>
          obtain ⟨hresult, hclass⟩ := ih hwf
          refine ⟨hresult, fun target => ?_⟩
          rw [Selection.gather_cons_of_not_member hmember]
          exact hclass target
      | some found =>
          obtain ⟨kind, parent⟩ := found
          obtain ⟨hrecorded, hrecord⟩ := hwf.recordMember decl kind parent
          obtain ⟨hresult, hclass⟩ := ih hrecorded
          refine ⟨hresult, fun target => ?_⟩
          simp only [hclass, hrecord]
          by_cases htarget : target = parent.target
          · subst htarget
            rw [if_pos rfl, Selection.gather_cons_of_eq hmember]
          · rw [if_neg htarget, Selection.gather_cons_of_ne hmember htarget]

end Collecting

end HeaderBindings
