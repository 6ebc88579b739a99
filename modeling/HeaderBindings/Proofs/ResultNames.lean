import HeaderBindings.Proofs.CaseForms
import HeaderBindings.Proofs.UnresolvedParameters

/-!
# The target names of results

The result of a member gets a target name by the rule for the names of classes, whatever its
spelling is.  A reference, a pointer or a template therefore may get a name that no type of
the target can have, and nothing is said about it.

**Characters.**  White space and the marks of references, pointers and templates have no letter
case (`Target.IsMark.isCaseless`).  So a target name is usable exactly when the last part of the
spelling is (`Target.isUsable_typeName`), and it never looks like the name of a primitive type
without a counterpart (`Target.unmappedProblems_typeName`).

**Reports.**  Collecting the same declarations with other results makes the same collisions,
since the two registries have the same index (`Registry.SameIndex`).

**Results.**
* `Survey.results_stored_unchecked`: which target names are usable, and that none is reported.
* `reference_result_unreported`: a result whose target name is not usable.
-/

namespace HeaderBindings

namespace Target

section Marks

/-- Whether a character cannot stand in the name of a type of the target: white space, or a mark of
references, pointers and templates. -/
def isForeign (c : Char) : Bool :=
  Text.isBlank c || c = '&' || c = '*' || c = '<' || c = '>'

/-- Whether a name can serve as the name of a type of the target. -/
def isUsable (name : List Char) : Bool :=
  name.all fun c => !isForeign c

/-- The codes of the characters that cannot stand in a name. -/
def markRanges : List CodeRange :=
  [⟨0x26, 0x26⟩, ⟨0x2A, 0x2A⟩, ⟨0x3C, 0x3C⟩, ⟨0x3E, 0x3E⟩, ⟨0x9, 0xD⟩, ⟨0x20, 0x20⟩,
    ⟨0x85, 0x85⟩, ⟨0xA0, 0xA0⟩, ⟨0x1680, 0x1680⟩, ⟨0x2000, 0x200A⟩, ⟨0x2028, 0x2029⟩,
    ⟨0x202F, 0x202F⟩, ⟨0x205F, 0x205F⟩, ⟨0x3000, 0x3000⟩]

/-- Whether the code of a character is one of these. -/
def IsMark (c : Char) : Prop :=
  ∃ range ∈ markRanges, range.first ≤ c.toNat ∧ c.toNat ≤ range.last

theorem isMark_of_isForeign {c : Char} (hforeign : isForeign c = true) : IsMark c := by
  simp only [isForeign, Text.isBlank, Bool.or_eq_true, Bool.and_eq_true, decide_eq_true_eq,
    beq_iff_eq] at hforeign
  simp only [IsMark, markRanges, List.exists_mem_cons_iff, List.not_mem_nil, false_and,
    exists_false, or_false]
  rcases hforeign with (((hblank | rfl) | rfl) | rfl) | rfl
  · omega
  all_goals decide

theorem IsMark.ne_nul {c : Char} (hmark : IsMark c) : c ≠ '\x00' := by
  rintro rfl
  revert hmark
  unfold IsMark
  decide

theorem IsMark.isCaseless {c : Char} (hmark : IsMark c) : Text.IsCaseless c := by
  have hupper : AvoidsCodes markRanges Text.upperSpecial Text.upperRuns := by
    constructor <;> decide +kernel
  have hlower : AvoidsCodes markRanges Text.lowerSpecial Text.lowerRuns := by
    constructor <;> decide +kernel
  exact Text.isCaseless_of_avoidsCodes hupper hlower hmark.ne_nul hmark

end Marks

section Names

/-- A target name is usable if the type is primitive, or if the last part of its spelling is. -/
theorem isUsable_typeName (kind : TypeKind) (spelling : String) :
    isUsable (typeName kind spelling).toList =
      (isPrimitive kind || isUsable (baseName spelling.toList)) := by
  unfold typeName
  cases hprimitive : isPrimitive kind with
  | true =>
      have htable : ∀ entry ∈ primitiveNames, isUsable entry.2.toList = true := by
        decide +kernel
      obtain ⟨entry, hentry, hname⟩ := exists_primitiveName hprimitive
      rw [if_pos rfl, hname, htable entry hentry, Bool.true_or]
  | false =>
      rw [if_neg Bool.false_ne_true, String.toList_ofList, Bool.false_or, Bool.eq_iff_iff]
      simp only [isUsable, List.all_eq_true, Bool.not_eq_true']
      have hsame : ∀ c, isForeign c = true →
          (c ∈ pascalCase (baseName spelling.toList) ↔ c ∈ baseName spelling.toList) := by
        intro c hforeign
        rw [mem_pascalCase_iff (isMark_of_isForeign hforeign).isCaseless]
        refine and_iff_left ?_
        rintro rfl
        revert hforeign
        decide
      constructor <;> intro husable c hmem <;> by_contra hforeign <;>
        rw [Bool.not_eq_false] at hforeign
      · exact absurd (husable c ((hsame c hforeign).2 hmem)) (by simp [hforeign])
      · exact absurd (husable c ((hsame c hforeign).1 hmem)) (by simp [hforeign])

/-- No target name looks like that of a primitive type without a counterpart. -/
theorem isUnmapped_typeName (kind : TypeKind) (spelling : String) :
    isUnmapped (typeName kind spelling) = false := by
  unfold typeName
  split
  · next hprimitive =>
      have htable : ∀ entry ∈ primitiveNames, isUnmapped entry.2 = false := by decide +kernel
      obtain ⟨entry, hentry, hname⟩ := exists_primitiveName hprimitive
      rw [hname, htable entry hentry]
  · -- What stands for such a type has a `_` in it, and a name in one word has none.
    have hplain : '_' ∉ pascalCase (baseName spelling.toList) := by
      rw [mem_pascalCase_iff Text.isCaseless_underscore]
      simp
    rw [isUnmapped, String.toList_ofList, Bool.eq_false_iff]
    intro hprefix
    exact hplain ((List.isPrefixOf_iff_prefix.1 hprefix).subset (by decide))

theorem unmappedProblems_typeName (kind : TypeKind) (spelling : String) (position : Position) :
    unmappedProblems (typeName kind spelling) position = [] := by
  rw [unmappedProblems, isUnmapped_typeName]
  rfl

end Names

end Target

section Reports

/-- What is reported about a member: the problems with its arguments. -/
theorem diagnosticsOf_methodEvents (kind : MethodKind) (decl : Decl) (parent : Parent) :
    diagnosticsOf (methodEvents kind decl parent) =
      decl.arguments.flatMap Argument.paramProblems := by
  simp [methodEvents, diagnosticsOf_toTargetRemarks, Target.unmappedProblems_typeName]

/-- What is reported about a declaration does not look at its result. -/
theorem diagnosticsOf_collectDecl (selection : Selection) (registry : Registry) (decl : Decl) :
    diagnosticsOf (collectDecl selection registry decl).2 =
      match selection.member? decl with
      | none => if decl.kind.isConcerned then decl.problems else []
      | some (kind, parent) =>
          decl.problems ++ decl.arguments.flatMap Argument.paramProblems ++
            diagnosticsOf (recordMember registry decl kind parent).2 := by
  unfold collectDecl
  cases hmember : selection.member? decl with
  | none => cases decl.kind.isConcerned <;> simp
  | some found =>
      rw [Selection.isConcerned_of_member hmember]
      simp [diagnosticsOf_methodEvents]

/-- Whether a report has nothing to do with the result of a declaration: it is about the declaration
as a whole, about an argument, or about its class, which was refused. -/
def Decl.Explains (decl : Decl) (diagnostic : Diagnostic) : Prop :=
  diagnostic ∈ decl.problems ∨ (∃ argument ∈ decl.arguments, diagnostic ∈ argument.paramProblems) ∨
    diagnostic.kind = .targetNameCollision ∧ diagnostic.position = some decl.position

theorem explains_of_mem_collectDecl {selection : Selection} {registry : Registry} {decl : Decl}
    {diagnostic : Diagnostic}
    (hmem : diagnostic ∈ diagnosticsOf (collectDecl selection registry decl).2) :
    decl.Explains diagnostic := by
  rw [diagnosticsOf_collectDecl] at hmem
  split at hmem
  · split at hmem
    · exact Or.inl hmem
    · cases hmem
  · rw [List.mem_append, List.mem_append, List.mem_flatMap] at hmem
    rcases hmem with (hdecl | hargument) | hrefused
    · exact Or.inl hdecl
    · exact Or.inr (Or.inl hargument)
    · refine Or.inr (Or.inr ?_)
      unfold recordMember at hrefused
      split at hrefused
      · cases hrefused
      · obtain rfl := List.mem_singleton.1 hrefused
        exact ⟨rfl, rfl⟩

/-- No report of a collection has to do with a result. -/
theorem exists_explains_of_mem_collect {selection : Selection} {registry : Registry}
    {decls : List Decl} {diagnostic : Diagnostic}
    (hmem : diagnostic ∈ diagnosticsOf (collect selection registry decls).2) :
    ∃ decl ∈ decls, decl.Explains diagnostic := by
  induction decls generalizing registry with
  | nil => cases hmem
  | cons decl decls ih =>
      simp only [collect, diagnosticsOf_append, List.mem_append] at hmem
      rcases hmem with hfirst | hlater
      · exact ⟨decl, List.mem_cons_self, explains_of_mem_collectDecl hfirst⟩
      · obtain ⟨other, hother, hexplains⟩ := ih hlater
        exact ⟨other, List.mem_cons_of_mem decl hother, hexplains⟩

end Reports

section OtherResults

/-- A declaration with another result. -/
def Decl.withResult (decl : Decl) (result : Option NativeType) : Decl :=
  { decl with result := result }

/-- Two registries that differ at most in what their records hold. -/
structure Registry.SameIndex (first second : Registry) : Prop where
  index : first.index = second.index
  length : first.records.length = second.records.length

variable {first second : Registry}

/-- Registries with the same index refuse the same classes, and a method that is stored leaves them
with the same index. -/
theorem Registry.SameIndex.recordMember (hsame : first.SameIndex second) (decl : Decl)
    (result : Option NativeType) (kind : MethodKind) (parent : Parent) :
    (recordMember first decl kind parent).1.SameIndex
        (recordMember second (decl.withResult result) kind parent).1 ∧
      (HeaderBindings.recordMember first decl kind parent).2 =
        (HeaderBindings.recordMember second (decl.withResult result) kind parent).2 := by
  unfold HeaderBindings.recordMember findOrCreate
  simp only [← hsame.index]
  cases first.index.lookup (Target.typeName parent.type.kind parent.name) with
  | none =>
      refine ⟨⟨?_, ?_⟩, rfl⟩
      · simp [addMethod, modifyAt, create, hsame.index, hsame.length]
      · simp [addMethod, create, hsame.length]
  | some slot =>
      by_cases hqualified : slot.qualified = parent.qualified
      · simp only [hqualified, if_true]
        refine ⟨⟨?_, ?_⟩, trivial⟩
        · simp [addMethod, modifyAt, hsame.index]
        · simp [addMethod, hsame.length]
      · simp only [hqualified, if_false]
        exact ⟨hsame, rfl⟩

theorem Registry.SameIndex.collectDecl (hsame : first.SameIndex second) (selection : Selection)
    (decl : Decl) (result : Option NativeType) :
    (collectDecl selection first decl).1.SameIndex
        (collectDecl selection second (decl.withResult result)).1 ∧
      diagnosticsOf (HeaderBindings.collectDecl selection first decl).2 =
        diagnosticsOf
          (HeaderBindings.collectDecl selection second (decl.withResult result)).2 := by
  have hmember : selection.member? (decl.withResult result) = selection.member? decl := rfl
  rw [collectDecl_fst, collectDecl_fst, diagnosticsOf_collectDecl, diagnosticsOf_collectDecl,
    hmember]
  cases selection.member? decl with
  | none => exact ⟨hsame, rfl⟩
  | some found =>
      obtain ⟨hrecords, hevents⟩ := hsame.recordMember decl result found.1 found.2
      refine ⟨hrecords, ?_⟩
      simp only [hevents]
      rfl

/-- Other results make no other reports. -/
theorem Registry.SameIndex.diagnosticsOf_collect (hsame : first.SameIndex second)
    (selection : Selection) (results : Decl → Option NativeType) (decls : List Decl) :
    diagnosticsOf (collect selection first decls).2 =
      diagnosticsOf
        (collect selection second (decls.map fun decl => decl.withResult (results decl))).2 := by
  induction decls generalizing first second with
  | nil => rfl
  | cons decl decls ih =>
      obtain ⟨hafter, hfirst⟩ := hsame.collectDecl selection decl (results decl)
      simp only [collect, List.map_cons, diagnosticsOf_append, hfirst, ih hafter]

end OtherResults

section Storing

/-- Whether the method that was stored is the one that is built for the declaration, as a member
that fits a selection. -/
def Filing.IsBuiltFor (selection : Selection) (filing : Filing) : Prop :=
  ∃ kind parent, selection.member? filing.decl = some (kind, parent) ∧
    filing.method = buildMethod kind filing.decl parent

variable {registry : Registry}

/-- One declaration is filed if it is a member whose class is not refused. -/
theorem exists_filed_collectDecl (hrange : registry.InRange) (selection : Selection)
    (decl : Decl) :
    ∃ filings, registry.Filed filings (collectDecl selection registry decl).1 ∧
      (collectDecl selection registry decl).1.InRange ∧
      (filings.map Filing.decl).Sublist [decl] ∧
      ∀ filing ∈ filings, filing.IsBuiltFor selection := by
  rw [collectDecl_fst]
  cases hmember : selection.member? decl with
  | none => exact ⟨[], .refl registry, hrange, List.nil_sublist _, by simp⟩
  | some found =>
      obtain ⟨kind, parent⟩ := found
      simp only [recordMember]
      cases hfound : registry.findOrCreate parent with
      | error collision => exact ⟨[], .refl registry, hrange, List.nil_sublist _, by simp⟩
      | ok result =>
          obtain ⟨made, position⟩ := result
          obtain ⟨hfiled, hinside⟩ := Registry.filed_of_findOrCreate hrange hfound decl
            (buildMethod kind decl parent)
          refine ⟨_, hfiled, hinside, List.Sublist.refl _, ?_⟩
          intro filing hmem
          obtain rfl := List.mem_singleton.1 hmem
          exact ⟨kind, parent, hmember, rfl⟩

/-- Whatever a collection stores was built for one of the declarations. -/
theorem exists_filed_collect (hrange : registry.InRange) (selection : Selection)
    (decls : List Decl) :
    ∃ filings, registry.Filed filings (collect selection registry decls).1 ∧
      (filings.map Filing.decl).Sublist decls ∧
      ∀ filing ∈ filings, filing.IsBuiltFor selection := by
  induction decls generalizing registry with
  | nil => exact ⟨[], .refl registry, List.nil_sublist _, by simp⟩
  | cons decl decls ih =>
      obtain ⟨first, hfirst, hinside, hdecl, hbuilt⟩ :=
        exists_filed_collectDecl hrange selection decl
      obtain ⟨rest, hrest, hdecls, hlater⟩ := ih hinside
      refine ⟨first ++ rest, hfirst.append hrest, ?_, ?_⟩
      · rw [List.map_append]
        exact hdecl.append hdecls
      · intro filing hmem
        rcases List.mem_append.1 hmem with hearly | hlate
        · exact hbuilt filing hearly
        · exact hlater filing hlate

end Storing

/-- **Results are stored unchecked.**  Collect declarations into a survey whose index leads to
records, as it does after any operations.  Whatever is stored was built for one of the members.
Its result has a usable target name if and only if its kind is primitive or the last part of its
spelling is usable.  But every report is about a declaration as a whole, an argument or a refused
class, and the reports stay the same whatever the results of the declarations are. -/
theorem Survey.results_stored_unchecked (survey : Survey) (selection : Selection)
    (decls : List Decl) (hrange : survey.registry.InRange) :
    let after := (survey.collect selection decls).1.registry
    let reported := diagnosticsOf (survey.collect selection decls).2
    (∃ filings : List Filing,
      survey.registry.Filed filings after ∧
      (filings.map Filing.decl).Sublist decls ∧
      ∀ filing ∈ filings, ∃ kind parent,
        selection.member? filing.decl = some (kind, parent) ∧
        filing.method = buildMethod kind filing.decl parent ∧
        Target.isUsable filing.method.returnType.target.toList =
          (Target.isPrimitive (kind.resultOf filing.decl parent).1 ||
            Target.isUsable
              (Target.baseName (kind.resultOf filing.decl parent).2.toList))) ∧
      (∀ diagnostic ∈ reported, ∃ decl ∈ decls, decl.Explains diagnostic) ∧
      ∀ results : Decl → Option NativeType,
        diagnosticsOf (survey.collect selection
          (decls.map fun decl => decl.withResult (results decl))).2 = reported := by
  intro after reported
  refine ⟨?_, fun diagnostic => exists_explains_of_mem_collect, fun results => ?_⟩
  · obtain ⟨filings, hfiled, hdecls, hbuilt⟩ := exists_filed_collect hrange selection decls
    refine ⟨filings, hfiled, hdecls, fun filing hmem => ?_⟩
    obtain ⟨kind, parent, hmember, hmethod⟩ := hbuilt filing hmem
    refine ⟨kind, parent, hmember, hmethod, ?_⟩
    rw [hmethod]
    exact Target.isUsable_typeName _ _
  · exact (Registry.SameIndex.diagnosticsOf_collect ⟨rfl, rfl⟩ selection results decls).symm

section References

/-- A method of the class `a` with a result of some kind. -/
def resultMember (name spelling : String) (kind : TypeKind) (line : Nat) : Decl where
  kind := .method
  name := name
  access := some .isPublic
  result := some { kind := kind, spelling := spelling }
  lexicalParent := some (Parent.ofClass "a")
  position := ⟨"a.h", line, 3⟩

/-- Methods with results of all sorts. -/
def resultMembers : List Decl :=
  [resultMember "get_name" "const std::string &" .lValueReference 1,
    resultMember "items" "std::vector<std::string>" .record 2,
    resultMember "size" "unsigned long" .uLong 3,
    resultMember "eval" "GiNaC::ex" .record 4]

/-- Two of the four target names are not usable, and no report would come from any result. -/
theorem results_stored_unchecked_sorts :
    let collected := Survey.collect { settings := {} } ⟨"a", .isPublic⟩ resultMembers
    (collected.1.registry.methodsAt 0).map (fun method => method.returnType.target) =
        ["String &", "String>", "UInt64", "Ex"] ∧
      ((collected.1.registry.methodsAt 0).map fun method =>
        Target.isUsable method.returnType.target.toList) = [false, false, true, true] ∧
      ∀ results : Decl → Option NativeType,
        diagnosticsOf (Survey.collect { settings := {} } ⟨"a", .isPublic⟩
          (resultMembers.map fun decl => decl.withResult (results decl))).2 = [] := by
  intro collected
  have hrange : Registry.InRange {} := by
    intro entry hentry
    cases hentry
  obtain ⟨-, -, hsilent⟩ :=
    Survey.results_stored_unchecked { settings := {} } ⟨"a", .isPublic⟩ resultMembers hrange
  refine ⟨by decide +kernel, by decide +kernel, fun results => ?_⟩
  rw [hsilent results]
  decide +kernel

/-- A reference to a text gets a name with a blank and a `&`, and nothing is reported. -/
theorem reference_result_unreported :
    let decl := resultMember "get_name" "const std::string &" .lValueReference 1
    let collected := Survey.collect { settings := {} } ⟨"a", .isPublic⟩ [decl]
    ∃ method ∈ collected.1.registry.methodsAt 0,
      method.returnType.target = "String &" ∧
      Target.isUsable method.returnType.target.toList = false ∧
      ¬ ∃ diagnostic ∈ diagnosticsOf collected.2, diagnostic.position = some decl.position := by
  decide +kernel

end References

end HeaderBindings
