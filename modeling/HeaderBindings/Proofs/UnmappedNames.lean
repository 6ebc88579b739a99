import HeaderBindings.Proofs.ResultNames

/-!
# No type is left without a counterpart

The name of a primitive type without a counterpart starts with a mark of its own, and such a
name is looked for in everything that is recorded.  But every primitive kind has a counterpart,
and the rule for all other names drops the `_` that the mark has.  So the name is never
recorded and never reported, whatever the spellings are.

**Method.**  What collecting adds to the records are methods built for members
(`Registry.Gains`, with one lemma for each change of a registry), in whatever state the
registry is.

**Results.**
* `Target.isUnmapped_paramKind`: no parameter is declared under such a name.
* `Registry.gains_collect`: what collecting adds to the records.
* `Survey.no_target_unmapped`: no such name is recorded or reported.
-/

namespace HeaderBindings

namespace Target

section Names

theorem isUnmapped_primitiveName {kind : TypeKind} (hprimitive : isPrimitive kind = true)
    (spelling : String) : isUnmapped (primitiveName kind spelling) = false := by
  have hname := isUnmapped_typeName kind spelling
  rwa [typeName, if_pos hprimitive] at hname

/-- A parameter is declared as a primitive type, as a text, or as what stands for an unknown
kind. -/
theorem isUnmapped_paramKind (type : NativeType) : isUnmapped (paramKind type) = false := by
  unfold paramKind paramKind?
  split
  · next hplain =>
      rw [Bool.and_eq_true] at hplain
      exact isUnmapped_primitiveName hplain.2 type.spelling
  · split <;> decide +kernel

example : paramKind { kind := .charS, spelling := "UNMAPPED_PRIMITIVE_x", isPlain := true } =
    unknownParameterKind := by
  decide +kernel

theorem not_prefix_of_isUnmapped {target : String} (htarget : isUnmapped target = false) :
    ¬ unmappedMark.toList <+: target.toList := by
  rw [← List.isPrefixOf_iff_prefix, ← isUnmapped, htarget]
  exact Bool.false_ne_true

end Names

end Target

section Reports

theorem kind_ne_of_reportsOf_eq_nil {kind : DiagnosticKind} {diagnostics : List Diagnostic}
    (hnone : reportsOf kind diagnostics = []) {diagnostic : Diagnostic}
    (hmem : diagnostic ∈ diagnostics) : diagnostic.kind ≠ kind := by
  intro hkind
  rw [reportsOf, List.filter_eq_nil_iff] at hnone
  exact hnone diagnostic hmem (decide_eq_true hkind)

/-- No report is about a type without a counterpart. -/
theorem kind_ne_of_mem_collect {selection : Selection} {registry : Registry} {decls : List Decl}
    {diagnostic : Diagnostic}
    (hmem : diagnostic ∈ diagnosticsOf (collect selection registry decls).2) :
    diagnostic.kind ≠ .unmappedPrimitive := by
  obtain ⟨decl, _, hdecl | ⟨argument, _, hargument⟩ | ⟨hcollision, _⟩⟩ :=
    exists_explains_of_mem_collect hmem
  · exact kind_ne_of_reportsOf_eq_nil (by simp) hdecl
  · refine kind_ne_of_reportsOf_eq_nil ?_ hargument
    simp [reportsOf_paramProblems, Target.unmappedProblems, Target.isUnmapped_paramKind]
  · rw [hcollision]
    decide

end Reports

/-- Whether a method is the one that is built for a member among some declarations. -/
def Method.IsBuiltFrom (method : Method) (selection : Selection) (decls : List Decl) : Prop :=
  ∃ decl ∈ decls, ∃ kind parent, selection.member? decl = some (kind, parent) ∧
    method = buildMethod kind decl parent

namespace Registry

section Gains

variable {before middle after : Registry} {origin : Method → Prop}

/-- A registry and what became of it, where every method that a record got is of some origin. -/
def Gains (origin : Method → Prop) (before after : Registry) : Prop :=
  ∀ position, ∃ added, after.methodsAt position = before.methodsAt position ++ added ∧
    ∀ method ∈ added, origin method

theorem Gains.refl (registry : Registry) : Gains origin registry registry :=
  fun _ => ⟨[], by simp, by simp⟩

theorem Gains.trans (hfirst : Gains origin before middle) (hsecond : Gains origin middle after) :
    Gains origin before after := by
  intro position
  obtain ⟨early, hearly, hearlyOrigin⟩ := hfirst position
  obtain ⟨late, hlate, hlateOrigin⟩ := hsecond position
  refine ⟨early ++ late, by rw [hlate, hearly, List.append_assoc], fun method hmem => ?_⟩
  rcases List.mem_append.1 hmem with hmethod | hmethod
  · exact hearlyOrigin method hmethod
  · exact hlateOrigin method hmethod

theorem Gains.mono {wider : Method → Prop} (hgains : Gains origin before after)
    (hwider : ∀ method, origin method → wider method) : Gains wider before after := by
  intro position
  obtain ⟨added, hadded, horigin⟩ := hgains position
  exact ⟨added, hadded, fun method hmem => hwider method (horigin method hmem)⟩

theorem gains_create (registry : Registry) (target qualified nativeName : String) :
    Gains origin registry (registry.create target qualified nativeName).1 := by
  intro position
  exact ⟨[], (filed_create registry target qualified nativeName).methods position, by simp⟩

/-- A method is added to the record at its position, if there is one. -/
theorem gains_addMethod (registry : Registry) (position : Nat) {method : Method}
    (hmethod : origin method) : Gains origin registry (registry.addMethod position method) := by
  intro other
  unfold methodsAt addMethod modifyAt
  simp only [List.getElem?_modify]
  cases registry.records[other]? with
  | none => exact ⟨[], rfl, by simp⟩
  | some record =>
      by_cases hposition : position = other
      · exact ⟨[method], by simp [hposition, withMethod], by simpa using hmethod⟩
      · exact ⟨[], by simp [hposition], by simp⟩

theorem gains_recordMember (registry : Registry) (decl : Decl) (kind : MethodKind)
    (parent : Parent) (hmethod : origin (buildMethod kind decl parent)) :
    Gains origin registry (recordMember registry decl kind parent).1 := by
  unfold recordMember findOrCreate
  simp only
  cases registry.index.lookup (Target.typeName parent.type.kind parent.name) with
  | none => exact (gains_create registry _ _ _).trans (gains_addMethod _ _ hmethod)
  | some slot =>
      by_cases hqualified : slot.qualified = parent.qualified
      · simp only [hqualified, if_true]
        exact gains_addMethod registry slot.position hmethod
      · simp only [hqualified, if_false]
        exact .refl registry

end Gains

section Collecting

/-- Collecting adds nothing but methods built for members. -/
theorem gains_collect (selection : Selection) (registry : Registry) (decls : List Decl) :
    Gains (fun method => method.IsBuiltFrom selection decls) registry
      (collect selection registry decls).1 := by
  induction decls generalizing registry with
  | nil => exact .refl registry
  | cons decl decls ih =>
      have hdecl : Gains (fun method => method.IsBuiltFrom selection (decl :: decls)) registry
          (collectDecl selection registry decl).1 := by
        rw [collectDecl_fst]
        cases hmember : selection.member? decl with
        | none => exact .refl registry
        | some found =>
            exact registry.gains_recordMember decl found.1 found.2
              ⟨decl, List.mem_cons_self, found.1, found.2, hmember, rfl⟩
      refine hdecl.trans ((ih _).mono ?_)
      rintro method ⟨other, hother, hbuilt⟩
      exact ⟨other, List.mem_cons_of_mem decl hother, hbuilt⟩

end Collecting

end Registry

/-- **No name of a type without a counterpart is recorded.**  Collect any declarations into any
survey.  No report is about a primitive type without a counterpart.  What the records get are
methods built for members, and neither the result nor a parameter of them has a target name with
the mark of such a type. -/
theorem Survey.no_target_unmapped (survey : Survey) (selection : Selection) (decls : List Decl) :
    let collected := survey.collect selection decls
    (∀ diagnostic ∈ diagnosticsOf collected.2, diagnostic.kind ≠ .unmappedPrimitive) ∧
    ∀ position, ∃ added,
      collected.1.registry.methodsAt position = survey.registry.methodsAt position ++ added ∧
      ∀ method ∈ added,
        method.IsBuiltFrom selection decls ∧
        ¬ Target.unmappedMark.toList <+: method.returnType.target.toList ∧
        ∀ param ∈ method.params, ¬ Target.unmappedMark.toList <+: param.type.target.toList := by
  intro collected
  refine ⟨fun diagnostic hmem => kind_ne_of_mem_collect hmem, fun position => ?_⟩
  obtain ⟨added, hadded, hbuilt⟩ := survey.registry.gains_collect selection decls position
  refine ⟨added, hadded, fun method hmem => ⟨hbuilt method hmem, ?_⟩⟩
  obtain ⟨decl, _, kind, parent, _, rfl⟩ := hbuilt method hmem
  refine ⟨Target.not_prefix_of_isUnmapped (Target.isUnmapped_typeName _ _), fun param hparam => ?_⟩
  obtain ⟨argument, _, rfl⟩ := List.mem_map.1 hparam
  exact Target.not_prefix_of_isUnmapped (Target.isUnmapped_paramKind argument.type)

end HeaderBindings
