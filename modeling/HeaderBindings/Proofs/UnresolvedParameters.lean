import HeaderBindings.Proofs.DistinctClasses
import HeaderBindings.Proofs.SoleRecords

/-!
# Unresolved parameters

A parameter may have two *gaps*: no target value can be turned into it, or it cannot be
declared in the target.  A gap is filled with a text that is easy to find, and reported once.

**Method.**  What collecting does to the records is described by *filings*: which
declaration was stored as which method, and in which record (`Registry.Filed`).  A filing is
one step (`filed_of_findOrCreate`), and filings can be put one after the other
(`Filed.append`).  The reports about the arguments of one member are computed separately
(`Gap.reportsOf_methodEvents`), so the run over all declarations only puts the two together.

**Results.**
* `Gap.isIn_param`: which parameters have a gap.
* `Survey.one_report_for_each_gap`: gaps and reports agree.
-/

namespace HeaderBindings

section Reports

/-- The reports of a kind among some diagnostics, in order. -/
def reportsOf (kind : DiagnosticKind) (diagnostics : List Diagnostic) : List Diagnostic :=
  diagnostics.filter fun diagnostic => diagnostic.kind = kind

@[simp] theorem reportsOf_nil (kind : DiagnosticKind) : reportsOf kind [] = [] := rfl

@[simp] theorem reportsOf_append (kind : DiagnosticKind) (first second : List Diagnostic) :
    reportsOf kind (first ++ second) = reportsOf kind first ++ reportsOf kind second := by
  simp [reportsOf]

theorem length_reportsOf (kind : DiagnosticKind) (diagnostics : List Diagnostic) :
    (reportsOf kind diagnostics).length = countOf kind diagnostics := by
  rw [reportsOf, countOf, List.countP_eq_length_filter]

theorem reportsOf_flatMap {α : Type} (kind : DiagnosticKind) (items : List α)
    (problems : α → List Diagnostic) :
    reportsOf kind (items.flatMap problems) =
      items.flatMap fun item => reportsOf kind (problems item) := by
  simp [reportsOf, List.filter_flatMap]

/-- Where all problems are of one kind, all or none are found. -/
theorem reportsOf_of_kind {found : DiagnosticKind} {diagnostics : List Diagnostic}
    (hkind : ∀ diagnostic ∈ diagnostics, diagnostic.kind = found) (kind : DiagnosticKind) :
    reportsOf kind diagnostics = if found = kind then diagnostics else [] := by
  split
  · next heq =>
      rw [reportsOf, List.filter_eq_self]
      intro diagnostic hmem
      rw [hkind diagnostic hmem, heq, decide_eq_true rfl]
  · next hne =>
      rw [reportsOf, List.filter_eq_nil_iff]
      intro diagnostic hmem hsame
      rw [hkind diagnostic hmem] at hsame
      exact hne (of_decide_eq_true hsame)

@[simp] theorem reportsOf_declProblems (kind : DiagnosticKind) (decl : Decl) :
    reportsOf kind decl.problems = if .invalidDeclaration = kind then decl.problems else [] := by
  refine reportsOf_of_kind (fun diagnostic hmem => ?_) kind
  unfold Decl.problems at hmem
  split at hmem
  · rw [List.mem_singleton.1 hmem]
  · simp at hmem

@[simp] theorem reportsOf_argumentProblems (kind : DiagnosticKind) (argument : Argument) :
    reportsOf kind argument.problems =
      if .invalidArgumentType = kind then argument.problems else [] := by
  refine reportsOf_of_kind (fun diagnostic hmem => ?_) kind
  unfold Argument.problems at hmem
  split at hmem
  · rw [List.mem_singleton.1 hmem]
  · simp at hmem

@[simp] theorem reportsOf_unmappedProblems (kind : DiagnosticKind) (target : String)
    (position : Position) :
    reportsOf kind (Target.unmappedProblems target position) =
      if .unmappedPrimitive = kind then Target.unmappedProblems target position else [] := by
  refine reportsOf_of_kind (fun diagnostic hmem => ?_) kind
  unfold Target.unmappedProblems at hmem
  split at hmem
  · rw [List.mem_singleton.1 hmem]
  · simp at hmem

@[simp] theorem reportsOf_paramKindProblems (kind : DiagnosticKind) (argument : Argument) :
    reportsOf kind (Target.paramKindProblems argument) =
      if .unknownParameterKind = kind then Target.paramKindProblems argument else [] := by
  refine reportsOf_of_kind (fun diagnostic hmem => ?_) kind
  unfold Target.paramKindProblems at hmem
  split at hmem
  · simp at hmem
  · rw [List.mem_singleton.1 hmem]

@[simp] theorem reportsOf_conversionProblems (kind : DiagnosticKind) (spelling : String)
    (position : Position) :
    reportsOf kind (Target.conversionProblems spelling position) =
      if .unknownConversion = kind then Target.conversionProblems spelling position else [] := by
  refine reportsOf_of_kind (fun diagnostic hmem => ?_) kind
  unfold Target.conversionProblems at hmem
  split at hmem
  · simp at hmem
  · rw [List.mem_singleton.1 hmem]

/-- The problems with an argument, by their kind. -/
theorem reportsOf_paramProblems (kind : DiagnosticKind) (argument : Argument) :
    reportsOf kind argument.paramProblems =
      (if .invalidArgumentType = kind then argument.problems else []) ++
        (if .unknownParameterKind = kind then Target.paramKindProblems argument else []) ++
        (if .unmappedPrimitive = kind then
          Target.unmappedProblems (Target.paramKind argument.type) argument.position
        else []) ++
        if .unknownConversion = kind then
          Target.conversionProblems argument.type.spelling argument.position
        else [] := by
  simp only [Argument.paramProblems, reportsOf_append, reportsOf_argumentProblems,
    reportsOf_paramKindProblems, reportsOf_unmappedProblems, reportsOf_conversionProblems]

/-- What is reported about a member: the problems with its arguments, and with its result. -/
theorem reportsOf_methodEvents (kind : DiagnosticKind) (member : MethodKind) (decl : Decl)
    (parent : Parent) :
    reportsOf kind (diagnosticsOf (methodEvents member decl parent)) =
      (decl.arguments.flatMap fun argument => reportsOf kind argument.paramProblems) ++
        if .unmappedPrimitive = kind then
          Target.unmappedProblems (Target.typeName (member.resultOf decl parent).1
            (member.resultOf decl parent).2) decl.position
        else [] := by
  simp only [methodEvents, diagnosticsOf_append, diagnosticsOf_map_problem,
    diagnosticsOf_toTargetRemarks, reportsOf_append, reportsOf_flatMap,
    reportsOf_unmappedProblems, List.append_nil]

end Reports

section Gaps

/-- What may stay open about a parameter. -/
inductive Gap where
  /-- How a target value is turned into the argument. -/
  | conversion
  /-- How the parameter is declared in the target. -/
  | declaration
deriving DecidableEq

namespace Gap

/-- The kind of problem that a gap is reported as. -/
def kind : Gap → DiagnosticKind
  | .conversion => .unknownConversion
  | .declaration => .unknownParameterKind

/-- The text that a gap is filled with. -/
def filler : Gap → String
  | .conversion => Target.unknownConversion
  | .declaration => Target.unknownParameterKind

/-- The part of a parameter's type where a gap shows. -/
def part : Gap → ParamType → String
  | .conversion => ParamType.fromTarget
  | .declaration => ParamType.target

/-- Whether a parameter has a gap. -/
def isIn (gap : Gap) (param : MethodParam) : Bool :=
  gap.part param.type = gap.filler

/-- What a report says before the spelling of the type. -/
def words : Gap → String
  | .conversion => "Unknown from_target_expr for "
  | .declaration => "Unknown target param kind for "

/-- The report about an argument that leaves a gap. -/
def report (gap : Gap) (argument : Argument) : Diagnostic where
  kind := gap.kind
  message := gap.words ++ argument.type.spelling
  position := some argument.position

/-- Whether an argument leaves a gap: there is no conversion for its spelling, or no declaration
for its type. -/
def isLeftBy (gap : Gap) (argument : Argument) : Bool :=
  match gap with
  | .conversion => (Target.fromTargetExpr? argument.type.spelling).isNone
  | .declaration => (Target.paramKind? argument.type).isNone

theorem unmappedPrimitive_ne_kind (gap : Gap) : .unmappedPrimitive ≠ gap.kind := by
  cases gap <;> simp [kind]

theorem invalidDeclaration_ne_kind (gap : Gap) : .invalidDeclaration ≠ gap.kind := by
  cases gap <;> simp [kind]

end Gap

/-- No known conversion looks like the filler. -/
theorem Target.fromTargetExpr_eq_unknown_iff (spelling : String) :
    fromTargetExpr spelling = unknownConversion ↔ fromTargetExpr? spelling = none := by
  unfold fromTargetExpr fromTargetExpr?
  cases TextSpelling.ofSpelling spelling <;> decide

/-- The name of a primitive kind is not the filler. -/
theorem Target.primitiveName_ne_unknown {kind : TypeKind} (hprimitive : isPrimitive kind = true)
    (spelling : String) : primitiveName kind spelling ≠ unknownParameterKind := by
  have htable : ∀ entry ∈ primitiveNames, entry.2 ≠ unknownParameterKind := by decide
  obtain ⟨entry, hentry, hname⟩ := exists_primitiveName hprimitive
  rw [hname]
  exact htable entry hentry

/-- No known declaration looks like the filler. -/
theorem Target.paramKind_eq_unknown_iff (type : NativeType) :
    paramKind type = unknownParameterKind ↔ paramKind? type = none := by
  unfold paramKind paramKind?
  split
  · next hplain =>
      have hprimitive := (Bool.and_eq_true_iff.1 hplain).2
      simp [primitiveName_ne_unknown hprimitive]
  · cases TextSpelling.ofSpelling type.spelling <;> decide

/-- The record of an argument has the gaps that the argument leaves, and no others. -/
theorem Gap.isIn_param (gap : Gap) (argument : Argument) :
    gap.isIn argument.param = gap.isLeftBy argument := by
  rw [Bool.eq_iff_iff, isIn, decide_eq_true_iff]
  cases gap with
  | conversion =>
      rw [isLeftBy, Option.isNone_iff_eq_none]
      exact Target.fromTargetExpr_eq_unknown_iff argument.type.spelling
  | declaration =>
      rw [isLeftBy, Option.isNone_iff_eq_none]
      exact Target.paramKind_eq_unknown_iff argument.type

/-- An argument is reported once for each gap that it leaves. -/
theorem Gap.reportsOf_paramProblems (gap : Gap) (argument : Argument) :
    reportsOf gap.kind argument.paramProblems =
      if gap.isLeftBy argument then [gap.report argument] else [] := by
  rw [HeaderBindings.reportsOf_paramProblems]
  cases gap with
  | conversion =>
      cases hexpr : Target.fromTargetExpr? argument.type.spelling <;>
        simp [Target.conversionProblems, isLeftBy, report, kind, words, hexpr]
  | declaration =>
      cases hkind : Target.paramKind? argument.type <;>
        simp [Target.paramKindProblems, isLeftBy, report, kind, words, hkind]

/-- The reports about the arguments of a member, in their order. -/
theorem Gap.reportsOf_methodEvents (gap : Gap) (member : MethodKind) (decl : Decl)
    (parent : Parent) :
    reportsOf gap.kind (diagnosticsOf (methodEvents member decl parent)) =
      (decl.arguments.filter gap.isLeftBy).map gap.report := by
  rw [HeaderBindings.reportsOf_methodEvents, if_neg gap.unmappedPrimitive_ne_kind,
    List.append_nil]
  induction decl.arguments with
  | nil => rfl
  | cons argument arguments ih =>
      rw [List.flatMap_cons, reportsOf_paramProblems, ih, List.filter_cons]
      split <;> rfl

end Gaps

section Filings

/-- A declaration, the method that was stored for it, and the position of the record with the
method. -/
structure Filing where
  decl : Decl
  position : Nat
  method : Method

/-- The arguments of the declaration with the parameters that were stored for them. -/
def Filing.pairs (filing : Filing) : List (Argument × MethodParam) :=
  filing.decl.arguments.zip filing.method.params

namespace Registry

/-- Whether the index leads to records only. -/
def InRange (registry : Registry) : Prop :=
  ∀ entry ∈ registry.index, entry.2.position < registry.records.length

/-- The methods of the record at a position. -/
def methodsAt (registry : Registry) (position : Nat) : List Method :=
  ((registry.records[position]?).map fun record => record.classType.methods).getD []

/-- The parameters in all records. -/
def params (registry : Registry) : List MethodParam :=
  registry.records.flatMap fun record => record.classType.methods.flatMap Method.params

/-- What filings do to a registry: in every record the methods filed there come after the
methods that it had, and nothing else is stored. -/
structure Filed (before : Registry) (filings : List Filing) (after : Registry) : Prop where
  grown : before.records.length ≤ after.records.length
  placed : ∀ filing ∈ filings, filing.position < after.records.length
  methods : ∀ position, after.methodsAt position =
    before.methodsAt position ++
      (filings.filter fun filing => filing.position = position).map Filing.method
  params : after.params.Perm
    (before.params ++ filings.flatMap fun filing => filing.method.params)

variable {before middle after registry found : Registry} {position : Nat}

theorem Filed.refl (registry : Registry) : registry.Filed [] registry where
  grown := Nat.le_refl _
  placed := by simp
  methods := by simp
  params := by simp

theorem Filed.append {first second : List Filing} (hfirst : before.Filed first middle)
    (hsecond : middle.Filed second after) : before.Filed (first ++ second) after where
  grown := Nat.le_trans hfirst.grown hsecond.grown
  placed := by
    intro filing hmem
    rcases List.mem_append.1 hmem with hearly | hlate
    · exact Nat.lt_of_lt_of_le (hfirst.placed filing hearly) hsecond.grown
    · exact hsecond.placed filing hlate
  methods := by
    intro position
    rw [hsecond.methods, hfirst.methods, List.filter_append, List.map_append, List.append_assoc]
  params := by
    rw [List.flatMap_append, ← List.append_assoc]
    exact hsecond.params.trans (hfirst.params.append_right _)

/-- A new record has no methods. -/
theorem filed_create (registry : Registry) (target qualified nativeName : String) :
    registry.Filed [] (registry.create target qualified nativeName).1 where
  grown := by simp [create]
  placed := by simp
  methods := by
    intro position
    simp only [methodsAt, create, List.filter_nil, List.map_nil, List.append_nil]
    rcases Nat.lt_trichotomy position registry.records.length with hlt | rfl | hgt
    · rw [List.getElem?_append_left hlt]
    · simp [ClassInterface.fresh]
    · rw [List.getElem?_eq_none (by simp; omega), List.getElem?_eq_none (by omega)]
  params := by
    simp [Registry.params, create, ClassInterface.fresh]

/-- A method that is added to a record brings its parameters. -/
theorem perm_params_addMethod (hposition : position < registry.records.length)
    (method : Method) :
    (registry.addMethod position method).params.Perm (registry.params ++ method.params) := by
  obtain ⟨records, index⟩ := registry
  simp only [Registry.params, addMethod, modifyAt] at hposition ⊢
  induction records generalizing position with
  | nil => cases hposition
  | cons record records ih =>
      cases position with
      | zero =>
          simp only [List.modify_zero_cons, List.flatMap_cons, withMethod, List.flatMap_append,
            List.flatMap_nil, List.append_nil, List.append_assoc]
          exact List.perm_append_comm.append_left _
      | succ position =>
          simp only [List.modify_succ_cons, List.flatMap_cons, List.append_assoc]
          exact (ih (Nat.lt_of_succ_lt_succ hposition)).append_left _

theorem filed_addMethod (hposition : position < registry.records.length) (decl : Decl)
    (method : Method) :
    registry.Filed [⟨decl, position, method⟩] (registry.addMethod position method) where
  grown := by simp [addMethod]
  placed := by simpa [addMethod] using hposition
  methods := by
    intro place
    simp only [methodsAt, addMethod, modifyAt, List.getElem?_modify]
    by_cases hplace : position = place
    · subst hplace
      simp [List.getElem?_eq_getElem hposition, withMethod]
    · simp [hplace]
  params := by
    simpa using perm_params_addMethod hposition method

/-- Storing a method for a class whose target name is not taken is one filing. -/
theorem filed_of_findOrCreate (hrange : registry.InRange) {parent : Parent}
    (hfound : registry.findOrCreate parent = .ok (found, position)) (decl : Decl)
    (method : Method) :
    registry.Filed [⟨decl, position, method⟩] (found.addMethod position method) ∧
      (found.addMethod position method).InRange := by
  unfold findOrCreate at hfound
  simp only at hfound
  split at hfound
  · obtain ⟨rfl, rfl⟩ := Prod.mk.inj (Except.ok.inj hfound)
    refine ⟨(registry.filed_create _ _ _).append (filed_addMethod (by simp [create]) decl method),
      ?_⟩
    intro entry hentry
    simp only [addMethod, modifyAt, List.length_modify, List.length_append,
      List.length_cons, List.length_nil] at hentry ⊢
    rcases List.mem_append.1 hentry with hold | hnew
    · have := hrange entry hold
      omega
    · obtain rfl := List.mem_singleton.1 hnew
      simp
  · next slot hlookup =>
      split at hfound
      · obtain ⟨rfl, rfl⟩ := Prod.mk.inj (Except.ok.inj hfound)
        refine ⟨filed_addMethod (hrange _ (mem_index_of_lookup hlookup)) decl method, ?_⟩
        intro entry hentry
        simpa [addMethod] using hrange entry hentry
      · cases hfound

end Registry

/-- Whether the parameters that were stored are the records of the arguments. -/
def Filing.IsFaithful (filing : Filing) : Prop :=
  filing.method.params = filing.decl.arguments.map Argument.param

theorem Filing.IsFaithful.pairs_eq {filing : Filing} (hfaithful : filing.IsFaithful) :
    filing.pairs = filing.decl.arguments.map fun argument => (argument, argument.param) := by
  rw [pairs, hfaithful, List.zip_map_right, List.zip_eq_zipWith, List.zipWith_self]
  simp

end Filings

section Collecting

/-- What collecting declarations without a collision stores and reports. -/
structure Accounts (selection : Selection) (before : Registry) (decls : List Decl)
    (filings : List Filing) (after : Registry) (events : List Event) : Prop where
  decls : filings.map Filing.decl = decls.filter selection.isMember
  filed : before.Filed filings after
  inRange : after.InRange
  faithful : ∀ filing ∈ filings, filing.IsFaithful
  reports : ∀ gap : Gap, reportsOf gap.kind (diagnosticsOf events) =
    ((filings.flatMap fun filing => filing.decl.arguments).filter gap.isLeftBy).map gap.report

variable {selection : Selection} {registry : Registry}

theorem Accounts.append {before middle after : Registry} {decls more : List Decl}
    {first second : List Filing} {early late : List Event}
    (hfirst : Accounts selection before decls first middle early)
    (hsecond : Accounts selection middle more second after late) :
    Accounts selection before (decls ++ more) (first ++ second) after (early ++ late) where
  decls := by rw [List.map_append, List.filter_append, hfirst.decls, hsecond.decls]
  filed := hfirst.filed.append hsecond.filed
  inRange := hsecond.inRange
  faithful := by
    intro filing hmem
    rcases List.mem_append.1 hmem with hearly | hlate
    · exact hfirst.faithful filing hearly
    · exact hsecond.faithful filing hlate
  reports := by
    intro gap
    rw [diagnosticsOf_append, reportsOf_append, hfirst.reports, hsecond.reports,
      List.flatMap_append, List.filter_append, List.map_append]

/-- One declaration is filed if it is a member. -/
theorem exists_accounts_collectDecl (hrange : registry.InRange) (decl : Decl)
    (hquiet : collisionsOf (collectDecl selection registry decl).2 = []) :
    ∃ filings, Accounts selection registry [decl] filings
      (collectDecl selection registry decl).1 (collectDecl selection registry decl).2 := by
  cases hmember : selection.member? decl with
  | none =>
      refine ⟨[], ?_, ?_, ?_, by simp, ?_⟩
      · simp [Selection.isMember, hmember]
      · rw [collectDecl_fst, hmember]
        exact .refl registry
      · rw [collectDecl_fst, hmember]
        exact hrange
      · intro gap
        unfold collectDecl
        split
        · rfl
        · rw [hmember]
          simp [gap.invalidDeclaration_ne_kind]
  | some found =>
      obtain ⟨kind, parent⟩ := found
      have hconcerned := Selection.isConcerned_of_member hmember
      simp only [collectDecl, hconcerned, hmember, recordMember] at hquiet ⊢
      cases hfound : registry.findOrCreate parent with
      | error collision =>
          simp [hfound, collisionsOf, diagnosticsOf, Event.diagnostic?] at hquiet
      | ok result =>
          obtain ⟨made, position⟩ := result
          obtain ⟨hfiled, hinside⟩ := Registry.filed_of_findOrCreate hrange hfound decl
            (buildMethod kind decl parent)
          refine ⟨[⟨decl, position, buildMethod kind decl parent⟩], ?_, hfiled, hinside, ?_, ?_⟩
          · simp [Selection.isMember, hmember]
          · intro filing hmem
            obtain rfl := List.mem_singleton.1 hmem
            rfl
          · intro gap
            simp [gap.invalidDeclaration_ne_kind, Gap.reportsOf_methodEvents]

/-- Going through the declarations, every member is filed. -/
theorem exists_accounts_collect (hrange : registry.InRange) (decls : List Decl)
    (hquiet : collisionsOf (collect selection registry decls).2 = []) :
    ∃ filings, Accounts selection registry decls filings
      (collect selection registry decls).1 (collect selection registry decls).2 := by
  induction decls generalizing registry with
  | nil => exact ⟨[], rfl, .refl registry, hrange, by simp, fun gap => rfl⟩
  | cons decl decls ih =>
      simp only [collect, collisionsOf_append, List.append_eq_nil_iff] at hquiet
      obtain ⟨first, hfirst⟩ := exists_accounts_collectDecl hrange decl hquiet.1
      obtain ⟨rest, hrest⟩ := ih hfirst.inRange hquiet.2
      exact ⟨first ++ rest, hfirst.append hrest⟩

/-- Every argument of a filed declaration stands beside the record of it. -/
theorem Accounts.pairs_eq {before after : Registry} {decls : List Decl} {filings : List Filing}
    {events : List Event} (haccounts : Accounts selection before decls filings after events) :
    filings.flatMap Filing.pairs =
      (filings.flatMap fun filing => filing.decl.arguments).map fun argument =>
        (argument, argument.param) := by
  rw [List.map_flatMap]
  exact List.flatMap_congr fun filing hmem => (haccounts.faithful filing hmem).pairs_eq

/-- The gaps become more by the arguments that leave one. -/
theorem Accounts.countP_isIn {before after : Registry} {decls : List Decl}
    {filings : List Filing} {events : List Event}
    (haccounts : Accounts selection before decls filings after events) (gap : Gap) :
    after.params.countP gap.isIn =
      before.params.countP gap.isIn + countOf gap.kind (diagnosticsOf events) := by
  have hparams : (filings.flatMap fun filing => filing.method.params) =
      (filings.flatMap fun filing => filing.decl.arguments).map Argument.param := by
    rw [List.map_flatMap]
    exact List.flatMap_congr haccounts.faithful
  have hleft : gap.isIn ∘ Argument.param = gap.isLeftBy := funext gap.isIn_param
  rw [haccounts.filed.params.countP_eq, List.countP_append, hparams, List.countP_map, hleft,
    ← length_reportsOf, haccounts.reports, List.length_map, ← List.countP_eq_length_filter]

end Collecting

/-- The index of a survey leads to records after any operations. -/
theorem Operation.inRange_performAll (settings : Settings) (operations : List Operation) :
    (performAll { settings := settings } operations).registry.InRange :=
  ((evolves_performAll _ operations).wellFormed Registry.wellFormed_empty).indexed.in_range

/-- **One report for each gap.**  Collect declarations into a survey whose index leads to records,
as it does after any operations, and let no collision be reported.  Then every member among the
declarations is stored as a method behind those that its record had, with a parameter for every
argument: in the same order, with the same name and the native spelling.  For either gap, going
through the arguments in order, the reports are one for each argument whose stored parameter has
the gap, with its spelling and its position, and the gaps in all records become more by the
number of reports. -/
theorem Survey.one_report_for_each_gap (survey : Survey) (selection : Selection)
    (decls : List Decl) (hrange : survey.registry.InRange)
    (hquiet : collisionsOf (survey.collect selection decls).2 = []) :
    let after := (survey.collect selection decls).1.registry
    let reported := diagnosticsOf (survey.collect selection decls).2
    ∃ filings : List Filing,
      filings.map Filing.decl = decls.filter selection.isMember ∧
      survey.registry.Filed filings after ∧
      (∀ filing ∈ filings,
        (filing.method.params.map fun param => (param.name, param.type.native)) =
          filing.decl.arguments.map fun argument => (argument.name, argument.type.spelling)) ∧
      ∀ gap : Gap,
        reportsOf gap.kind reported =
            ((filings.flatMap Filing.pairs).filter fun pair => gap.isIn pair.2).map
              (fun pair => gap.report pair.1) ∧
          after.params.countP gap.isIn =
            survey.registry.params.countP gap.isIn + countOf gap.kind reported := by
  intro after reported
  obtain ⟨filings, haccounts⟩ := exists_accounts_collect hrange decls hquiet
  refine ⟨filings, haccounts.decls, haccounts.filed, ?_, ?_⟩
  · intro filing hmem
    rw [haccounts.faithful filing hmem]
    simp [Argument.param]
  · intro gap
    refine ⟨?_, haccounts.countP_isIn gap⟩
    refine (haccounts.reports gap).trans ?_
    rw [haccounts.pairs_eq, List.filter_map, List.map_map]
    congr 2
    exact (funext gap.isIn_param).symm

section Mixed

/-- A method of the class `a` with arguments of all sorts: a plain number, a text without a
declaration, a text with one, and an object. -/
def mixedMember (access : Access) : Decl where
  kind := .method
  name := "f"
  access := some access
  lexicalParent := some (Parent.ofClass "a")
  arguments :=
    [{ name := "n", type := { kind := .int, spelling := "int", isPlain := true } },
      { name := "s", type := { kind := .pointer, spelling := "const char *" } },
      { name := "t", type := { kind := .lValueReference, spelling := "const std::string &" } },
      { name := "w", type := NativeType.ofRecord "w", position := ⟨"a.h", 3, 7⟩ }]

/-- A survey that has such a method already. -/
def mixedStart : Survey :=
  Operation.performAll { settings := {} }
    [.gather (.collect ⟨"a", .isProtected⟩ [mixedMember .isProtected])]

/-- Of two more methods one fits the selection; its two gaps of each kind come on top. -/
theorem one_report_for_each_gap_mixed :
    let decls := [mixedMember .isPublic, mixedMember .isPrivate]
    let after := (mixedStart.collect ⟨"a", .isPublic⟩ decls).1.registry
    let reported := diagnosticsOf (mixedStart.collect ⟨"a", .isPublic⟩ decls).2
    (∀ gap : Gap, mixedStart.registry.params.countP gap.isIn = 2) ∧
      (∀ gap : Gap, countOf gap.kind reported = 2) ∧
      ∀ gap : Gap, after.params.countP gap.isIn = 4 := by
  intro decls after reported
  have hbefore : ∀ gap : Gap, mixedStart.registry.params.countP gap.isIn = 2 := by
    intro gap
    cases gap <;> decide +kernel
  have hreported : ∀ gap : Gap, countOf gap.kind reported = 2 := by
    intro gap
    cases gap <;> decide +kernel
  obtain ⟨_, _, _, _, hgaps⟩ := mixedStart.one_report_for_each_gap ⟨"a", .isPublic⟩ decls
    (Operation.inRange_performAll _ _) (by decide +kernel)
  refine ⟨hbefore, hreported, fun gap => ?_⟩
  rw [(hgaps gap).2, hbefore gap, hreported gap]

end Mixed

end HeaderBindings
