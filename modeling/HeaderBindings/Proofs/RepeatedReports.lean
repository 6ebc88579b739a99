import HeaderBindings.Proofs.UnresolvedParameters

/-!
# How often an invalid declaration is reported

A declaration that the frontend could not make sense of is reported by the check that goes
with collecting.  In recursive mode every class is collected from everything that was walked
so far, so the check looks at a declaration again for every class that is collected after the
declaration was walked, and reports it again.

**Method.**  The reports of one collection do not depend on the registry
(`reportsOf_collect`).  A run is therefore described by its *rounds*: for every class that
is collected, how many declarations had been walked (`Survey.rounds`).

**Results.**
* `Survey.invalid_reported_every_round`: the reports of a run, and when there are no more of
  them than invalid declarations.
* `Survey.invalid_reported_twice`: two reports about one declaration.
-/

namespace HeaderBindings

section Faults

/-- Whether a declaration is one that extraction looks at, and invalid. -/
def Decl.isFaulty (decl : Decl) : Bool :=
  decl.kind.isConcerned && decl.isInvalid

/-- One report for each invalid one among some declarations. -/
def faultReports (decls : List Decl) : List Diagnostic :=
  (decls.filter Decl.isFaulty).flatMap Decl.problems

theorem faultReports_cons (decl : Decl) (decls : List Decl) :
    faultReports (decl :: decls) =
      (if decl.isFaulty then decl.problems else []) ++ faultReports decls := by
  unfold faultReports
  rw [List.filter_cons]
  split <;> simp

theorem length_faultReports (decls : List Decl) :
    (faultReports decls).length = decls.countP Decl.isFaulty := by
  induction decls with
  | nil => rfl
  | cons decl decls ih =>
      rw [faultReports_cons, List.length_append, ih, List.countP_cons, Nat.add_comm]
      congr 1
      split
      · next hfaulty =>
          have hinvalid : decl.isInvalid = true := (Bool.and_eq_true_iff.1 hfaulty).2
          simp [Decl.problems, hinvalid]
      · rfl

/-- The check of one declaration does not depend on the registry. -/
theorem reportsOf_collectDecl (selection : Selection) (registry : Registry) (decl : Decl) :
    reportsOf .invalidDeclaration (diagnosticsOf (collectDecl selection registry decl).2) =
      if decl.isFaulty then decl.problems else [] := by
  cases hconcerned : decl.kind.isConcerned with
  | false => simp [collectDecl, hconcerned, Decl.isFaulty]
  | true =>
      have hproblems : decl.problems = if decl.isFaulty then decl.problems else [] := by
        cases hinvalid : decl.isInvalid <;>
          simp [Decl.isFaulty, Decl.problems, hconcerned, hinvalid]
      have hmethod : ∀ kind parent, reportsOf .invalidDeclaration
          (diagnosticsOf (methodEvents kind decl parent)) = [] := by
        intro kind parent
        simp [reportsOf_methodEvents, reportsOf_paramProblems]
      rw [← hproblems]
      unfold collectDecl
      rw [hconcerned]
      cases selection.member? decl with
      | none => simp
      | some found =>
          have hrecord : reportsOf .invalidDeclaration
              (diagnosticsOf (recordMember registry decl found.1 found.2).2) = [] := by
            unfold recordMember
            split <;> rfl
          simp [hmethod, hrecord]

/-- A collection reports every invalid declaration that it goes through, once. -/
theorem reportsOf_collect (selection : Selection) (registry : Registry) (decls : List Decl) :
    reportsOf .invalidDeclaration (diagnosticsOf (collect selection registry decls).2) =
      faultReports decls := by
  induction decls generalizing registry with
  | nil => rfl
  | cons decl decls ih =>
      rw [faultReports_cons, ← reportsOf_collectDecl selection registry decl,
        ← ih (collectDecl selection registry decl).1, ← reportsOf_append, ← diagnosticsOf_append]
      rfl

end Faults

namespace Survey

section Rounds

/-- The rounds when several classes are extracted from some declarations: one for each class that
has no record when its turn comes. -/
def roundsAll (survey : Survey) (header : Path) (decls : List Decl) : List Selection → List Nat
  | [] => []
  | selection :: selections =>
      (if survey.registry.isExtracted selection.className then [] else [decls.length]) ++
        (survey.extractOne header decls selection).1.roundsAll header decls selections

/-- The rounds of some calls: how many declarations had been walked each time that a class was
collected. -/
def rounds (survey : Survey) : List ExtractCall → List Nat
  | [] => []
  | call :: calls =>
      let walked := call.afterWalk survey
      walked.roundsAll call.header walked.walked call.selections ++
        (call.step survey).survey.rounds calls

variable {survey final : Survey}

theorem reportsOf_extractOne (header : Path) (decls : List Decl) (selection : Selection) :
    reportsOf .invalidDeclaration
        (diagnosticsOf (survey.extractOne header decls selection).2) =
      if survey.registry.isExtracted selection.className then [] else faultReports decls := by
  unfold extractOne
  split
  · rfl
  · rw [← reportsOf_collect selection survey.registry decls]
    simp only
    split
    · rfl
    · rw [diagnosticsOf_append, reportsOf_append]
      exact List.append_nil _

theorem eq_of_mem_roundsAll {header : Path} {decls : List Decl} {selections : List Selection}
    {reach : Nat} (hmem : reach ∈ survey.roundsAll header decls selections) :
    reach = decls.length := by
  induction selections generalizing survey with
  | nil => cases hmem
  | cons selection selections ih =>
      rcases List.mem_append.1 hmem with hfirst | hrest
      · split at hfirst
        · cases hfirst
        · exact List.mem_singleton.1 hfirst
      · exact ih hrest

/-- Every round reports what is invalid among the declarations. -/
theorem reportsOf_extractAll (header : Path) (decls : List Decl)
    (selections : List Selection) :
    reportsOf .invalidDeclaration
        (diagnosticsOf (survey.extractAll header decls selections).2) =
      (survey.roundsAll header decls selections).flatMap fun _ => faultReports decls := by
  induction selections generalizing survey with
  | nil => rfl
  | cons selection selections ih =>
      simp only [extractAll, roundsAll, diagnosticsOf_append, reportsOf_append,
        reportsOf_extractOne, ih, List.flatMap_append]
      split <;> simp

/-- The rounds of a call that succeeds see what had been walked then. -/
theorem reportsOf_step {call : ExtractCall} (hrecursive : survey.settings.isRecursive = true)
    (hok : (call.step survey).outcome = .ok ()) :
    (call.step survey).survey.walked = (call.afterWalk survey).walked ∧
      reportsOf .invalidDeclaration (diagnosticsOf (call.step survey).events) =
        ((call.afterWalk survey).roundsAll call.header (call.afterWalk survey).walked
          call.selections).flatMap fun _ => faultReports (call.afterWalk survey).walked := by
  obtain ⟨⟨decls, hdecls⟩, hstep⟩ := ExtractCall.step_survey_of_ok hrecursive hok
  have hwalked : decls = (call.afterWalk survey).walked := declsOf_walked hrecursive hdecls
  constructor
  · rw [hstep, (extractAll_frame (call.afterWalk survey) call.header _ call.selections).2.1]
  · rw [ExtractCall.step_of_ok hdecls, hwalked]
    simp only [diagnosticsOf_append, diagnosticsOf_declsOf, List.nil_append]
    exact reportsOf_extractAll call.header _ call.selections

/-- The rounds of calls that all succeed report what is invalid among the declarations that had
been walked. -/
theorem reportsOf_calls {calls : List ExtractCall}
    (hrecursive : survey.settings.isRecursive = true)
    (hrun : survey.afterCalls calls = some final) :
    (Gathering.performAll survey (calls.map .extract)).1 = final ∧
      reportsOf .invalidDeclaration
          (diagnosticsOf (Gathering.performAll survey (calls.map .extract)).2) =
        (survey.rounds calls).flatMap fun reach => faultReports (final.walked.take reach) := by
  induction calls generalizing survey with
  | nil =>
      obtain rfl := Option.some.inj hrun
      exact ⟨rfl, rfl⟩
  | cons call calls ih =>
      obtain ⟨hok, hrest⟩ := afterCalls_cons hrun
      obtain ⟨hsettings, -⟩ := step_frame hrecursive hok
      have hrecursive' := hsettings ▸ hrecursive
      obtain ⟨hwalked, hreports⟩ := reportsOf_step hrecursive hok
      have hprefix := afterCalls_walked hrecursive' hrest
      rw [hwalked] at hprefix
      obtain ⟨hfinal, hlater⟩ := ih hrecursive' hrest
      refine ⟨hfinal, ?_⟩
      simp only [List.map_cons, Gathering.performAll, Gathering.perform, rounds,
        diagnosticsOf_append, reportsOf_append, hreports, hlater, List.flatMap_append]
      congr 1
      refine List.flatMap_congr fun reach hmem => ?_
      rw [eq_of_mem_roundsAll hmem, ← List.prefix_iff_eq_take.1 hprefix]

/-- A round reports no more than is invalid in the end. -/
theorem length_reports_le (walked : List Decl) (rounds : List Nat) :
    (rounds.flatMap fun reach => faultReports (walked.take reach)).length ≤
      rounds.length * walked.countP Decl.isFaulty := by
  induction rounds with
  | nil => simp
  | cons reach rounds ih =>
      have hreach : (walked.take reach).countP Decl.isFaulty ≤ walked.countP Decl.isFaulty :=
        (List.take_sublist reach walked).countP_le
      rw [List.flatMap_cons, List.length_append, length_faultReports, List.length_cons,
        Nat.succ_mul]
      omega

theorem faultReports_eq_nil_iff {decls : List Decl} :
    faultReports decls = [] ↔ ∀ decl ∈ decls, decl.isFaulty = false := by
  rw [← List.length_eq_zero_iff, length_faultReports, List.countP_eq_zero]
  simp

end Rounds

/-- **How often invalid declarations are reported.**  Take calls on a new recursive survey that
all succeed.  Every class that is collected makes one round, and every round reports, in order,
each invalid declaration that had been walked by then.  So there are at most as many reports as
rounds times invalid declarations, and with one round at most as many as invalid declarations.
If the last round sees everything, there are no more reports than invalid declarations if and
only if no earlier round sees an invalid declaration. -/
theorem invalid_reported_every_round (settings : Settings) (calls : List ExtractCall)
    {final : Survey} (hrecursive : settings.isRecursive = true)
    (hrun : afterCalls { settings := settings } calls = some final) :
    let run := Gathering.performAll { settings := settings } (calls.map .extract)
    let count := countOf .invalidDeclaration (diagnosticsOf run.2)
    let rounds := rounds { settings := settings } calls
    let faulty := final.walked.countP Decl.isFaulty
    run.1 = final ∧
      reportsOf .invalidDeclaration (diagnosticsOf run.2) =
        rounds.flatMap (fun reach => faultReports (final.walked.take reach)) ∧
      count ≤ rounds.length * faulty ∧
      (rounds.length ≤ 1 → count ≤ faulty) ∧
      (rounds.getLast? = some final.walked.length →
        (count ≤ faulty ↔ ∀ reach ∈ rounds.dropLast, ∀ decl ∈ final.walked.take reach,
          decl.isFaulty = false)) := by
  intro run count rounds faulty
  obtain ⟨hfinal, hreports⟩ := reportsOf_calls hrecursive hrun
  have hcount : count =
      (rounds.flatMap fun reach => faultReports (final.walked.take reach)).length :=
    (length_reportsOf _ _).symm.trans (congrArg List.length hreports)
  have hbound : count ≤ rounds.length * faulty := hcount ▸ length_reports_le final.walked rounds
  refine ⟨hfinal, hreports, hbound, ?_, ?_⟩
  · intro hone
    calc count ≤ rounds.length * faulty := hbound
      _ ≤ 1 * faulty := Nat.mul_le_mul_right faulty hone
      _ = faulty := Nat.one_mul faulty
  · intro hlast
    -- The last round alone makes the number full, so every earlier report is one too many.
    have hsplit : count =
        (rounds.dropLast.flatMap fun reach =>
          faultReports (final.walked.take reach)).length + faulty := by
      rw [hcount, ← List.dropLast_append_getLast? _ hlast, List.dropLast_concat,
        List.flatMap_append, List.length_append]
      simp [length_faultReports, faulty]
    have hnone : count ≤ faulty ↔ (rounds.dropLast.flatMap fun reach =>
        faultReports (final.walked.take reach)) = [] := by
      rw [hsplit, ← List.length_eq_zero_iff]
      omega
    rw [hnone, List.flatMap_eq_nil_iff]
    exact forall₂_congr fun _ _ => faultReports_eq_nil_iff

section Doubled

/-- Two classes in one header; a method of the first one is invalid. -/
def doubledUnit : SourceUnit where
  path := ⟨"a.h"⟩
  decls :=
    [{ kind := .constructor, name := "a", access := some .isPublic,
       lexicalParent := some (Parent.ofClass "a") },
      { kind := .method, name := "f", access := some .isPublic,
        lexicalParent := some (Parent.ofClass "a"), isInvalid := true },
      { kind := .constructor, name := "b", access := some .isPublic,
        lexicalParent := some (Parent.ofClass "b") }]

/-- The call that extracts both classes. -/
def doubledCall : ExtractCall where
  files := FileTree.empty
  frontend := UnitStore.toFrontend (UnitStore.ofList [doubledUnit])
  header := ⟨"a.h"⟩
  selections := [⟨"a", .isPublic⟩, ⟨"b", .isPublic⟩]

/-- The survey after the call. -/
def doubledFinal : Survey :=
  (doubledCall.step { settings := {} }).survey

/-- Both rounds see the invalid method, so there are more reports than invalid declarations. -/
theorem invalid_reported_every_round_doubled :
    let run := Gathering.performAll { settings := {} } [.extract doubledCall]
    rounds { settings := {} } [doubledCall] = [3, 3] ∧
      reportsOf .invalidDeclaration (diagnosticsOf run.2) =
        faultReports doubledUnit.decls ++ faultReports doubledUnit.decls ∧
      ¬ countOf .invalidDeclaration (diagnosticsOf run.2) ≤
        doubledFinal.walked.countP Decl.isFaulty := by
  have hrun : afterCalls { settings := {} } [doubledCall] = some doubledFinal := by
    have hok : (doubledCall.step { settings := {} }).outcome = .ok () := by decide +kernel
    simp only [afterCalls, hok, doubledFinal]
  have hrounds : rounds { settings := {} } [doubledCall] = [3, 3] := by decide +kernel
  have hwalked : doubledFinal.walked = doubledUnit.decls := by decide +kernel
  obtain ⟨-, hreports, -, -, hexact⟩ := invalid_reported_every_round {} [doubledCall] rfl hrun
  rw [hrounds, hwalked] at hreports hexact
  refine ⟨hrounds, hreports, ?_⟩
  rw [hwalked]
  intro hle
  have hclean := (hexact rfl).1 hle
  exact absurd (hclean 3 (by decide)) (by decide)

/-- A call that succeeds reports one invalid declaration twice. -/
theorem invalid_reported_twice :
    let run := Gathering.performAll { settings := {} } [.extract doubledCall]
    afterCalls { settings := {} } [doubledCall] ≠ none ∧
      run.1.walked.countP Decl.isFaulty = 1 ∧
      countOf .invalidDeclaration (diagnosticsOf run.2) = 2 := by
  decide +kernel

end Doubled

end Survey
end HeaderBindings
