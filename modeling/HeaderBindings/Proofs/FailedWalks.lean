import HeaderBindings.Proofs.SingleParse

/-!
# What a failed call leaves behind

A call fails if a header on its way has no unit.  It then leaves the registry and the
walked declarations as they were, but the headers that it marked stay marked.

**Repeating a call.**  If the header of the call itself had no unit, nothing was marked
and the call can be repeated.  If a header behind it had none, the repeated call finds
its header visited: it succeeds without asking the frontend, and looks its classes up
in what was walked before the failure.  What the marked headers declare is lost, and no
later call brings it back.

**Results.**
* `repeated_agrees_iff`: when a repeated call does what it would have done without the
  failure.
* `class_lost_after_failure`: a class that is not found any more.
-/

namespace HeaderBindings

/-- What is extracted depends on the survey through its registry only. -/
theorem Survey.registry_extractAll_congr {first second : Survey}
    (hregistry : first.registry = second.registry) (header : Path) (decls : List Decl)
    (selections : List Selection) :
    (first.extractAll header decls selections).1.registry =
      (second.extractAll header decls selections).1.registry := by
  induction selections generalizing first second with
  | nil => exact hregistry
  | cons selection selections ih =>
      rw [extractAll_cons, extractAll_cons]
      apply ih
      rw [extractOne_fst, extractOne_fst, hregistry]
      split
      · exact hregistry
      · rfl

namespace Survey

section Failure

variable {survey : Survey} {files : FileTree} {frontend : Frontend} {failure : ParseFailure}

/-- A walk that fails keeps nothing of what it found. -/
theorem walked_walk_of_error {root : SourceUnit}
    (hfails : (survey.walk files frontend root).outcome = .error failure) :
    (survey.walk files frontend root).survey.walked = survey.walked := by
  unfold walk at hfails ⊢
  split
  · next hrecursive =>
      rw [if_pos hrecursive] at hfails
      split
      · rfl
      · next hnew =>
          rw [if_neg hnew] at hfails
          simp only at hfails ⊢
          rw [hfails]
          exact List.append_nil _
  · rfl

theorem walked_parseAndWalk_of_error {header : Path}
    (hfails : (survey.parseAndWalk files frontend header).outcome = .error failure) :
    (survey.parseAndWalk files frontend header).survey.walked = survey.walked := by
  cases hparse : frontend.parse header with
  | error reason => simp only [parseAndWalk, hparse]
  | ok root =>
      simp only [parseAndWalk, hparse] at hfails ⊢
      exact walked_walk_of_error hfails

theorem walked_declsOf_of_error {header : Path}
    (hfails : (survey.declsOf files frontend header).outcome = .error failure) :
    (survey.declsOf files frontend header).survey.walked = survey.walked := by
  obtain hknown | ⟨outcome, hwalk, herror⟩ := survey.declsOf_cases files frontend header
  · rw [hknown]
  · rw [hwalk] at hfails ⊢
    exact walked_parseAndWalk_of_error (herror failure hfails)

end Failure

end Survey

namespace ExtractCall

section Failure

variable {survey : Survey} {call : ExtractCall} {failure : ParseFailure}

/-- A call fails because its walk does. -/
theorem declsOf_of_step_error (hfails : (call.step survey).outcome = .error failure) :
    (survey.declsOf call.files call.frontend call.header).outcome = .error failure := by
  cases hdecls : (survey.declsOf call.files call.frontend call.header).outcome with
  | error other =>
      rw [step_of_error hdecls] at hfails
      exact congrArg _ (Except.error.inj hfails)
  | ok decls =>
      rw [step_of_ok hdecls] at hfails
      cases hfails

/-- The header of a call that fails in recursive mode was new. -/
theorem header_new_of_step_error (hrecursive : survey.settings.isRecursive = true)
    (hfails : (call.step survey).outcome = .error failure) :
    survey.isVisited call.files call.header = false := by
  rw [← Bool.not_eq_true]
  intro hvisited
  have hdecls := declsOf_of_step_error hfails
  rw [Survey.declsOf_of_visited hrecursive hvisited] at hdecls
  cases hdecls

/-- A call whose header has no unit changes nothing. -/
theorem step_survey_of_missing (hrecursive : survey.settings.isRecursive = true)
    (hfails : (call.step survey).outcome = .error failure) {reason : String}
    (hparse : call.frontend.parse call.header = .error reason) :
    (call.step survey).survey = survey := by
  have hnew := header_new_of_step_error hrecursive hfails
  rw [step_of_error (declsOf_of_step_error hfails), afterWalk,
    Survey.declsOf_of_missing hrecursive hnew hparse]

/-- A call that fails leaves the registry and the walked declarations as they were. -/
theorem step_frame_of_error (hfails : (call.step survey).outcome = .error failure) :
    (call.step survey).survey.registry = survey.registry ∧
      (call.step survey).survey.walked = survey.walked := by
  have hdecls := declsOf_of_step_error hfails
  obtain ⟨hregistry, -⟩ := survey.declsOf_frame call.files call.frontend call.header
  rw [step_of_error hdecls]
  exact ⟨hregistry, Survey.walked_declsOf_of_error hdecls⟩

/-- A call that fails behind its header leaves the header marked. -/
theorem isVisited_of_step_error (hrecursive : survey.settings.isRecursive = true)
    (hfails : (call.step survey).outcome = .error failure) {root : SourceUnit}
    (hparse : call.frontend.parse call.header = .ok root)
    (hown : (visitKey call.files root.path).components =
      (visitKey call.files call.header).components) :
    (call.step survey).survey.isVisited call.files call.header = true := by
  have hnew := header_new_of_step_error hrecursive hfails
  obtain ⟨-, hvisited, -⟩ := call.step_walk survey
  rw [Survey.isVisited_eq_true_iff, hvisited,
    Survey.declsOf_of_parsed hrecursive hnew hparse hown]
  simp only [WalkSetting.visited_walkUnit]
  exact List.mem_append_left _ (List.mem_append_right _ List.mem_cons_self)

end Failure

section Repetition

variable {survey : Survey} {call : ExtractCall}

/-- A call on a visited header extracts from what was walked before, and asks for nothing. -/
theorem step_of_visited (hrecursive : survey.settings.isRecursive = true)
    (hvisited : survey.isVisited call.files call.header = true) :
    call.step survey =
      { survey := (survey.extractAll call.header survey.walked call.selections).1
        events := (survey.extractAll call.header survey.walked call.selections).2
        outcome := .ok () } := by
  simp only [step, Survey.extract, Survey.declsOf_of_visited hrecursive hvisited,
    List.nil_append]

/-- If a call brings up nothing new, it extracts what it would extract without a walk. -/
theorem registry_step_of_walked_eq (hrecursive : survey.settings.isRecursive = true)
    (hok : (call.step survey).outcome = .ok ())
    (hwalked : (call.step survey).survey.walked = survey.walked) :
    (call.step survey).survey.registry =
      (survey.extractAll call.header survey.walked call.selections).1.registry := by
  obtain ⟨-, hstep⟩ := step_survey_of_ok hrecursive hok
  obtain ⟨-, -, hafter, -⟩ := call.step_walk survey
  have hsame : (call.afterWalk survey).walked = survey.walked := hafter.symm.trans hwalked
  obtain ⟨hregistry, -⟩ := survey.declsOf_frame call.files call.frontend call.header
  rw [hstep, hsame]
  exact Survey.registry_extractAll_congr hregistry _ _ _

/-- **What becomes of a call that is repeated after a failure.**  The failed call leaves the
registry and the walked declarations as they were.  If its header had no unit, it leaves
everything as it was.  Otherwise the header stays marked: the repeated call succeeds without
asking for anything, no later call gets the unit of the header, and the repeated call agrees
with the call that was never preceded by a failure only if that one brings up nothing. -/
theorem repeated_agrees_iff {completed : Frontend} {failure : ParseFailure}
    (hrecursive : survey.settings.isRecursive = true)
    (hown : ∀ root, call.frontend.parse call.header = .ok root →
      (visitKey call.files root.path).components =
        (visitKey call.files call.header).components)
    (hfails : (call.step survey).outcome = .error failure)
    (hcompleted : (ExtractCall.step { call with frontend := completed } survey).outcome =
      .ok ()) :
    let failed := (call.step survey).survey
    let again := ExtractCall.step { call with frontend := completed } failed
    let fresh := ExtractCall.step { call with frontend := completed } survey
    failed.registry = survey.registry ∧ failed.walked = survey.walked ∧
      (∀ reason, call.frontend.parse call.header = .error reason → failed = survey) ∧
      ∀ root, call.frontend.parse call.header = .ok root →
        failed.isVisited call.files call.header = true ∧
          again.outcome = .ok () ∧ again.requests = [] ∧
          (∀ later : List ExtractCall,
            (∀ next ∈ later, next.files = call.files ∧ next.frontend.KeepsKeys call.files) →
              (visitKey call.files call.header).components ∉
                failed.parsedKeys call.files later) ∧
          ((again.survey.registry = fresh.survey.registry ∧
              again.survey.walked = fresh.survey.walked) ↔
            fresh.survey.walked = survey.walked) := by
  intro failed again fresh
  obtain ⟨hregistry, hwalked⟩ := step_frame_of_error hfails
  refine ⟨hregistry, hwalked, fun reason => step_survey_of_missing hrecursive hfails, ?_⟩
  intro root hparse
  have hvisited := isVisited_of_step_error hrecursive hfails hparse (hown root hparse)
  obtain ⟨-, -, -, hsettings⟩ := call.step_walk survey
  have hfailed : failed.settings.isRecursive = true := by
    rw [hsettings]
    exact hrecursive
  have hagain : again = _ := step_of_visited hfailed hvisited
  have hkept : again.survey.walked = survey.walked := by
    obtain ⟨-, hextracted, -⟩ :=
      failed.extractAll_frame call.header failed.walked call.selections
    rw [hagain]
    exact hextracted.trans hwalked
  refine ⟨hvisited, by rw [hagain], by rw [hagain], ?_, ?_, ?_⟩
  · intro later hlater hgiven
    exact (Survey.nodup_parsedKeys hfailed hlater).2 _ hgiven
      (Survey.isVisited_eq_true_iff.1 hvisited)
  -- The repeated call walks nothing, so agreement means that there was nothing to walk.
  · rintro ⟨-, hsame⟩
    rw [← hsame, hkept]
  · intro hnothing
    refine ⟨?_, hkept.trans hnothing.symm⟩
    have hfresh := registry_step_of_walked_eq hrecursive hcompleted hnothing
    rw [hagain, hfresh]
    change (failed.extractAll call.header failed.walked call.selections).1.registry = _
    rw [hwalked]
    exact Survey.registry_extractAll_congr hregistry _ _ _

end Repetition

section Lost

/-- A header with a constructor, which includes another header. -/
def lostRoot : SourceUnit where
  path := ⟨"a.h"⟩
  includes := [⟨"gone.h"⟩]
  decls :=
    [{ kind := .constructor, name := "a", access := some .isPublic,
       lexicalParent := some (Parent.ofClass "a") }]

/-- The units before the other header is there. -/
def lostStore : UnitStore := ⟨[lostRoot]⟩

/-- The units after the other header was registered. -/
def completedStore : UnitStore :=
  lostStore.register { path := ⟨"gone.h"⟩ }

/-- The extraction of the class. -/
def lostCall (store : UnitStore) : ExtractCall where
  files := FileTree.empty
  frontend := store.toFrontend
  header := ⟨"a.h"⟩
  selections := [⟨"a", .isPublic⟩]

/-- A survey that has not visited anything yet. -/
def lostStart : Survey where
  settings := {}

/-- The repeated call does not find what the call finds without the failure. -/
theorem repeated_agrees_iff_lost :
    let failed := ((lostCall lostStore).step lostStart).survey
    let again := (lostCall completedStore).step failed
    let fresh := (lostCall completedStore).step lostStart
    ((lostCall lostStore).step lostStart).outcome =
        .error ⟨⟨"gone.h"⟩, UnitStore.missingUnit⟩ ∧
      fresh.outcome = .ok () ∧
      ¬ (again.survey.registry = fresh.survey.registry ∧
          again.survey.walked = fresh.survey.walked) := by
  intro failed again fresh
  have hrecursive : lostStart.settings.isRecursive = true := rfl
  have hparse : (lostCall lostStore).frontend.parse (lostCall lostStore).header =
      .ok lostRoot := rfl
  have hown : ∀ root, (lostCall lostStore).frontend.parse (lostCall lostStore).header =
      .ok root → (visitKey (lostCall lostStore).files root.path).components =
        (visitKey (lostCall lostStore).files (lostCall lostStore).header).components := by
    intro root hroot
    obtain rfl := Except.ok.inj (hparse.symm.trans hroot)
    rfl
  have hfails : ((lostCall lostStore).step lostStart).outcome =
      .error ⟨⟨"gone.h"⟩, UnitStore.missingUnit⟩ := by
    decide +kernel
  have hcompleted : fresh.outcome = .ok () := by
    decide +kernel
  have hfound : fresh.survey.walked ≠ lostStart.walked := by
    decide +kernel
  obtain ⟨-, -, -, hrepeated⟩ := repeated_agrees_iff hrecursive hown hfails hcompleted
  obtain ⟨-, -, -, -, hagrees⟩ := hrepeated lostRoot hparse
  exact ⟨hfails, hcompleted, fun hsame => hfound (hagrees.1 hsame)⟩

/-- After the failure the header is marked and its class has no record, although the repeated
call succeeds; without the failure the class is found. -/
theorem class_lost_after_failure :
    let failed := ((lostCall lostStore).step lostStart).survey
    let again := (lostCall completedStore).step failed
    let fresh := (lostCall completedStore).step lostStart
    ((lostCall lostStore).step lostStart).outcome =
        .error ⟨⟨"gone.h"⟩, UnitStore.missingUnit⟩ ∧
      again.survey.isVisited FileTree.empty ⟨"a.h"⟩ = true ∧
      again.outcome = .ok () ∧ again.survey.walked = [] ∧
      again.survey.registry.records = [] ∧
      fresh.outcome = .ok () ∧ fresh.survey.walked = lostRoot.decls ∧
      (fresh.survey.registry.records.map fun record => record.classType.targetName) =
        ["A"] := by
  decide +kernel

end Lost

end ExtractCall
end HeaderBindings
