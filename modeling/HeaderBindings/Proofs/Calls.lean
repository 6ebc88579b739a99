import HeaderBindings.Survey.Extract

/-!
# Sequences of extractions

A run is a sequence of *calls* on one survey: each walks a header, in the files
and with the frontend of that moment, and extracts the selected classes.

**Results.**
* `declsOf_frame`, `extractAll_frame`: a walk leaves the registry alone, and
  extracting leaves everything else alone.
* `declsOf_cases`: the two ways to look a header up.
* `declsOf_walked`: in recursive mode classes are looked up in all that was walked.
* `step_of_error`, `step_of_ok`: a call is a walk, followed by an extraction if the walk
  succeeds.
* `afterCalls_walked`: what was walked stays walked.
-/

namespace HeaderBindings

/-- The walk of one header and the extraction of some classes. -/
structure ExtractCall where
  files : FileTree
  frontend : Frontend
  header : Path
  selections : List Selection

namespace Survey

section Walking

variable (survey : Survey) (tree : FileTree) (frontend : Frontend)

/-- A walk changes only what is visited and what is walked, and the latter only grows. -/
theorem walk_frame (unit : SourceUnit) :
    (survey.walk tree frontend unit).survey.registry = survey.registry ∧
      (survey.walk tree frontend unit).survey.settings = survey.settings ∧
        survey.walked <+: (survey.walk tree frontend unit).survey.walked := by
  unfold walk
  split
  · split
    · exact ⟨rfl, rfl, List.prefix_rfl⟩
    · exact ⟨rfl, rfl, List.prefix_append _ _⟩
  · exact ⟨rfl, rfl, List.prefix_rfl⟩

theorem parseAndWalk_frame (header : Path) :
    (survey.parseAndWalk tree frontend header).survey.registry = survey.registry ∧
      (survey.parseAndWalk tree frontend header).survey.settings = survey.settings ∧
        survey.walked <+: (survey.parseAndWalk tree frontend header).survey.walked := by
  unfold parseAndWalk
  split
  · exact ⟨rfl, rfl, List.prefix_rfl⟩
  · exact survey.walk_frame tree frontend _

/-- To look a header up is to do nothing, or to walk it and to fail if the walk does. -/
theorem declsOf_cases (header : Path) :
    survey.declsOf tree frontend header = { survey := survey, outcome := .ok survey.walked } ∨
      ∃ outcome : Except ParseFailure (List Decl),
        survey.declsOf tree frontend header =
            { survey.parseAndWalk tree frontend header with outcome := outcome } ∧
          ∀ failure, outcome = .error failure →
            (survey.parseAndWalk tree frontend header).outcome = .error failure := by
  unfold declsOf
  split
  · split
    · exact Or.inl rfl
    · refine Or.inr ⟨_, rfl, fun failure hfails => ?_⟩
      cases hwalk : (survey.parseAndWalk tree frontend header).outcome with
      | error other =>
          rw [hwalk] at hfails
          exact congrArg _ (Except.error.inj hfails)
      | ok decls =>
          rw [hwalk] at hfails
          cases hfails
  · exact Or.inr ⟨_, rfl, fun failure hfails => hfails⟩

theorem declsOf_frame (header : Path) :
    (survey.declsOf tree frontend header).survey.registry = survey.registry ∧
      (survey.declsOf tree frontend header).survey.settings = survey.settings ∧
        survey.walked <+: (survey.declsOf tree frontend header).survey.walked := by
  obtain hknown | ⟨outcome, hwalk, -⟩ := survey.declsOf_cases tree frontend header
  · rw [hknown]
    exact ⟨rfl, rfl, List.prefix_rfl⟩
  · rw [hwalk]
    exact survey.parseAndWalk_frame tree frontend header

variable {survey tree frontend}

/-- In recursive mode classes are looked up in everything that was walked. -/
theorem declsOf_walked (hrecursive : survey.settings.isRecursive = true) {header : Path}
    {decls : List Decl} (hok : (survey.declsOf tree frontend header).outcome = .ok decls) :
    decls = (survey.declsOf tree frontend header).survey.walked := by
  unfold declsOf at hok ⊢
  rw [if_pos hrecursive] at hok ⊢
  split at hok
  · next hvisited =>
      rw [if_pos hvisited]
      exact (Except.ok.inj hok).symm
  · next hvisited =>
      rw [if_neg hvisited]
      cases hstep : (survey.parseAndWalk tree frontend header).outcome with
      | error failure => simp [hstep, Except.map] at hok
      | ok found =>
          simp only [hstep, Except.map, Except.ok.injEq] at hok
          exact hok.symm

end Walking

section Extracting

variable (survey : Survey) (header : Path) (decls : List Decl)

/-- Extracting one class collects its members, unless the class has a record already. -/
theorem extractOne_fst (selection : Selection) :
    (survey.extractOne header decls selection).1 =
      if survey.registry.isExtracted selection.className then survey
      else
        { survey with
          registry := (HeaderBindings.collect selection survey.registry decls).1 } := by
  unfold extractOne
  split
  · rfl
  · dsimp only
    split <;> rfl

theorem extractAll_cons (selection : Selection) (selections : List Selection) :
    (survey.extractAll header decls (selection :: selections)).1 =
      ((survey.extractOne header decls selection).1.extractAll header decls selections).1 :=
  rfl

theorem extractOne_frame (selection : Selection) :
    (survey.extractOne header decls selection).1.visited = survey.visited ∧
      (survey.extractOne header decls selection).1.walked = survey.walked ∧
        (survey.extractOne header decls selection).1.settings = survey.settings := by
  rw [extractOne_fst]
  split <;> exact ⟨rfl, rfl, rfl⟩

/-- Extracting classes changes the registry only. -/
theorem extractAll_frame (selections : List Selection) :
    (survey.extractAll header decls selections).1.visited = survey.visited ∧
      (survey.extractAll header decls selections).1.walked = survey.walked ∧
        (survey.extractAll header decls selections).1.settings = survey.settings := by
  induction selections generalizing survey with
  | nil => exact ⟨rfl, rfl, rfl⟩
  | cons selection selections ih =>
      rw [extractAll_cons]
      obtain ⟨hvisited, hwalked, hsettings⟩ := survey.extractOne_frame header decls selection
      obtain ⟨hvisited', hwalked', hsettings'⟩ :=
        ih (survey.extractOne header decls selection).1
      exact ⟨hvisited'.trans hvisited, hwalked'.trans hwalked, hsettings'.trans hsettings⟩

end Extracting

end Survey

namespace ExtractCall

variable (call : ExtractCall) (survey : Survey)

/-- What a call does. -/
def step : Step Unit :=
  survey.extract call.files call.frontend call.header call.selections

/-- The survey right after the walk of a call. -/
def afterWalk : Survey :=
  (survey.declsOf call.files call.frontend call.header).survey

variable {call survey}

/-- A call whose walk fails does nothing else. -/
theorem step_of_error {failure : ParseFailure}
    (hdecls : (survey.declsOf call.files call.frontend call.header).outcome = .error failure) :
    call.step survey =
      { survey := call.afterWalk survey
        requests := (survey.declsOf call.files call.frontend call.header).requests
        events := (survey.declsOf call.files call.frontend call.header).events
        outcome := .error failure } := by
  simp only [step, Survey.extract, hdecls, afterWalk]

/-- A call whose walk succeeds extracts the selected classes after it. -/
theorem step_of_ok {decls : List Decl}
    (hdecls : (survey.declsOf call.files call.frontend call.header).outcome = .ok decls) :
    call.step survey =
      { survey := ((call.afterWalk survey).extractAll call.header decls call.selections).1
        requests := (survey.declsOf call.files call.frontend call.header).requests
        events := (survey.declsOf call.files call.frontend call.header).events ++
          ((call.afterWalk survey).extractAll call.header decls call.selections).2
        outcome := .ok () } := by
  simp only [step, Survey.extract, hdecls, afterWalk]

/-- A call that succeeds in recursive mode extracts from everything that was walked. -/
theorem step_survey_of_ok (hrecursive : survey.settings.isRecursive = true)
    (hok : (call.step survey).outcome = .ok ()) :
    (∃ decls, (survey.declsOf call.files call.frontend call.header).outcome = .ok decls) ∧
      (call.step survey).survey =
        ((call.afterWalk survey).extractAll call.header (call.afterWalk survey).walked
          call.selections).1 := by
  unfold step Survey.extract at hok ⊢
  cases hdecls : (survey.declsOf call.files call.frontend call.header).outcome with
  | error failure => simp [hdecls] at hok
  | ok decls =>
      have hwalked := Survey.declsOf_walked hrecursive hdecls
      refine ⟨⟨decls, rfl⟩, ?_⟩
      simp only [afterWalk, ← hwalked, hdecls]

end ExtractCall

namespace Survey

/-- The survey after calls that all succeed. -/
def afterCalls (survey : Survey) : List ExtractCall → Option Survey
  | [] => some survey
  | call :: calls =>
      match (call.step survey).outcome with
      | .ok () => afterCalls (call.step survey).survey calls
      | .error _ => none

theorem afterCalls_cons {survey final : Survey} {call : ExtractCall} {calls : List ExtractCall}
    (hrun : survey.afterCalls (call :: calls) = some final) :
    (call.step survey).outcome = .ok () ∧
      (call.step survey).survey.afterCalls calls = some final := by
  unfold afterCalls at hrun
  split at hrun
  · next hok => exact ⟨hok, hrun⟩
  · simp at hrun

/-- A call that succeeds keeps the settings and what was walked. -/
theorem step_frame {survey : Survey} {call : ExtractCall}
    (hrecursive : survey.settings.isRecursive = true)
    (hok : (call.step survey).outcome = .ok ()) :
    (call.step survey).survey.settings = survey.settings ∧
      survey.walked <+: (call.step survey).survey.walked := by
  obtain ⟨_, hstep⟩ := ExtractCall.step_survey_of_ok hrecursive hok
  obtain ⟨_, hsettings, hwalked⟩ :=
    survey.declsOf_frame call.files call.frontend call.header
  obtain ⟨_, hwalked', hsettings'⟩ := (call.afterWalk survey).extractAll_frame call.header
    (call.afterWalk survey).walked call.selections
  rw [hstep, hwalked', hsettings']
  exact ⟨hsettings, hwalked⟩

/-- What was walked stays walked. -/
theorem afterCalls_walked {survey final : Survey} {calls : List ExtractCall}
    (hrecursive : survey.settings.isRecursive = true)
    (hrun : survey.afterCalls calls = some final) : survey.walked <+: final.walked := by
  induction calls generalizing survey with
  | nil =>
      obtain rfl := Option.some.inj hrun
      exact List.prefix_rfl
  | cons call calls ih =>
      obtain ⟨hok, hrest⟩ := afterCalls_cons hrun
      obtain ⟨hsettings, hwalked⟩ := step_frame hrecursive hok
      exact hwalked.trans (ih (hsettings ▸ hrecursive) hrest)

end Survey
end HeaderBindings
