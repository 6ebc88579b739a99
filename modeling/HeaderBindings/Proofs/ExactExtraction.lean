import HeaderBindings.Proofs.Calls
import HeaderBindings.Proofs.RegistryView

/-!
# Extraction over whole runs

A class gets its methods in the call that makes its record, all of them and each
once, and no later call changes them.

**Idea.**  A record is made for the parent of a declaration that was walked.  A
later selection could add to it only through a parent with the same qualified
name; such a parent has the same name, so the class counts as extracted and the
selection is passed over.

**Results.**
* `extractOne_spec`: extracting one class keeps all classes that are there.
* `extraction_exact`: the methods of every record at the end of a run.
-/

namespace HeaderBindings

/-- Parents with the same qualified name have the same name. -/
def NamesAgree (decls : List Decl) : Prop :=
  ∀ d ∈ decls, ∀ e ∈ decls, ∀ p q,
    d.lexicalParent = some p → e.lexicalParent = some q → p.qualified = q.qualified →
      p.name = q.name

theorem NamesAgree.mono {first all : List Decl} (hall : NamesAgree all)
    (hfirst : first <+: all) : NamesAgree first :=
  fun d hd e he => hall d (hfirst.subset hd) e (hfirst.subset he)

namespace Survey

section Sound

/-- The registry is well formed, and every class was made for a parent that was walked. -/
structure Sound (survey : Survey) : Prop where
  wellFormed : survey.registry.WellFormed
  rooted : ∀ target qualified record,
    survey.registry.classOf? target = some (qualified, record) →
      ∃ decl ∈ survey.walked, ∃ parent, decl.lexicalParent = some parent ∧
        parent.name = record.classType.nativeName ∧ parent.qualified = qualified

theorem sound_start (settings : Settings) : Sound { settings := settings } where
  wellFormed := Registry.wellFormed_empty
  rooted := by
    intro target qualified record hclass
    simp [Registry.classOf?] at hclass

/-- A walk keeps a survey sound. -/
theorem Sound.afterWalk {survey : Survey} (hsound : survey.Sound) (call : ExtractCall) :
    (call.afterWalk survey).Sound := by
  obtain ⟨hregistry, _, hwalked⟩ :=
    survey.declsOf_frame call.files call.frontend call.header
  constructor
  · rw [ExtractCall.afterWalk, hregistry]
    exact hsound.wellFormed
  · intro target qualified record hclass
    rw [ExtractCall.afterWalk, hregistry] at hclass
    obtain ⟨decl, hdecl, hparent⟩ := hsound.rooted target qualified record hclass
    exact ⟨decl, hwalked.subset hdecl, hparent⟩

end Sound

section Selections

variable {survey : Survey} {selection : Selection} {target qualified : String}
  {record : ClassInterface}

/-- Declarations contribute nothing to a class that was made for another selection. -/
theorem Sound.methodsFor_eq_nil (hsound : survey.Sound) (hnames : NamesAgree survey.walked)
    (hnew : survey.registry.isExtracted selection.className = false)
    (hclass : survey.registry.classOf? target = some (qualified, record)) :
    selection.methodsFor target qualified survey.walked = [] := by
  rw [Selection.methodsFor, List.filterMap_eq_nil_iff]
  intro decl hdecl
  by_contra hsome
  obtain ⟨method, hmethod⟩ := Option.ne_none_iff_exists'.1 hsome
  cases hmember : selection.member? decl with
  | none => simp [Selection.methodFor?_of_not_member hmember] at hmethod
  | some found =>
      obtain ⟨kind, parent⟩ := found
      obtain ⟨_, hparent, _, hname⟩ := Selection.member?_eq_some_iff.1 hmember
      rw [Selection.methodFor?_of_member hmember] at hmethod
      have hqualified : parent.qualified = qualified := by
        by_contra hne
        simp [hne] at hmethod
      -- The class was made for a parent of the same name, so it counts as extracted.
      obtain ⟨other, hother, maker, hmaker, hrecord, hmade⟩ :=
        hsound.rooted target qualified record hclass
      have hsame := hnames decl hdecl other hother parent maker hparent hmaker
        (hqualified.trans hmade.symm)
      have hextracted := hsound.wellFormed.isExtracted_iff.2
        ⟨target, qualified, record, hclass, hrecord.symm.trans (hsame.symm.trans hname)⟩
      simp [hnew] at hextracted

/-- The class of a target name is made when a selection is extracted, after some earlier ones. -/
def MadeBy (survey : Survey) (header : Path) (earlier : List Selection) (selection : Selection)
    (target : String) : Prop :=
  let ready := (survey.extractAll header survey.walked earlier).1
  ready.registry.classOf? target = none ∧
    ((ready.extractOne header survey.walked selection).1.registry.classOf? target).isSome

/-- Extracting one class keeps the survey sound and all classes that are there; a new class has
the name that was selected and all methods that the declarations contribute to it. -/
theorem extractOne_spec (hsound : survey.Sound) (hnames : NamesAgree survey.walked)
    (header : Path) (selection : Selection) :
    (survey.extractOne header survey.walked selection).1.Sound ∧
      (∀ target found, survey.registry.classOf? target = some found →
        (survey.extractOne header survey.walked selection).1.registry.classOf? target =
          some found) ∧
      ∀ target qualified record, survey.registry.classOf? target = none →
        (survey.extractOne header survey.walked selection).1.registry.classOf? target =
          some (qualified, record) →
        record.classType.nativeName = selection.className ∧
          record.classType.methods = selection.methodsFor target qualified survey.walked := by
  rw [extractOne_fst]
  split
  · next hold =>
      refine ⟨hsound, fun target found hfound => hfound, ?_⟩
      intro target qualified record hnone hsome
      simp [hnone] at hsome
  · next hnew =>
      rw [Bool.not_eq_true] at hnew
      obtain ⟨hwf, hclass⟩ := hsound.wellFormed.collect selection survey.walked
      have hkept : ∀ target found, survey.registry.classOf? target = some found →
          (HeaderBindings.collect selection survey.registry survey.walked).1.classOf? target =
            some found := by
        rintro target ⟨qualified, record⟩ hfound
        rw [hclass, hfound, Selection.gather,
          hsound.methodsFor_eq_nil hnames hnew hfound]
        simp
      have hmade : ∀ target qualified record, survey.registry.classOf? target = none →
          (HeaderBindings.collect selection survey.registry survey.walked).1.classOf? target =
            some (qualified, record) →
          ∃ parent, selection.firstParent? target survey.walked = some parent ∧
            parent.qualified = qualified ∧
            record = (ClassInterface.fresh target selection.className).withMethods
              (selection.methodsFor target qualified survey.walked) := by
        intro target qualified record hnone hsome
        rw [hclass, hnone, Selection.gather] at hsome
        obtain ⟨parent, hfirst, heq⟩ := Option.map_eq_some_iff.1 hsome
        obtain ⟨rfl, rfl⟩ := Prod.mk.inj heq
        exact ⟨parent, hfirst, rfl, rfl⟩
      refine ⟨⟨hwf, ?_⟩, hkept, ?_⟩
      · intro target qualified record hsome
        cases hbefore : survey.registry.classOf? target with
        | some found =>
            rw [hkept target found hbefore] at hsome
            obtain rfl := Option.some.inj hsome
            exact hsound.rooted target qualified record hbefore
        | none =>
            obtain ⟨parent, hfirst, hqualified, rfl⟩ :=
              hmade target qualified record hbefore hsome
            obtain ⟨_, decl, hdecl, kind, hmember⟩ := Selection.exists_of_firstParent? hfirst
            obtain ⟨_, hparent, _, hname⟩ := Selection.member?_eq_some_iff.1 hmember
            exact ⟨decl, hdecl, parent, hparent, hname, hqualified⟩
      · intro target qualified record hnone hsome
        obtain ⟨parent, _, _, rfl⟩ := hmade target qualified record hnone hsome
        exact ⟨rfl, by simp [ClassInterface.fresh]⟩

/-- Extracting several classes keeps the survey sound and all classes that are there; a new class
was made by one of the selections. -/
theorem extractAll_spec {survey : Survey} (hsound : survey.Sound)
    (hnames : NamesAgree survey.walked) (header : Path) (selections : List Selection) :
    (survey.extractAll header survey.walked selections).1.Sound ∧
      (∀ target found, survey.registry.classOf? target = some found →
        (survey.extractAll header survey.walked selections).1.registry.classOf? target =
          some found) ∧
      ∀ target qualified record, survey.registry.classOf? target = none →
        (survey.extractAll header survey.walked selections).1.registry.classOf? target =
          some (qualified, record) →
        ∃ earlier selection later, selections = earlier ++ selection :: later ∧
          MadeBy survey header earlier selection target ∧
          record.classType.nativeName = selection.className ∧
          record.classType.methods = selection.methodsFor target qualified survey.walked := by
  induction selections generalizing survey with
  | nil =>
      refine ⟨hsound, fun target found hfound => hfound, ?_⟩
      intro target qualified record hnone hsome
      simp only [extractAll] at hsome
      simp [hnone] at hsome
  | cons selection selections ih =>
      obtain ⟨hone, hkept, hmade⟩ := extractOne_spec hsound hnames header selection
      have hwalked := (survey.extractOne_frame header survey.walked selection).2.1
      obtain ⟨hall, hkeptAll, hmadeAll⟩ := ih hone (hwalked.symm ▸ hnames)
      rw [hwalked] at hall hkeptAll hmadeAll
      rw [extractAll_cons]
      refine ⟨hall, fun target found hfound =>
        hkeptAll target found (hkept target found hfound), ?_⟩
      intro target qualified record hnone hsome
      cases hnext :
          (survey.extractOne header survey.walked selection).1.registry.classOf? target with
      | some found =>
          rw [hkeptAll target found hnext] at hsome
          obtain rfl := Option.some.inj hsome
          obtain ⟨hname, hmethods⟩ := hmade target qualified record hnone hnext
          refine ⟨[], selection, selections, rfl, ⟨hnone, ?_⟩, hname, hmethods⟩
          simp [extractAll, hnext]
      | none =>
          obtain ⟨earlier, chosen, later, hsplit, hby, hname, hmethods⟩ :=
            hmadeAll target qualified record hnext hsome
          refine ⟨selection :: earlier, chosen, later, by simp [hsplit], ?_, hname, hmethods⟩
          obtain ⟨hbefore, hafter⟩ := hby
          rw [hwalked] at hbefore hafter
          exact ⟨hbefore, hafter⟩

end Selections

section Runs

/-- A call that succeeds keeps the survey sound and all classes that are there. -/
theorem step_spec {survey : Survey} {call : ExtractCall}
    (hrecursive : survey.settings.isRecursive = true) (hsound : survey.Sound)
    (hok : (call.step survey).outcome = .ok ())
    (hnames : NamesAgree (call.afterWalk survey).walked) :
    (call.step survey).survey.Sound ∧
      (∀ target found, survey.registry.classOf? target = some found →
        (call.step survey).survey.registry.classOf? target = some found) ∧
      ∀ target qualified record, survey.registry.classOf? target = none →
        (call.step survey).survey.registry.classOf? target = some (qualified, record) →
        ∃ earlier selection later, call.selections = earlier ++ selection :: later ∧
          MadeBy (call.afterWalk survey) call.header earlier selection target ∧
          record.classType.nativeName = selection.className ∧
          record.classType.methods =
            selection.methodsFor target qualified (call.afterWalk survey).walked := by
  obtain ⟨_, hstep⟩ := ExtractCall.step_survey_of_ok hrecursive hok
  have hregistry : (call.afterWalk survey).registry = survey.registry :=
    (survey.declsOf_frame call.files call.frontend call.header).1
  rw [hstep, ← hregistry]
  exact extractAll_spec (hsound.afterWalk call) hnames call.header call.selections

/-- A run keeps all classes that are there; a new class was made by one of the calls. -/
theorem afterCalls_spec {start final : Survey} {calls : List ExtractCall}
    (hrecursive : start.settings.isRecursive = true) (hsound : start.Sound)
    (hrun : start.afterCalls calls = some final) (hnames : NamesAgree final.walked) :
    final.Sound ∧
      (∀ target found, start.registry.classOf? target = some found →
        final.registry.classOf? target = some found) ∧
      ∀ target qualified record, start.registry.classOf? target = none →
        final.registry.classOf? target = some (qualified, record) →
        ∃ before call after survey earlier selection later,
          calls = before ++ call :: after ∧
          start.afterCalls before = some survey ∧
          call.selections = earlier ++ selection :: later ∧
          MadeBy (call.afterWalk survey) call.header earlier selection target ∧
          record.classType.nativeName = selection.className ∧
          record.classType.methods =
            selection.methodsFor target qualified (call.afterWalk survey).walked := by
  induction calls generalizing start with
  | nil =>
      obtain rfl := Option.some.inj hrun
      refine ⟨hsound, fun target found hfound => hfound, ?_⟩
      intro target qualified record hnone hsome
      simp [hnone] at hsome
  | cons call calls ih =>
      obtain ⟨hok, hrest⟩ := afterCalls_cons hrun
      obtain ⟨hsettings, _⟩ := step_frame hrecursive hok
      have hrecursive' : (call.step start).survey.settings.isRecursive = true :=
        hsettings ▸ hrecursive
      have hwalked : (call.afterWalk start).walked <+: final.walked := by
        obtain ⟨_, hstep⟩ := ExtractCall.step_survey_of_ok hrecursive hok
        have hframe := (call.afterWalk start).extractAll_frame call.header
          (call.afterWalk start).walked call.selections
        rw [← hframe.2.1, ← hstep]
        exact afterCalls_walked hrecursive' hrest
      obtain ⟨hone, hkept, hmade⟩ :=
        step_spec hrecursive hsound hok (hnames.mono hwalked)
      obtain ⟨hall, hkeptAll, hmadeAll⟩ := ih hrecursive' hone hrest
      refine ⟨hall, fun target found hfound =>
        hkeptAll target found (hkept target found hfound), ?_⟩
      intro target qualified record hnone hsome
      cases hnext : (call.step start).survey.registry.classOf? target with
      | some found =>
          rw [hkeptAll target found hnext] at hsome
          obtain rfl := Option.some.inj hsome
          obtain ⟨earlier, selection, later, hsplit, hby, hname, hmethods⟩ :=
            hmade target qualified record hnone hnext
          exact ⟨[], call, calls, start, earlier, selection, later, rfl, rfl, hsplit, hby,
            hname, hmethods⟩
      | none =>
          obtain ⟨before, chosen, after, survey, earlier, selection, later, hcalls, hreached,
            hfound⟩ := hmadeAll target qualified record hnext hsome
          refine ⟨call :: before, chosen, after, survey, earlier, selection, later,
            by simp [hcalls], ?_, hfound⟩
          rw [afterCalls, hok]
          exact hreached

/-- **Extraction is exact.**  After a run of successful calls on a new survey in recursive mode,
every record was made for one selection of one call, and its methods are those that the
declarations walked by then contribute to it: all of them, in order, each once. -/
theorem extraction_exact
    {settings : Settings} {calls : List ExtractCall} {final : Survey}
    (hrecursive : settings.isRecursive = true)
    (hrun : Survey.afterCalls { settings := settings } calls = some final)
    (hnames : NamesAgree final.walked)
    {position : Nat} {record : ClassInterface}
    (hrecord : final.registry.records[position]? = some record) :
    ∃ before call after survey earlier selection later qualified,
      calls = before ++ call :: after ∧
      Survey.afterCalls { settings := settings } before = some survey ∧
      call.selections = earlier ++ selection :: later ∧
      MadeBy (call.afterWalk survey) call.header earlier selection
        record.classType.targetName ∧
      record.classType.nativeName = selection.className ∧
      final.registry.index.lookup record.classType.targetName = some ⟨position, qualified⟩ ∧
      record.classType.methods =
        (call.afterWalk survey).walked.filterMap
          (selection.methodFor? record.classType.targetName qualified) := by
  obtain ⟨hsound, _, hmade⟩ := afterCalls_spec hrecursive (sound_start settings) hrun hnames
  obtain ⟨qualified, hlookup, hclass⟩ := hsound.wellFormed.exists_classOf? hrecord
  obtain ⟨before, call, after, survey, earlier, selection, later, hcalls, hreached, hsplit, hby,
    hname, hmethods⟩ := hmade _ qualified record (by simp [Registry.classOf?]) hclass
  exact ⟨before, call, after, survey, earlier, selection, later, qualified, hcalls, hreached,
    hsplit, hby, hname, hlookup, hmethods⟩

end Runs

section Repeated

/-- A constructor in one header and two methods in another one. -/
def repeatedFrontend : Frontend :=
  UnitStore.toFrontend
    ⟨[{ path := ⟨"ex.h"⟩
        includes := [⟨"basic.h"⟩]
        decls :=
          [{ kind := .constructor, name := "ex", access := some .isPublic,
             lexicalParent := some (Parent.ofClass "ex") }] },
      { path := ⟨"basic.h"⟩
        decls :=
          [{ kind := .method, name := "get", access := some .isPublic,
             lexicalParent := some (Parent.ofClass "ex") },
            { kind := .method, name := "set", access := some .isPrivate,
              lexicalParent := some (Parent.ofClass "ex") }] }]⟩

/-- The class is asked for three times, with two accesses and through two headers. -/
def repeatedCalls : List ExtractCall :=
  [⟨FileTree.empty, repeatedFrontend, ⟨"ex.h"⟩, [⟨"ex", .isPublic⟩, ⟨"ex", .isPrivate⟩]⟩,
    ⟨FileTree.empty, repeatedFrontend, ⟨"./basic.h"⟩, [⟨"ex", .isPublic⟩]⟩]

theorem repeated_runs : (Survey.afterCalls { settings := {} } repeatedCalls).isSome := by
  decide +kernel

/-- The survey at the end. -/
def repeatedFinal : Survey :=
  (Survey.afterCalls { settings := {} } repeatedCalls).get repeated_runs

theorem repeated_namesAgree : NamesAgree repeatedFinal.walked := by
  have hparents : ∀ decl ∈ repeatedFinal.walked,
      decl.lexicalParent = some (Parent.ofClass "ex") := by
    decide +kernel
  intro d hd e he p q hp hq _
  rw [hparents d hd] at hp
  rw [hparents e he] at hq
  rw [← Option.some.inj hp, ← Option.some.inj hq]

/-- The record keeps the two public methods of the first call. -/
theorem extraction_exact_repeated :
    ∃ record, repeatedFinal.registry.records[0]? = some record ∧
      record.classType.methods.map Method.nativeName = ["get", "ex"] ∧
      ∃ call ∈ repeatedCalls, ∃ survey selection qualified,
        record.classType.methods =
          (ExtractCall.afterWalk call survey).walked.filterMap
            (Selection.methodFor? selection record.classType.targetName qualified) := by
  obtain ⟨record, hrecord⟩ : ∃ record, repeatedFinal.registry.records[0]? = some record :=
    Option.isSome_iff_exists.1 (by decide +kernel)
  have hmethods : (repeatedFinal.registry.records[0]?).map
      (fun record => record.classType.methods.map Method.nativeName) = some ["get", "ex"] := by
    decide +kernel
  rw [hrecord] at hmethods
  obtain ⟨before, call, after, survey, _, selection, _, qualified, hcalls, _, _, _, _, _,
    hexact⟩ := extraction_exact rfl (Option.some_get repeated_runs).symm repeated_namesAgree
      hrecord
  refine ⟨record, hrecord, Option.some.inj hmethods, call, ?_, survey, selection, qualified,
    hexact⟩
  rw [hcalls]
  simp

end Repeated

end Survey
end HeaderBindings
