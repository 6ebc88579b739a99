import HeaderBindings.Proofs.RegistryGrowth
import HeaderBindings.Proofs.WalkReach
import Mathlib.Data.List.Induction

/-!
# Classes that are never merged

Two classes may have the same target name, because namespaces, underscores and letter
case do not survive in it.  The class that comes first gets the record; a member of the
other one is refused, and a collision is reported at its place.

**Handovers.**  A run records members by handing over declarations one by one, each with
the selection that it is held against.  `Gathering.handovers` lists them, and `receive` is
what they do to a registry: the run does the same to its survey and reports the same
problems (`received_handovers`).

**Method.**  The class of a target name can be read off the handovers: it was made for the
parent of the first member with this target name, and its methods are those of the members
with the same qualified name (`classOf?_receive`).

**Results.**
* `collectDecl_of_other`: a member of another class changes nothing and is reported
  once.
* `classes_kept_apart`: what the records of a run were made from.
-/

namespace HeaderBindings

section Handovers

/-- A declaration that is handed over, and the selection that it is held against. -/
structure Handover where
  selection : Selection
  decl : Decl

namespace Handover

/-- The kind and parent of the declaration, if it is a member that fits. -/
def member? (handover : Handover) : Option (MethodKind × Parent) :=
  handover.selection.member? handover.decl

/-- The parent of the declaration, if it is a member with a target name. -/
def parentFor? (target : String) (handover : Handover) : Option Parent :=
  match handover.member? with
  | some (_, parent) => if parent.target = target then some parent else none
  | none => none

/-- The method that the declaration contributes to a class. -/
def methodFor? (target qualified : String) (handover : Handover) : Option Method :=
  handover.selection.methodFor? target qualified handover.decl

theorem parentFor?_eq_some_iff {handover : Handover} {target : String} {parent : Parent} :
    handover.parentFor? target = some parent ↔
      (∃ kind, handover.member? = some (kind, parent)) ∧ parent.target = target := by
  unfold parentFor?
  cases handover.member? with
  | none => simp
  | some found =>
      obtain ⟨kind, maker⟩ := found
      simp only
      split
      · next htarget =>
          constructor
          · intro heq
            obtain rfl := Option.some.inj heq
            exact ⟨⟨kind, rfl⟩, htarget⟩
          · rintro ⟨⟨_, heq⟩, _⟩
            obtain ⟨_, rfl⟩ := Prod.mk.inj (Option.some.inj heq)
            rfl
      · next htarget =>
          constructor
          · intro heq
            simp at heq
          · rintro ⟨⟨_, heq⟩, hsame⟩
            obtain ⟨_, rfl⟩ := Prod.mk.inj (Option.some.inj heq)
            exact absurd hsame htarget

/-- A member contributes a method to the class with the names of its parent. -/
theorem methodFor?_of_member {handover : Handover} {kind : MethodKind} {parent : Parent}
    (hmember : handover.member? = some (kind, parent)) (qualified : String) :
    handover.methodFor? parent.target qualified =
      if parent.qualified = qualified then some (buildMethod kind handover.decl parent)
      else none := by
  have hmethod := Selection.methodFor?_of_member hmember parent.target qualified
  simp only [and_true] at hmethod
  exact hmethod

/-- Whoever is no member with a target name contributes nothing to its class. -/
theorem methodFor?_of_parentFor? {handover : Handover} {target : String}
    (hnone : handover.parentFor? target = none) (qualified : String) :
    handover.methodFor? target qualified = none := by
  cases hmember : handover.member? with
  | none => exact Selection.methodFor?_of_not_member hmember target qualified
  | some found =>
      obtain ⟨kind, parent⟩ := found
      have htarget : parent.target ≠ target := by
        intro heq
        have hsome := parentFor?_eq_some_iff.2 ⟨⟨kind, hmember⟩, heq⟩
        simp [hnone] at hsome
      have hmethod := Selection.methodFor?_of_member hmember target qualified
      rw [if_neg fun hboth => htarget hboth.2] at hmethod
      exact hmethod

end Handover

/-- Hands declarations over to a registry. -/
def receive (registry : Registry) : List Handover → Registry × List Event
  | [] => (registry, [])
  | handover :: handovers =>
      let (registry, events) := collectDecl handover.selection registry handover.decl
      let (registry, more) := receive registry handovers
      (registry, events ++ more)

theorem receive_append (registry : Registry) (first second : List Handover) :
    receive registry (first ++ second) =
      ((receive (receive registry first).1 second).1,
        (receive registry first).2 ++ (receive (receive registry first).1 second).2) := by
  induction first generalizing registry with
  | nil => simp [receive]
  | cons handover handovers ih => simp [receive, ih]

/-- Collecting is handing over every declaration. -/
theorem collect_eq_receive (selection : Selection) (registry : Registry) (decls : List Decl) :
    collect selection registry decls = receive registry (decls.map (Handover.mk selection)) := by
  induction decls generalizing registry with
  | nil => rfl
  | cons decl decls ih => simp [collect, receive, ih]

end Handovers

section Classes

/-- What one handover does to the class of a target name. -/
theorem Registry.WellFormed.collectDecl {registry : Registry} (hwf : registry.WellFormed)
    (handover : Handover) :
    (collectDecl handover.selection registry handover.decl).1.WellFormed ∧
      ∀ target,
        (HeaderBindings.collectDecl handover.selection registry handover.decl).1.classOf?
            target =
          match handover.member? with
          | some (kind, parent) =>
              if target = parent.target then
                some (parent.enter (buildMethod kind handover.decl parent)
                  (registry.classOf? target))
              else registry.classOf? target
          | none => registry.classOf? target := by
  rw [collectDecl_fst]
  unfold Handover.member?
  cases handover.selection.member? handover.decl with
  | none => exact ⟨hwf, fun _ => rfl⟩
  | some found => exact hwf.recordMember handover.decl found.1 found.2

theorem wellFormed_receive {registry : Registry} (hwf : registry.WellFormed)
    (handovers : List Handover) : (receive registry handovers).1.WellFormed := by
  induction handovers generalizing registry with
  | nil => exact hwf
  | cons handover handovers ih => exact ih (hwf.collectDecl handover).1

/-- The class of a target name as the handovers make it. -/
def classMade? (target : String) (handovers : List Handover) :
    Option (String × ClassInterface) :=
  (handovers.findSome? (Handover.parentFor? target)).map fun maker =>
    (maker.qualified,
      (ClassInterface.fresh target maker.name).withMethods
        (handovers.filterMap (Handover.methodFor? target maker.qualified)))

/-- One more handover changes the class of a target name as `Parent.enter` says. -/
theorem classMade?_concat (target : String) (handovers : List Handover) (handover : Handover) :
    classMade? target (handovers ++ [handover]) =
      match handover.member? with
      | some (kind, parent) =>
          if target = parent.target then
            some (parent.enter (buildMethod kind handover.decl parent)
              (classMade? target handovers))
          else classMade? target handovers
      | none => classMade? target handovers := by
  -- A handover that is no member with this target name leaves the class alone.
  have hidle : handover.parentFor? target = none →
      classMade? target (handovers ++ [handover]) = classMade? target handovers := by
    intro hnone
    simp [classMade?, hnone, Handover.methodFor?_of_parentFor? hnone]
  cases hmember : handover.member? with
  | none =>
      refine hidle ?_
      simp [Handover.parentFor?, hmember]
  | some found =>
      obtain ⟨kind, parent⟩ := found
      simp only
      split
      · next htarget =>
          subst htarget
          have hparent : handover.parentFor? parent.target = some parent :=
            Handover.parentFor?_eq_some_iff.2 ⟨⟨kind, hmember⟩, rfl⟩
          have hown := Handover.methodFor?_of_member hmember
          cases hfirst : handovers.findSome? (Handover.parentFor? parent.target) with
          | none =>
              have hothers : handovers.filterMap
                  (Handover.methodFor? parent.target parent.qualified) = [] := by
                rw [List.filterMap_eq_nil_iff]
                intro other hother
                exact Handover.methodFor?_of_parentFor?
                  (List.findSome?_eq_none_iff.1 hfirst other hother) _
              simp [classMade?, hfirst, hparent, hothers, hown, Parent.enter]
          | some maker =>
              by_cases hqualified : maker.qualified = parent.qualified
              · simp [classMade?, hfirst, hown, hqualified, Parent.enter]
              · simp [classMade?, hfirst, hown, hqualified, Ne.symm hqualified, Parent.enter]
      · next htarget =>
          refine hidle ?_
          simp [Handover.parentFor?, hmember, Ne.symm htarget]

/-- The classes of a registry can be read off the handovers that filled it. -/
theorem classOf?_receive (handovers : List Handover) (target : String) :
    (receive {} handovers).1.classOf? target = classMade? target handovers := by
  induction handovers using List.reverseRecOn with
  | nil => rfl
  | append_singleton handovers handover ih =>
      have hwf := wellFormed_receive Registry.wellFormed_empty handovers
      have hlast := (hwf.collectDecl handover).2 target
      rw [receive_append, classMade?_concat, ← ih]
      exact hlast

end Classes

section Collisions

/-- The collisions among some events. -/
def collisionsOf (events : List Event) : List Diagnostic :=
  (diagnosticsOf events).filter fun diagnostic => diagnostic.kind = .targetNameCollision

theorem collisionsOf_append (first second : List Event) :
    collisionsOf (first ++ second) = collisionsOf first ++ collisionsOf second := by
  simp [collisionsOf]

theorem collisionsOf_map_problem {diagnostics : List Diagnostic}
    (hkinds : ∀ diagnostic ∈ diagnostics, diagnostic.kind ≠ .targetNameCollision) :
    collisionsOf (diagnostics.map Event.problem) = [] := by
  rw [collisionsOf, diagnosticsOf_map_problem, List.filter_eq_nil_iff]
  intro diagnostic hmem hkind
  exact hkinds diagnostic hmem (of_decide_eq_true hkind)

theorem Decl.kind_of_mem_problems {decl : Decl} {diagnostic : Diagnostic}
    (hmem : diagnostic ∈ decl.problems) : diagnostic.kind ≠ .targetNameCollision := by
  unfold Decl.problems at hmem
  split at hmem
  · obtain rfl := List.mem_singleton.1 hmem
    simp
  · simp at hmem

theorem Target.kind_of_mem_unmappedProblems {target : String} {position : Position}
    {diagnostic : Diagnostic} (hmem : diagnostic ∈ Target.unmappedProblems target position) :
    diagnostic.kind ≠ .targetNameCollision := by
  unfold Target.unmappedProblems at hmem
  split at hmem
  · obtain rfl := List.mem_singleton.1 hmem
    simp
  · simp at hmem

theorem Argument.kind_of_mem_paramProblems {argument : Argument} {diagnostic : Diagnostic}
    (hmem : diagnostic ∈ argument.paramProblems) : diagnostic.kind ≠ .targetNameCollision := by
  simp only [Argument.paramProblems, List.mem_append] at hmem
  rcases hmem with ((hguess | hkind) | hunmapped) | hconversion
  · unfold Argument.problems at hguess
    split at hguess
    · obtain rfl := List.mem_singleton.1 hguess
      simp
    · simp at hguess
  · unfold Target.paramKindProblems at hkind
    split at hkind
    · simp at hkind
    · obtain rfl := List.mem_singleton.1 hkind
      simp
  · exact Target.kind_of_mem_unmappedProblems hunmapped
  · unfold Target.conversionProblems at hconversion
    split at hconversion
    · simp at hconversion
    · obtain rfl := List.mem_singleton.1 hconversion
      simp

theorem diagnosticsOf_toTargetRemarks (spelling : String) :
    diagnosticsOf (Target.toTargetRemarks spelling) = [] := by
  unfold Target.toTargetRemarks
  split <;> rfl

/-- Building a method reports no collision. -/
theorem collisionsOf_methodEvents (kind : MethodKind) (decl : Decl) (parent : Parent) :
    collisionsOf (methodEvents kind decl parent) = [] := by
  have hremarks : ∀ spelling, collisionsOf (Target.toTargetRemarks spelling) = [] := by
    intro spelling
    rw [collisionsOf, diagnosticsOf_toTargetRemarks, List.filter_nil]
  simp only [methodEvents, collisionsOf_append, hremarks, List.append_nil]
  refine collisionsOf_map_problem ?_
  intro diagnostic hmem
  rcases List.mem_append.1 hmem with hargument | hresult
  · obtain ⟨argument, _, hproblem⟩ := List.mem_flatMap.1 hargument
    exact argument.kind_of_mem_paramProblems hproblem
  · exact Target.kind_of_mem_unmappedProblems hresult

/-- What is reported about a member of another class. -/
def collisionAt (decl : Decl) (parent : Parent) (existing : String) : Diagnostic where
  kind := .targetNameCollision
  message := Collision.message ⟨parent.target, existing, parent.qualified⟩
  position := some decl.position

/-- A member whose target name belongs to another class changes nothing, and one collision is
reported at its place. -/
theorem collectDecl_of_other {registry : Registry} {selection : Selection} {decl : Decl}
    {kind : MethodKind} {parent : Parent} {qualified : String} {record : ClassInterface}
    (hmember : selection.member? decl = some (kind, parent))
    (hclass : registry.classOf? parent.target = some (qualified, record))
    (hother : parent.qualified ≠ qualified) :
    (collectDecl selection registry decl).1 = registry ∧
      collisionsOf (collectDecl selection registry decl).2 =
        [collisionAt decl parent qualified] := by
  have hfound : registry.findOrCreate parent =
      .error ⟨parent.target, qualified, parent.qualified⟩ := by
    unfold Registry.classOf? at hclass
    split at hclass
    · simp at hclass
    · next slot hlookup =>
        obtain ⟨_, _, heq⟩ := Option.map_eq_some_iff.1 hclass
        obtain ⟨rfl, _⟩ := Prod.mk.inj heq
        exact Registry.findOrCreate_eq_error_iff.2 ⟨slot, hlookup, Ne.symm hother, rfl⟩
  have hresult : collectDecl selection registry decl =
      (registry, decl.problems.map Event.problem ++ methodEvents kind decl parent ++
        [.problem (collisionAt decl parent qualified)]) := by
    simp [collectDecl, Selection.isConcerned_of_member hmember, hmember, recordMember, hfound,
      collisionAt]
  have hproblems : collisionsOf (decl.problems.map Event.problem) = [] :=
    collisionsOf_map_problem fun _ => Decl.kind_of_mem_problems
  rw [hresult]
  refine ⟨rfl, ?_⟩
  rw [collisionsOf_append, collisionsOf_append, hproblems, collisionsOf_methodEvents]
  rfl

end Collisions

section Runs

/-- The registry and the problems after some handovers. -/
structure Received (before : Registry) (handovers : List Handover) (after : Registry)
    (events : List Event) : Prop where
  registry : after = (receive before handovers).1
  diagnostics : diagnosticsOf events = diagnosticsOf (receive before handovers).2

theorem Received.append {first second third : Registry} {early late : List Handover}
    {events more : List Event} (hearly : Received first early second events)
    (hlate : Received second late third more) :
    Received first (early ++ late) third (events ++ more) := by
  constructor
  · rw [receive_append, ← hearly.registry]
    exact hlate.registry
  · rw [receive_append, diagnosticsOf_append, diagnosticsOf_append, ← hearly.registry,
      hearly.diagnostics, hlate.diagnostics]

/-- A walk reports no problems. -/
theorem WalkSetting.diagnosticsOf_walkUnit (setting : WalkSetting) (visited : List Key)
    (root : SourceUnit) : diagnosticsOf (setting.walkUnit visited root).events = [] := by
  refine WalkSetting.walk_induction (motive := fun _ _ result =>
    diagnosticsOf result.events = []) ?_ ?_ ?_ ?_ ?_ _ _ _
  · intro visited
    rfl
  · intro visited unit rest result ih
    exact ih
  · intro visited unit path pending rest result _ ih
    exact ih
  · intro visited unit path pending rest reason _ _
    rfl
  · intro visited unit path pending rest included result _ _ ih
    exact ih

namespace Survey

variable (survey : Survey)

theorem diagnosticsOf_parseAndWalk (files : FileTree) (frontend : Frontend) (header : Path) :
    diagnosticsOf (survey.parseAndWalk files frontend header).events = [] := by
  unfold parseAndWalk
  split
  · rfl
  · next unit _ =>
      simp only [walk]
      split
      · split
        · rfl
        · exact WalkSetting.diagnosticsOf_walkUnit _ _ _
      · rfl

theorem diagnosticsOf_declsOf (files : FileTree) (frontend : Frontend) (header : Path) :
    diagnosticsOf (survey.declsOf files frontend header).events = [] := by
  obtain hknown | ⟨outcome, hwalk, -⟩ := survey.declsOf_cases files frontend header
  · rw [hknown]
    rfl
  · rw [hwalk]
    exact survey.diagnosticsOf_parseAndWalk files frontend header

/-- The handovers when one class is extracted: none if the class has a record. -/
def handoversOne (decls : List Decl) (selection : Selection) : List Handover :=
  if survey.registry.isExtracted selection.className then []
  else decls.map (Handover.mk selection)

/-- The handovers when several classes are extracted, one after the other. -/
def handoversAll (survey : Survey) (header : Path) (decls : List Decl) :
    List Selection → List Handover
  | [] => []
  | selection :: selections =>
      survey.handoversOne decls selection ++
        (survey.extractOne header decls selection).1.handoversAll header decls selections

theorem received_extractOne (header : Path) (decls : List Decl) (selection : Selection) :
    Received survey.registry (survey.handoversOne decls selection)
      (survey.extractOne header decls selection).1.registry
      (survey.extractOne header decls selection).2 := by
  unfold extractOne handoversOne
  split
  · exact ⟨rfl, rfl⟩
  · have hcollect := collect_eq_receive selection survey.registry decls
    have hregistry : (survey.collect selection decls).1.registry =
        (receive survey.registry (decls.map (Handover.mk selection))).1 :=
      congrArg Prod.fst hcollect
    have hevents : (survey.collect selection decls).2 =
        (receive survey.registry (decls.map (Handover.mk selection))).2 :=
      congrArg Prod.snd hcollect
    simp only
    split
    · exact ⟨hregistry, congrArg diagnosticsOf hevents⟩
    · refine ⟨hregistry, ?_⟩
      rw [diagnosticsOf_append, hevents]
      exact List.append_nil _

theorem received_extractAll (header : Path) (decls : List Decl) (selections : List Selection) :
    Received survey.registry (survey.handoversAll header decls selections)
      (survey.extractAll header decls selections).1.registry
      (survey.extractAll header decls selections).2 := by
  induction selections generalizing survey with
  | nil => exact ⟨rfl, rfl⟩
  | cons selection selections ih =>
      exact (survey.received_extractOne header decls selection).append
        (ih (survey.extractOne header decls selection).1)

end Survey

/-- The handovers of a call: none if its walk fails. -/
def ExtractCall.handovers (call : ExtractCall) (survey : Survey) : List Handover :=
  match (survey.declsOf call.files call.frontend call.header).outcome with
  | .error _ => []
  | .ok decls => (call.afterWalk survey).handoversAll call.header decls call.selections

theorem ExtractCall.received (call : ExtractCall) (survey : Survey) :
    Received survey.registry (call.handovers survey) (call.step survey).survey.registry
      (call.step survey).events := by
  have hwalk : (call.afterWalk survey).registry = survey.registry :=
    (survey.declsOf_frame call.files call.frontend call.header).1
  have hquiet := survey.diagnosticsOf_declsOf call.files call.frontend call.header
  cases hdecls : (survey.declsOf call.files call.frontend call.header).outcome with
  | error failure =>
      rw [ExtractCall.step_of_error hdecls, ExtractCall.handovers, hdecls]
      exact ⟨hwalk, hquiet⟩
  | ok decls =>
      rw [ExtractCall.step_of_ok hdecls, ExtractCall.handovers, hdecls, ← hwalk]
      have hall := (call.afterWalk survey).received_extractAll call.header decls call.selections
      refine ⟨hall.registry, ?_⟩
      rw [diagnosticsOf_append, hquiet, List.nil_append]
      exact hall.diagnostics

namespace Gathering

/-- The handovers of an operation. -/
def handovers (survey : Survey) : Gathering → List Handover
  | .collect selection decls => decls.map (Handover.mk selection)
  | .extract call => call.handovers survey

/-- The survey after some operations, and what was said meanwhile. -/
def performAll (survey : Survey) : List Gathering → Survey × List Event
  | [] => (survey, [])
  | gathering :: run =>
      let (after, events) := gathering.perform survey
      let (final, more) := performAll after run
      (final, events ++ more)

/-- The handovers of some operations. -/
def handoversAll (survey : Survey) : List Gathering → List Handover
  | [] => []
  | gathering :: run =>
      gathering.handovers survey ++ handoversAll (gathering.perform survey).1 run

theorem received (survey : Survey) (gathering : Gathering) :
    Received survey.registry (gathering.handovers survey)
      (gathering.perform survey).1.registry (gathering.perform survey).2 := by
  cases gathering with
  | collect selection decls =>
      have hcollect := collect_eq_receive selection survey.registry decls
      exact ⟨congrArg Prod.fst hcollect, congrArg (fun pair => diagnosticsOf pair.2) hcollect⟩
  | extract call => exact call.received survey

/-- A run does what its handovers do. -/
theorem received_handovers (survey : Survey) (run : List Gathering) :
    Received survey.registry (handoversAll survey run) (performAll survey run).1.registry
      (performAll survey run).2 := by
  induction run generalizing survey with
  | nil => exact ⟨rfl, rfl⟩
  | cons gathering run ih =>
      exact (gathering.received survey).append (ih (gathering.perform survey).1)

end Gathering

end Runs

section Records

/-- Whether a method has the names of its kind: a constructor is called `mk` and gives back the
class, and a method keeps its name. -/
def Method.NamedIn (target : String) (method : Method) : Prop :=
  match method.kind with
  | .constructor => method.targetName = "mk" ∧ method.returnType.target = target
  | .method => method.targetName = method.nativeName

theorem namedIn_buildMethod (kind : MethodKind) (decl : Decl) (parent : Parent) :
    (buildMethod kind decl parent).NamedIn parent.target := by
  cases kind with
  | constructor => exact ⟨rfl, rfl⟩
  | method => exact rfl

theorem Handover.namedIn_methodFor? {handover : Handover} {target qualified : String}
    {method : Method} (hmethod : handover.methodFor? target qualified = some method) :
    method.NamedIn target := by
  cases hparent : handover.parentFor? target with
  | none => simp [Handover.methodFor?_of_parentFor? hparent] at hmethod
  | some parent =>
      obtain ⟨⟨kind, hmember⟩, rfl⟩ := Handover.parentFor?_eq_some_iff.1 hparent
      rw [Handover.methodFor?_of_member hmember] at hmethod
      split at hmethod
      · obtain rfl := Option.some.inj hmethod
        exact namedIn_buildMethod kind handover.decl parent
      · simp at hmethod

/-- How the record of a class came about: some handover made it for its parent, and its methods
are those that all handovers contribute to this class. -/
structure MadeFrom (handovers : List Handover) (qualified : String) (record : ClassInterface) :
    Prop where
  maker : ∃ earlier maker later kind parent,
    handovers = earlier ++ maker :: later ∧
      (receive {} earlier).1.classOf? record.classType.targetName = none ∧
      maker.member? = some (kind, parent) ∧
      parent.target = record.classType.targetName ∧
      parent.name = record.classType.nativeName ∧
      parent.qualified = qualified
  methods_eq : record.classType.methods =
    handovers.filterMap (Handover.methodFor? record.classType.targetName qualified)
  named : ∀ method ∈ record.classType.methods, method.NamedIn record.classType.targetName

/-- Every class of a registry came about from the handovers that filled the registry. -/
theorem madeFrom_of_classOf? {handovers : List Handover} {target qualified : String}
    {record : ClassInterface}
    (hclass : (receive {} handovers).1.classOf? target = some (qualified, record)) :
    MadeFrom handovers qualified record := by
  have htarget : record.classType.targetName = target :=
    ((wellFormed_receive Registry.wellFormed_empty handovers).targetName_of_classOf? hclass).2
  rw [classOf?_receive] at hclass
  obtain ⟨parent, hfirst, heq⟩ := Option.map_eq_some_iff.1 hclass
  obtain ⟨rfl, rfl⟩ := Prod.mk.inj heq
  obtain ⟨earlier, maker, later, hsplit, hmaker, hnone⟩ := List.findSome?_eq_some_iff.1 hfirst
  obtain ⟨⟨kind, hmember⟩, hsame⟩ := Handover.parentFor?_eq_some_iff.1 hmaker
  have hbefore : (receive {} earlier).1.classOf? target = none := by
    rw [classOf?_receive, classMade?, List.findSome?_eq_none_iff.2 hnone, Option.map_none]
  refine ⟨⟨earlier, maker, later, kind, parent, hsplit, hbefore, hmember, hsame, rfl, rfl⟩,
    rfl, ?_⟩
  intro method hmethod
  obtain ⟨handover, _, hcontributed⟩ := List.mem_filterMap.1 hmethod
  exact Handover.namedIn_methodFor? hcontributed

/-- **Distinct classes are never merged.**  A run on a new survey does what its handovers do, one
by one.  At every moment the methods of a record come from members of one class only, the one
that the record was made for.  A member of another class with the same target name changes
nothing, and one collision is reported at its place. -/
theorem classes_kept_apart (settings : Settings) (run : List Gathering) :
    let start : Survey := { settings := settings }
    let handovers := Gathering.handoversAll start run
    Received {} handovers (Gathering.performAll start run).1.registry
        (Gathering.performAll start run).2 ∧
      ∀ done rest, handovers = done ++ rest →
        let registry := (receive {} done).1
        (∀ record ∈ registry.records, ∃ qualified,
          registry.classOf? record.classType.targetName = some (qualified, record) ∧
            MadeFrom done qualified record) ∧
          ∀ handover later kind parent qualified record,
            rest = handover :: later →
            handover.member? = some (kind, parent) →
            registry.classOf? parent.target = some (qualified, record) →
            parent.qualified ≠ qualified →
              (collectDecl handover.selection registry handover.decl).1 = registry ∧
                collisionsOf (collectDecl handover.selection registry handover.decl).2 =
                  [collisionAt handover.decl parent qualified] := by
  intro start handovers
  refine ⟨Gathering.received_handovers start run, fun done rest _ => ⟨?_, ?_⟩⟩
  · intro record hrecord
    obtain ⟨position, hposition⟩ := List.getElem?_of_mem hrecord
    obtain ⟨qualified, _, hclass⟩ :=
      (wellFormed_receive Registry.wellFormed_empty done).exists_classOf? hposition
    exact ⟨qualified, hclass, madeFrom_of_classOf? hclass⟩
  · intro handover later kind parent qualified record _ hmember hclass hother
    exact collectDecl_of_other hmember hclass hother

end Records

section Twins

/-- A member of one of two classes with the same name, at some line of a file. -/
def twinMember (kind : DeclKind) (qualified : String) (line : Nat) : Decl where
  kind := kind
  name := "symbol"
  access := some .isPublic
  lexicalParent := some ⟨"symbol", NativeType.ofRecord qualified⟩
  position := { file := "symbol.h", line := line, column := 1 }

/-- Members of both classes are handed over in turn. -/
def twinRun : List Gathering :=
  [.collect ⟨"symbol", .isPublic⟩
    [twinMember .method "GiNaC::symbol" 1, twinMember .method "other::symbol" 2,
      twinMember .constructor "GiNaC::symbol" 3]]

/-- The one record holds the members of the class that came first, and the other class is
reported at line 2. -/
theorem classes_kept_apart_twins :
    collisionsOf (Gathering.performAll { settings := {} } twinRun).2 =
        [collisionAt (twinMember .method "other::symbol" 2)
          ⟨"symbol", NativeType.ofRecord "other::symbol"⟩ "GiNaC::symbol"] ∧
      ∃ record, (Gathering.performAll { settings := {} } twinRun).1.registry.records = [record] ∧
        record.classType.methods.map Method.targetName = ["symbol", "mk"] ∧
        ∃ qualified,
          MadeFrom (Gathering.handoversAll { settings := {} } twinRun) qualified record := by
  obtain ⟨hreceived, hmoments⟩ := classes_kept_apart {} twinRun
  obtain ⟨hmade, _⟩ := hmoments _ [] (List.append_nil _).symm
  have hnames : (Gathering.performAll { settings := {} } twinRun).1.registry.records.map
      (fun record => record.classType.methods.map Method.targetName) = [["symbol", "mk"]] := by
    decide +kernel
  obtain ⟨record, hrecords, hmethods⟩ := List.map_eq_singleton_iff.1 hnames
  refine ⟨by decide +kernel, record, hrecords, hmethods, ?_⟩
  rw [hreceived.registry] at hrecords
  obtain ⟨qualified, _, hfrom⟩ := hmade record (by simp [hrecords])
  exact ⟨qualified, hfrom⟩

end Twins

end HeaderBindings
