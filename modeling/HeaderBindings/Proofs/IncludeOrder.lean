import HeaderBindings.Proofs.WalkClosure
import Mathlib.Logic.Relation

/-!
# Included headers come first

The declarations that walks bring up stand in the order of the headers they belong to,
and a header comes after all that it includes.  This holds across walks too: a header
that an earlier walk went through is skipped, but it is in the list already.

**Method.**  A walk is followed with the list of the headers that are *done*: their
declarations are in the list.  `Opened` describes the stack at any moment: each unit on
it includes the one above it, and what else it includes is still pending, of the system
or done.  A header that is skipped because it is visited is done or on the stack; the
latter would close a cycle of includes (`Opened.notMem_stackKeys`).  So a unit is closed
only when everything it includes is done.

**Results.**
* `InOrder.mem_of_transGen`: in an ordered list a header stands after everything it
  includes, directly or through others.
* `exists_walk_order`: a walk adds headers in order.
* `Survey.included_headers_first`: what becomes of a sequence of calls.
-/

namespace HeaderBindings
namespace WalkSetting

section Includes

/-- Whether a header includes another one that does not belong to the system. -/
def Includes (setting : WalkSetting) (key other : Key) : Prop :=
  ∃ unit path, setting.Holds key unit ∧ path ∈ unit.includes ∧
    setting.isSystem path = false ∧ setting.key path = other

/-- No header includes itself, not even through other headers. -/
def Acyclic (setting : WalkSetting) : Prop :=
  ∀ key, ¬Relation.TransGen setting.Includes key key

/-- Whether the headers of a list are new, one by one, and come after all that they include,
where the headers `done` stand before the list. -/
def InOrder (setting : WalkSetting) : List Key → List (Key × SourceUnit) → Prop
  | _, [] => True
  | done, entry :: later =>
      (setting.Holds entry.1 entry.2 ∧ entry.1 ∉ done ∧
        ∀ other, setting.Includes entry.1 other → other ∈ done) ∧
      InOrder setting (done ++ [entry.1]) later

variable {setting : WalkSetting} {done : List Key} {order first second : List (Key × SourceUnit)}

/-- There are no cycles if headers are ranked above what they include. -/
theorem acyclic_of_rank (rank : Key → Nat)
    (hrank : ∀ key other, setting.Includes key other → rank other < rank key) :
    setting.Acyclic := by
  have hchain : ∀ {key other : Key}, Relation.TransGen setting.Includes key other →
      rank other < rank key := by
    intro key other hchain
    induction hchain with
    | single hincludes => exact hrank _ _ hincludes
    | tail _ hincludes ih => exact Nat.lt_trans (hrank _ _ hincludes) ih
  exact fun key hcycle => Nat.lt_irrefl _ (hchain hcycle)

theorem InOrder.append (hfirst : setting.InOrder done first)
    (hsecond : setting.InOrder (done ++ first.map Prod.fst) second) :
    setting.InOrder done (first ++ second) := by
  induction first generalizing done with
  | nil => simpa using hsecond
  | cons entry later ih => exact ⟨hfirst.1, ih hfirst.2 (by simpa using hsecond)⟩

theorem InOrder.holds (horder : setting.InOrder done order) :
    ∀ entry ∈ order, setting.Holds entry.1 entry.2 := by
  induction order generalizing done with
  | nil => simp
  | cons entry later ih =>
      intro found hfound
      rcases List.mem_cons.1 hfound with rfl | hlater
      · exact horder.1.1
      · exact ih horder.2 found hlater

theorem InOrder.nodup (horder : setting.InOrder done order) (hdone : done.Nodup) :
    (done ++ order.map Prod.fst).Nodup := by
  induction order generalizing done with
  | nil => simpa using hdone
  | cons entry later ih =>
      have hone : (done ++ [entry.1]).Nodup :=
        (List.perm_append_singleton _ _).nodup_iff.2 (List.nodup_cons.2 ⟨horder.1.2.1, hdone⟩)
      simpa using ih horder.2 hone

/-- A header stands after what it includes. -/
theorem InOrder.mem_of_includes {before after : List (Key × SourceUnit)}
    {entry : Key × SourceUnit} {key : Key}
    (horder : setting.InOrder done (before ++ entry :: after))
    (hincludes : setting.Includes entry.1 key) : key ∈ done ++ before.map Prod.fst := by
  induction before generalizing done with
  | nil => simpa using horder.1.2.2 key hincludes
  | cons other before ih =>
      have hmem := ih horder.2
      simpa using hmem

/-- A header stands after everything that it includes, directly or through other headers. -/
theorem InOrder.mem_of_transGen (horder : setting.InOrder [] order) {start key : Key}
    (hchain : Relation.TransGen setting.Includes start key) :
    ∀ before entry after, order = before ++ entry :: after → entry.1 = start →
      key ∈ before.map Prod.fst := by
  induction hchain using Relation.TransGen.head_induction_on with
  | single hincludes =>
      rintro before entry after rfl rfl
      exact horder.mem_of_includes hincludes
  | head hincludes _ ih =>
      rintro before entry after rfl rfl
      -- The first header on the way stands before this one, and the rest before that.
      obtain ⟨between, hbetween, hkey⟩ := List.mem_map.1 (horder.mem_of_includes hincludes)
      obtain ⟨front, back, rfl⟩ := List.append_of_mem hbetween
      have hfront := ih front between (back ++ entry :: after) (by simp) hkey
      rw [List.map_append]
      exact List.mem_append_left _ hfront

end Includes

section Stacks

variable {setting : WalkSetting} {done more : List Key} {above : Option Key}
  {stack rest : List OpenUnit} {unit : SourceUnit} {path : Path} {pending : List Path}

/-- Whether each unit on a stack includes the one above it, while what else it includes is still
pending, of the system or done. -/
def Opened (setting : WalkSetting) (done : List Key) : Option Key → List OpenUnit → Prop
  | _, [] => True
  | above, entry :: below =>
      (setting.Holds (setting.key entry.unit.path) entry.unit ∧
        (∀ path ∈ entry.unit.includes,
          path ∈ entry.pending ∨ setting.Settled done path ∨ above = some (setting.key path)) ∧
        ∀ key, above = some key → setting.Includes (setting.key entry.unit.path) key) ∧
      Opened setting done (some (setting.key entry.unit.path)) below

theorem Opened.mono (hopened : setting.Opened done above stack) (more : List Key) :
    setting.Opened (done ++ more) above stack := by
  induction stack generalizing above with
  | nil => trivial
  | cons entry below ih =>
      obtain ⟨⟨hholds, hincludes, habove⟩, hbelow⟩ := hopened
      refine ⟨⟨hholds, fun path hpath => ?_, habove⟩, ih hbelow⟩
      rcases hincludes path hpath with hpending | hsettled | hkey
      · exact Or.inl hpending
      · exact Or.inr (Or.inl (hsettled.append more))
      · exact Or.inr (Or.inr hkey)

/-- All units on a stack lead to what is above it. -/
theorem Opened.transGen {top : Key} (hopened : setting.Opened done (some top) stack) :
    ∀ key ∈ setting.stackKeys stack, Relation.TransGen setting.Includes key top := by
  induction stack generalizing top with
  | nil => simp [stackKeys]
  | cons entry below ih =>
      obtain ⟨⟨_, _, habove⟩, hbelow⟩ := hopened
      have hfirst := habove top rfl
      intro key hkey
      rcases List.mem_cons.1 hkey with rfl | hkey
      · exact .single hfirst
      · exact (ih hbelow key hkey).tail hfirst

/-- Without cycles, the unit on top of a stack includes nothing that is on the stack. -/
theorem Opened.notMem_stackKeys (hacyclic : setting.Acyclic)
    (hopened : setting.Opened done above (⟨unit, path :: pending⟩ :: rest))
    (hinclude : path ∈ unit.includes) (hsystem : setting.isSystem path = false) :
    setting.key path ∉ setting.stackKeys (⟨unit, path :: pending⟩ :: rest) := by
  obtain ⟨⟨hholds, _, _⟩, hbelow⟩ := hopened
  have hincludes : setting.Includes (setting.key unit.path) (setting.key path) :=
    ⟨unit, path, hholds, hinclude, hsystem, rfl⟩
  intro hkey
  rcases List.mem_cons.1 hkey with hself | hkey
  · rw [hself] at hincludes
    exact hacyclic _ (.single hincludes)
  · exact hacyclic _ ((hbelow.transGen _ hkey).tail hincludes)

/-- The unit on top of a stack goes on with its next include when the first one is settled. -/
theorem Opened.advance (hopened : setting.Opened done above (⟨unit, path :: pending⟩ :: rest))
    (hsettled : setting.Settled done path) :
    setting.Opened done above (⟨unit, pending⟩ :: rest) := by
  obtain ⟨⟨hholds, hincludes, habove⟩, hbelow⟩ := hopened
  refine ⟨⟨hholds, fun other hother => ?_, habove⟩, hbelow⟩
  rcases hincludes other hother with hpending | hother
  · rcases List.mem_cons.1 hpending with rfl | hpending
    · exact Or.inr (Or.inl hsettled)
    · exact Or.inl hpending
  · exact Or.inr hother

/-- A unit is put on top of the one that includes it. -/
theorem Opened.enter {included : SourceUnit}
    (hopened : setting.Opened done none (⟨unit, path :: pending⟩ :: rest))
    (hinclude : path ∈ unit.includes) (hsystem : setting.isSystem path = false)
    (hparse : setting.frontend.parse path = .ok included)
    (hown : setting.key included.path = setting.key path) :
    setting.Opened done none (OpenUnit.start included :: ⟨unit, pending⟩ :: rest) := by
  obtain ⟨⟨hholds, hincludes, _⟩, hbelow⟩ := hopened
  refine ⟨⟨⟨path, hown.symm, hparse⟩, fun other hother => Or.inl hother, by simp⟩,
    ⟨hholds, fun other hother => ?_, ?_⟩, hbelow⟩
  · rcases hincludes other hother with hpending | hsettled | hnone
    · rcases List.mem_cons.1 hpending with rfl | hpending
      · exact Or.inr (Or.inr (congrArg some hown))
      · exact Or.inl hpending
    · exact Or.inr (Or.inl hsettled)
    · simp at hnone
  · intro key hkey
    obtain rfl := Option.some.inj hkey
    exact ⟨unit, path, hholds, hinclude, hsystem, hown.symm⟩

/-- A unit is taken off the stack when it is done. -/
theorem Opened.close (hopened : setting.Opened done above (⟨unit, []⟩ :: rest)) :
    setting.Opened (done ++ [setting.key unit.path]) none rest := by
  obtain ⟨_, hrest⟩ := hopened
  have hmore := hrest.mono [setting.key unit.path]
  cases rest with
  | nil => trivial
  | cons entry below =>
      obtain ⟨⟨hholds, hincludes, _⟩, hbelow⟩ := hmore
      refine ⟨⟨hholds, fun path hpath => ?_, by simp⟩, hbelow⟩
      rcases hincludes path hpath with hpending | hsettled | hkey
      · exact Or.inl hpending
      · exact Or.inr (Or.inl hsettled)
      · have hlast : setting.key path = setting.key unit.path := (Option.some.inj hkey).symm
        exact Or.inr (Or.inl (Or.inr (by simp [hlast])))

/-- What a unit without pending includes includes is done. -/
theorem Opened.mem_of_includes (hkeyed : setting.Keyed)
    (hopened : setting.Opened done none (⟨unit, []⟩ :: rest)) {key : Key}
    (hincludes : setting.Includes (setting.key unit.path) key) : key ∈ done := by
  obtain ⟨⟨hholds, hsettled, _⟩, _⟩ := hopened
  obtain ⟨other, path, hother, hpath, hsystem, rfl⟩ := hincludes
  obtain rfl := hkeyed.eq_of_holds hholds hother
  rcases hsettled path hpath with hpending | (hsettled | hdone) | hnone
  · simp at hpending
  · simp [hsystem] at hsettled
  · exact hdone
  · simp at hnone

end Stacks

section Walking

variable {setting : WalkSetting} {names : List Path}
  {hnames : ∀ name ∈ setting.frontend.names, name ∈ names}

/-- A walk in progress: what is visited is done or on the stack, and the stack is in order. -/
structure Underway (setting : WalkSetting) (done visited : List Key) (stack : List OpenUnit) :
    Prop where
  nodup : visited.Nodup
  visited_perm : visited.Perm (done ++ setting.stackKeys stack)
  opened : setting.Opened done none stack
  pending_mem : ∀ entry ∈ stack, ∀ path ∈ entry.pending, path ∈ entry.unit.includes

variable {done visited : List Key} {rest : List OpenUnit} {unit : SourceUnit} {path : Path}
  {pending : List Path}

theorem Underway.head_mem (hway : setting.Underway done visited (⟨unit, path :: pending⟩ :: rest)) :
    path ∈ unit.includes :=
  hway.pending_mem ⟨unit, path :: pending⟩ List.mem_cons_self path List.mem_cons_self

theorem Underway.pending_tail
    (hway : setting.Underway done visited (⟨unit, path :: pending⟩ :: rest)) :
    ∀ entry ∈ (⟨unit, pending⟩ : OpenUnit) :: rest, ∀ asked ∈ entry.pending,
      asked ∈ entry.unit.includes := by
  intro entry hentry asked hasked
  rcases List.mem_cons.1 hentry with rfl | hrest
  · exact hway.pending_mem ⟨unit, path :: pending⟩ List.mem_cons_self asked
      (List.mem_cons_of_mem _ hasked)
  · exact hway.pending_mem entry (List.mem_cons_of_mem _ hrest) asked hasked

/-- A header that is skipped is of the system or done. -/
theorem Underway.skip (hacyclic : setting.Acyclic)
    (hway : setting.Underway done visited (⟨unit, path :: pending⟩ :: rest))
    (hskip : setting.skips visited path = true) :
    setting.Underway done visited (⟨unit, pending⟩ :: rest) := by
  have hsettled : setting.Settled done path := by
    cases hsystem : setting.isSystem path with
    | true => exact Or.inl hsystem
    | false =>
        have hvisited : setting.key path ∈ visited := by
          simpa [skips_eq_true_iff, hsystem] using hskip
        have hnot := hway.opened.notMem_stackKeys hacyclic hway.head_mem hsystem
        rcases List.mem_append.1 (hway.visited_perm.subset hvisited) with hdone | hstack
        · exact Or.inr hdone
        · exact absurd hstack hnot
  exact ⟨hway.nodup, hway.visited_perm, hway.opened.advance hsettled, hway.pending_tail⟩

/-- A header that is entered is put on the stack. -/
theorem Underway.enter {included : SourceUnit} (hkeyed : setting.Keyed)
    (hway : setting.Underway done visited (⟨unit, path :: pending⟩ :: rest))
    (hskip : setting.skips visited path = false)
    (hparse : setting.frontend.parse path = .ok included) :
    setting.Underway done (visited ++ [setting.key path])
      (OpenUnit.start included :: ⟨unit, pending⟩ :: rest) := by
  obtain ⟨hnew, hsystem⟩ := skips_eq_false_iff.1 hskip
  have hown := hkeyed.own path included hparse
  refine ⟨?_, ?_, hway.opened.enter hway.head_mem hsystem hparse hown, ?_⟩
  · exact (List.perm_append_singleton _ _).nodup_iff.2 (List.nodup_cons.2 ⟨hnew, hway.nodup⟩)
  · have hperm := (hway.visited_perm.append_right [setting.key path]).trans
      (List.perm_append_singleton _ _)
    refine hperm.trans ?_
    simp only [stackKeys, List.map_cons, OpenUnit.start, hown]
    exact List.perm_middle.symm
  · intro entry hentry
    rcases List.mem_cons.1 hentry with rfl | hlater
    · exact fun asked hasked => hasked
    · exact hway.pending_tail entry hlater

/-- A unit that is closed is done. -/
theorem Underway.close (hway : setting.Underway done visited (⟨unit, []⟩ :: rest)) :
    setting.Underway (done ++ [setting.key unit.path]) visited rest where
  nodup := hway.nodup
  visited_perm := by
    have hperm := hway.visited_perm
    simp only [stackKeys, List.map_cons] at hperm
    simpa [stackKeys] using hperm
  opened := hway.opened.close
  pending_mem entry hentry := hway.pending_mem entry (List.mem_cons_of_mem _ hentry)

/-- A unit is new when it is closed, and everything it includes is done. -/
theorem Underway.ready (hkeyed : setting.Keyed)
    (hway : setting.Underway done visited (⟨unit, []⟩ :: rest)) :
    setting.Holds (setting.key unit.path) unit ∧ setting.key unit.path ∉ done ∧
      ∀ other, setting.Includes (setting.key unit.path) other → other ∈ done := by
  refine ⟨hway.opened.1.1, ?_, fun other => hway.opened.mem_of_includes hkeyed⟩
  have hnodup := hway.visited_perm.nodup_iff.1 hway.nodup
  rw [stackKeys, List.map_cons, List.nodup_middle, List.nodup_cons] at hnodup
  exact fun hdone => hnodup.1 (List.mem_append_left _ hdone)

/-- A walk that ends well adds headers in order, and their declarations with them. -/
theorem exists_walk_order (hkeyed : setting.Keyed) (hacyclic : setting.Acyclic)
    (visited : List Key) (stack : List OpenUnit) (hstack : Covers names stack)
    {done : List Key} {decls : List Decl} (hway : setting.Underway done visited stack)
    (hok : (setting.walk names hnames visited stack hstack).outcome = .ok decls) :
    ∃ order, setting.InOrder done order ∧
      (setting.walk names hnames visited stack hstack).visited.Perm
        (done ++ order.map Prod.fst) ∧
      decls = order.flatMap fun entry => entry.2.ownDecls := by
  revert done decls
  refine walk_induction (motive := fun visited stack result =>
    ∀ {done : List Key} {decls : List Decl}, setting.Underway done visited stack →
      result.outcome = .ok decls →
        ∃ order, setting.InOrder done order ∧
          result.visited.Perm (done ++ order.map Prod.fst) ∧
          decls = order.flatMap fun entry => entry.2.ownDecls)
    ?_ ?_ ?_ ?_ ?_ visited stack hstack
  · intro visited done decls hway hok
    obtain rfl := Except.ok.inj hok
    exact ⟨[], trivial, hway.visited_perm, rfl⟩
  · intro visited unit rest result ih done decls hway hok
    cases hresult : result.outcome with
    | error failure => simp [hresult, Except.map] at hok
    | ok found =>
        simp only [hresult, Except.map, Except.ok.injEq] at hok
        obtain ⟨order, horder, hperm, hfound⟩ := ih hway.close hresult
        refine ⟨(setting.key unit.path, unit) :: order, ⟨hway.ready hkeyed, horder⟩, ?_, ?_⟩
        · simpa using hperm
        · rw [← hok, hfound, List.flatMap_cons]
  · intro visited unit path pending rest result hskip ih done decls hway hok
    exact ih (hway.skip hacyclic hskip) hok
  · intro visited unit path pending rest reason _ _ done decls _ hok
    simp at hok
  · intro visited unit path pending rest included result hskip hparse ih done decls hway hok
    exact ih (hway.enter hkeyed hskip hparse) hok

end Walking

end WalkSetting

namespace Survey

open WalkSetting

section Calls

/-- Whether what was walked are the own declarations of the visited headers, in an order in which
included headers come first. -/
def Ordered (setting : WalkSetting) (survey : Survey) : Prop :=
  ∃ order, setting.InOrder [] order ∧ (order.map Prod.fst).Perm survey.visited ∧
    survey.walked = order.flatMap fun entry => entry.2.ownDecls

variable {survey : Survey} {tree : FileTree} {frontend : Frontend} {header : Path}

/-- Looking a header up keeps included headers first. -/
theorem Ordered.declsOf {decls : List Decl} (hrecursive : survey.settings.isRecursive = true)
    (hkeyed : (survey.walkSetting tree frontend).Keyed)
    (hacyclic : (survey.walkSetting tree frontend).Acyclic)
    (hordered : Ordered (survey.walkSetting tree frontend) survey)
    (hok : (survey.declsOf tree frontend header).outcome = .ok decls) :
    Ordered (survey.walkSetting tree frontend) (survey.declsOf tree frontend header).survey := by
  cases hvisited : survey.isVisited tree header with
  | true => simpa [Survey.declsOf, hrecursive, hvisited] using hordered
  | false =>
      cases hparse : frontend.parse header with
      | error reason =>
          simp [Survey.declsOf, hrecursive, hvisited, parseAndWalk, hparse, Except.map] at hok
      | ok root =>
          obtain ⟨hnew, hsurvey, hout⟩ := declsOf_of_new hrecursive hkeyed hparse hvisited
          obtain ⟨older, holder, hperm, hwalked⟩ := hordered
          have hway : (survey.walkSetting tree frontend).Underway (older.map Prod.fst)
              (survey.visited ++ [(survey.walkSetting tree frontend).key root.path])
              [OpenUnit.start root] := by
            refine ⟨?_, hperm.symm.append_right _, ?_, ?_⟩
            · have hnodup : survey.visited.Nodup :=
                hperm.nodup_iff.1 (by simpa using holder.nodup List.nodup_nil)
              exact (List.perm_append_singleton _ _).nodup_iff.2
                (List.nodup_cons.2 ⟨hnew, hnodup⟩)
            · exact ⟨⟨hkeyed.holds_root hparse, fun path hpath => Or.inl hpath, by simp⟩, trivial⟩
            · intro entry hentry
              obtain rfl := List.mem_singleton.1 hentry
              exact fun path hpath => hpath
          cases hresult : ((survey.walkSetting tree frontend).walkUnit
              (survey.visited ++ [(survey.walkSetting tree frontend).key root.path])
              root).outcome with
          | error failure =>
              rw [hok, hresult] at hout
              simp [Except.isOk, Except.toBool] at hout
          | ok found =>
              obtain ⟨newer, hnewer, hall, hfound⟩ :=
                exists_walk_order hkeyed hacyclic _ _ _ hway hresult
              rw [hsurvey, hresult]
              refine ⟨older ++ newer, holder.append (by simpa using hnewer), ?_, ?_⟩
              · rw [List.map_append]
                exact hall.symm
              · rw [List.flatMap_append, hwalked, hfound]
                rfl

/-- A call that succeeds keeps included headers first. -/
theorem Ordered.step {call : ExtractCall} (hrecursive : survey.settings.isRecursive = true)
    (hkeyed : (survey.walkSetting call.files call.frontend).Keyed)
    (hacyclic : (survey.walkSetting call.files call.frontend).Acyclic)
    (hordered : Ordered (survey.walkSetting call.files call.frontend) survey)
    (hok : (call.step survey).outcome = .ok ()) :
    Ordered (survey.walkSetting call.files call.frontend) (call.step survey).survey := by
  obtain ⟨⟨decls, hdecls⟩, hstep⟩ := ExtractCall.step_survey_of_ok hrecursive hok
  obtain ⟨hvisited, hwalked, _⟩ := (call.afterWalk survey).extractAll_frame call.header
    (call.afterWalk survey).walked call.selections
  have hafter := hordered.declsOf hrecursive hkeyed hacyclic hdecls
  unfold Ordered
  rw [hstep, hvisited, hwalked]
  exact hafter

/-- Calls that succeed keep included headers first. -/
theorem Ordered.afterCalls {final : Survey} {calls : List ExtractCall}
    (hrecursive : survey.settings.isRecursive = true)
    (hkeyed : (survey.walkSetting tree frontend).Keyed)
    (hacyclic : (survey.walkSetting tree frontend).Acyclic)
    (hordered : Ordered (survey.walkSetting tree frontend) survey)
    (hcalls : ∀ call ∈ calls, call.files = tree ∧ call.frontend = frontend)
    (hrun : survey.afterCalls calls = some final) :
    Ordered (survey.walkSetting tree frontend) final := by
  induction calls generalizing survey with
  | nil =>
      obtain rfl := Option.some.inj hrun
      exact hordered
  | cons call calls ih =>
      obtain ⟨rfl, rfl⟩ := hcalls call List.mem_cons_self
      obtain ⟨hok, hrest⟩ := afterCalls_cons hrun
      obtain ⟨hsettings, _⟩ := step_frame hrecursive hok
      have hsame : (call.step survey).survey.walkSetting call.files call.frontend =
          survey.walkSetting call.files call.frontend := by
        simp only [walkSetting, hsettings]
      have hstep := hordered.step hrecursive hkeyed hacyclic hok
      rw [← hsame] at hkeyed hacyclic hstep ⊢
      exact ih (hsettings ▸ hrecursive) hkeyed hacyclic hstep
        (fun other hother => hcalls other (List.mem_cons_of_mem _ hother)) hrest

/-- Take a keyed frontend in whose answers no header includes itself, not even through others.
After any calls on a new recursive survey that all succeed, what was walked are the own
declarations of the visited headers, each header once, and every header comes after all headers
outside the system that it includes, directly or through others. -/
theorem included_headers_first (settings : Settings) (tree : FileTree) (frontend : Frontend)
    (calls : List ExtractCall) (final : Survey) (hrecursive : settings.isRecursive = true)
    (hkeyed : (walkSetting { settings := settings } tree frontend).Keyed)
    (hacyclic : (walkSetting { settings := settings } tree frontend).Acyclic)
    (hcalls : ∀ call ∈ calls, call.files = tree ∧ call.frontend = frontend)
    (hrun : Survey.afterCalls { settings := settings } calls = some final) :
    let setting := walkSetting { settings := settings } tree frontend
    ∃ order : List (Key × SourceUnit),
      (order.map Prod.fst).Nodup ∧ (order.map Prod.fst).Perm final.visited ∧
      (∀ entry ∈ order, setting.Holds entry.1 entry.2) ∧
      final.walked = order.flatMap (fun entry => entry.2.ownDecls) ∧
      ∀ before entry after, order = before ++ entry :: after →
        ∀ key, Relation.TransGen setting.Includes entry.1 key → key ∈ before.map Prod.fst := by
  intro setting
  have hstart : Ordered setting { settings := settings } := ⟨[], trivial, by simp, rfl⟩
  obtain ⟨order, horder, hperm, hwalked⟩ :=
    hstart.afterCalls hrecursive hkeyed hacyclic hcalls hrun
  refine ⟨order, by simpa using horder.nodup List.nodup_nil, hperm, horder.holds, hwalked, ?_⟩
  intro before entry after hsplit key hchain
  exact horder.mem_of_transGen hchain before entry after hsplit rfl

end Calls

section Diamond

/-- A header and a link to it. -/
def diamondTree : FileTree where
  working := ["work"]
  entries :=
    [(["work"], .directory), (["work", "d.h"], .file ByteArray.empty),
      (["work", "alias.h"], .link ⟨"d.h"⟩)]

/-- A header with one declaration of its own. -/
def diamondUnit (name : String) (includes : List Path) : SourceUnit where
  path := ⟨name ++ ".h"⟩
  includes := includes
  decls := [{ kind := .method, name := name }]

/-- Headers of which two include a third one, one of them through the link. -/
def diamondUnits : List SourceUnit :=
  [diamondUnit "d" [], diamondUnit "c" [⟨"alias.h"⟩],
    diamondUnit "b" [⟨"/usr/include/a.h"⟩, ⟨"./d.h"⟩], diamondUnit "a" [⟨"b.h"⟩, ⟨"c.h"⟩]]

def diamondFrontend : Frontend := keyedFrontend diamondTree diamondUnits

def diamondSettings : Settings where
  systemPaths := [⟨"/usr/include"⟩]

theorem diamond_acyclic :
    (walkSetting { settings := diamondSettings } diamondTree diamondFrontend).Acyclic := by
  refine acyclic_of_rank (fun key =>
    (diamondUnits.map fun unit => (visitKey diamondTree unit.path).components).idxOf key) ?_
  rintro _ _ ⟨unit, path, ⟨asked, rfl, hparse⟩, hpath, hsystem, rfl⟩
  obtain ⟨hunit, hkey⟩ := keyedFrontend_parse hparse
  have hranks : ∀ unit ∈ diamondUnits, ∀ path ∈ unit.includes,
      diamondSettings.isSystem path = false →
        (diamondUnits.map fun unit => (visitKey diamondTree unit.path).components).idxOf
            (visitKey diamondTree path).components <
          (diamondUnits.map fun unit => (visitKey diamondTree unit.path).components).idxOf
            (visitKey diamondTree unit.path).components := by
    decide +kernel
  have hrank := hranks unit hunit path hpath hsystem
  rw [hkey] at hrank
  exact hrank

/-- A call for one header of the diamond. -/
def diamondCall (header : Path) : ExtractCall := ⟨diamondTree, diamondFrontend, header, []⟩

/-- One side of the diamond is walked first, and then the whole. -/
theorem included_headers_first_diamond :
    ∃ final,
      afterCalls { settings := diamondSettings }
          [diamondCall ⟨"b.h"⟩, diamondCall ⟨"a.h"⟩] = some final ∧
        final.walked.map Decl.name = ["d", "b", "c", "a"] ∧
        ∃ order : List (Key × SourceUnit),
          final.walked = order.flatMap (fun entry => entry.2.ownDecls) ∧
          ∀ before entry after, order = before ++ entry :: after →
            ∀ key, Relation.TransGen
                (walkSetting { settings := diamondSettings } diamondTree
                  diamondFrontend).Includes entry.1 key →
              key ∈ before.map Prod.fst := by
  have hnames : (afterCalls { settings := diamondSettings }
      [diamondCall ⟨"b.h"⟩, diamondCall ⟨"a.h"⟩]).map (fun final => final.walked.map Decl.name) =
        some ["d", "b", "c", "a"] := by
    decide +kernel
  obtain ⟨final, hrun, hwalked⟩ := Option.map_eq_some_iff.1 hnames
  obtain ⟨order, _, _, _, hdecls, hfirst⟩ :=
    included_headers_first diamondSettings diamondTree diamondFrontend _ final rfl
      (keyedFrontend_keyed { settings := diamondSettings }) diamond_acyclic (by simp [diamondCall]) hrun
  exact ⟨final, hrun, hwalked, order, hdecls, hfirst⟩

end Diamond

end Survey
end HeaderBindings
