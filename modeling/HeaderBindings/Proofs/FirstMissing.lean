import HeaderBindings.Proofs.DistinctClasses
import HeaderBindings.Proofs.FailedWalks
import HeaderBindings.Proofs.OutsideUnits

/-!
# Where a walk fails

A walk fails if and only if a header without a unit can be reached, and then it fails at
the first one in depth-first order.  It keeps its marks, and nothing else.

**Trails.**  A trail leads from a list of includes to a header: it picks an include, goes on
in the includes of its unit, and passes no key twice, no key visited before and no header
of the system.  It is written down as the positions of its picks.  Depth-first order is the
order of these lists of positions, compared like words: the first pick that is different
decides.

**Method.**  At any moment of a walk a visited key was visited before, belongs to a unit on
the stack or is *finished*: everything that its unit includes is settled (`Exploring`).  A
trail avoids the first two, so once it comes to a finished key it goes through finished
keys only, and these have units (`Exploring.not_missing`).  Hence the trails that a walk
has behind it lead to no missing header, and the first one that it has ahead of it is where
it fails (`firstAhead_of_error`).

**Results.**
* `getLast?_requests_of_error`: a walk fails at the header that it asked for last.
* `exists_error_iff`: when a walk fails.
* `ExtractCall.fails_at_first_missing`: when and how a call fails.
-/

namespace HeaderBindings
namespace WalkSetting

section Trails

/-- Whether the frontend has no unit for a header. -/
def Missing (setting : WalkSetting) (path : Path) : Prop :=
  ∃ reason, setting.frontend.parse path = .error reason

/-- The trails from a list of includes to a header, with the positions of the includes that they
pick.  A trail leads through no header of the system and through no key that is to be
avoided, and it avoids the keys that it has passed. -/
inductive Trail (setting : WalkSetting) : List Key → List Path → List Nat → Path → Prop
  | here {avoid : List Key} {path : Path} {pending : List Path} :
      setting.skips avoid path = false →
      Trail setting avoid (path :: pending) [0] path
  | into {avoid : List Key} {path target : Path} {pending : List Path} {unit : SourceUnit}
      {positions : List Nat} :
      setting.skips avoid path = false →
      setting.frontend.parse path = .ok unit →
      Trail setting (setting.key path :: avoid) unit.includes positions target →
      Trail setting avoid (path :: pending) (0 :: positions) target
  | past {avoid : List Key} {path target : Path} {pending : List Path} {position : Nat}
      {positions : List Nat} :
      Trail setting avoid pending (position :: positions) target →
      Trail setting avoid (path :: pending) ((position + 1) :: positions) target

/-- Whether no trail from a list of includes leads to a missing header. -/
def NoneMissing (setting : WalkSetting) (avoid : List Key) (includes : List Path) : Prop :=
  ∀ positions target, setting.Trail avoid includes positions target → ¬setting.Missing target

/-- Whether a header is missing and the first one in depth-first order among the missing headers
that trails from a list of includes lead to. -/
def FirstMissing (setting : WalkSetting) (avoid : List Key) (includes : List Path)
    (target : Path) : Prop :=
  setting.Missing target ∧ ∃ positions, setting.Trail avoid includes positions target ∧
    ∀ others other, setting.Trail avoid includes others other → setting.Missing other →
      positions.le others

variable {setting : WalkSetting} {avoid : List Key} {path target : Path} {pending : List Path}

theorem Trail.positions_ne_nil {includes : List Path} {positions : List Nat}
    (htrail : setting.Trail avoid includes positions target) : positions ≠ [] := by
  cases htrail <;> simp

theorem noneMissing_nil (setting : WalkSetting) (avoid : List Key) :
    setting.NoneMissing avoid [] := by
  intro positions target htrail
  cases htrail

/-- A trail picks the first include or a later one. -/
theorem trail_cons_cases {positions : List Nat}
    (htrail : setting.Trail avoid (path :: pending) positions target) :
    (∃ later, positions = 0 :: later ∧ setting.Trail avoid [path] positions target) ∨
      ∃ position later, positions = (position + 1) :: later ∧
        setting.Trail avoid pending (position :: later) target := by
  cases htrail with
  | here hskip => exact Or.inl ⟨[], rfl, .here hskip⟩
  | into hskip hparse hlater => exact Or.inl ⟨_, rfl, .into hskip hparse hlater⟩
  | past hlater => exact Or.inr ⟨_, _, rfl, hlater⟩

/-- An include that leads to no missing header does not matter. -/
theorem NoneMissing.cons (hhead : setting.NoneMissing avoid [path])
    (htail : setting.NoneMissing avoid pending) : setting.NoneMissing avoid (path :: pending) := by
  intro positions target htrail
  rcases trail_cons_cases htrail with ⟨later, -, hfirst⟩ | ⟨position, later, -, hlater⟩
  · exact hhead positions target hfirst
  · exact htail _ target hlater

theorem FirstMissing.cons (hhead : setting.NoneMissing avoid [path])
    (hfirst : setting.FirstMissing avoid pending target) :
    setting.FirstMissing avoid (path :: pending) target := by
  obtain ⟨hmissing, positions, htrail, hleast⟩ := hfirst
  obtain ⟨position, later, rfl⟩ := List.exists_cons_of_ne_nil htrail.positions_ne_nil
  refine ⟨hmissing, (position + 1) :: later, .past htrail, ?_⟩
  intro others other hother hgone
  rcases trail_cons_cases hother with ⟨rest, -, hzero⟩ | ⟨place, rest, rfl, hrest⟩
  · exact absurd hgone (hhead others other hzero)
  · refine List.cons_le_cons_iff.2 ?_
    rcases List.cons_le_cons_iff.1 (hleast _ other hrest hgone) with hlt | ⟨rfl, hlater⟩
    · exact Or.inl (Nat.succ_lt_succ hlt)
    · exact Or.inr ⟨rfl, hlater⟩

/-- A missing header that is included first is the first one. -/
theorem firstMissing_here (hskip : setting.skips avoid path = false)
    (hmissing : setting.Missing path) : setting.FirstMissing avoid (path :: pending) path := by
  refine ⟨hmissing, [0], .here hskip, ?_⟩
  intro others other hother _
  obtain ⟨position, later, rfl⟩ := List.exists_cons_of_ne_nil hother.positions_ne_nil
  refine List.cons_le_cons_iff.2 ?_
  rcases Nat.eq_zero_or_pos position with rfl | hpos
  · exact Or.inr ⟨rfl, List.nil_le _⟩
  · exact Or.inl hpos

/-- A trail through an include that has a unit goes on in the includes of the unit, unless it ends
there. -/
theorem trail_into_cases {unit : SourceUnit} {positions : List Nat}
    (hparse : setting.frontend.parse path = .ok unit)
    (htrail : setting.Trail avoid [path] positions target) :
    target = path ∨ ∃ later, positions = 0 :: later ∧
      setting.Trail (setting.key path :: avoid) unit.includes later target := by
  cases htrail with
  | here _ => exact Or.inl rfl
  | into _ hfound hlater =>
      obtain rfl := Except.ok.inj (hparse.symm.trans hfound)
      exact Or.inr ⟨_, rfl, hlater⟩
  | past hlater => cases hlater

theorem not_missing_of_parse {unit : SourceUnit} (hparse : setting.frontend.parse path = .ok unit) :
    ¬setting.Missing path := by
  rintro ⟨reason, hreason⟩
  rw [hparse] at hreason
  cases hreason

/-- An include leads to a missing header only if the includes of its unit do. -/
theorem noneMissing_into {unit : SourceUnit} (hparse : setting.frontend.parse path = .ok unit)
    (hnone : setting.NoneMissing (setting.key path :: avoid) unit.includes) :
    setting.NoneMissing avoid [path] := by
  intro positions target htrail
  rcases trail_into_cases hparse htrail with rfl | ⟨later, -, hlater⟩
  · exact not_missing_of_parse hparse
  · exact hnone later target hlater

/-- The first missing header behind the first include is the first one of all. -/
theorem FirstMissing.into {unit : SourceUnit} (hskip : setting.skips avoid path = false)
    (hparse : setting.frontend.parse path = .ok unit)
    (hfirst : setting.FirstMissing (setting.key path :: avoid) unit.includes target) :
    setting.FirstMissing avoid (path :: pending) target := by
  obtain ⟨hmissing, positions, htrail, hleast⟩ := hfirst
  refine ⟨hmissing, 0 :: positions, .into hskip hparse htrail, ?_⟩
  intro others other hother hgone
  rcases trail_cons_cases hother with ⟨rest, -, hzero⟩ | ⟨place, rest, rfl, -⟩
  · rcases trail_into_cases hparse hzero with rfl | ⟨later, rfl, hlater⟩
    · exact absurd hgone (not_missing_of_parse hparse)
    · exact List.cons_le_cons_iff.2 (Or.inr ⟨rfl, hleast later other hlater hgone⟩)
  · exact List.cons_le_cons_iff.2 (Or.inl (Nat.succ_pos place))

end Trails

section Exploring

/-- Whether the unit of a key is known and everything that it includes is settled. -/
def Finished (setting : WalkSetting) (visited : List Key) (key : Key) : Prop :=
  ∃ unit, setting.Holds key unit ∧ ∀ path ∈ unit.includes, setting.Settled visited path

/-- The keys that the trails ahead of a stack avoid. -/
def avoided (setting : WalkSetting) (before : List Key) (stack : List OpenUnit) : List Key :=
  setting.stackKeys stack ++ before

/-- A walk in progress that started when the keys `before` were visited. -/
structure Exploring (setting : WalkSetting) (before visited : List Key)
    (stack : List OpenUnit) : Prop where
  marked : ∀ key ∈ setting.avoided before stack, key ∈ visited
  known : ∀ key ∈ visited, key ∈ setting.avoided before stack ∨ setting.Finished visited key
  opened : ∀ entry ∈ stack, setting.Holds (setting.key entry.unit.path) entry.unit ∧
    ∀ path ∈ entry.unit.includes, path ∈ entry.pending ∨ setting.Settled visited path

variable {setting : WalkSetting} {before visited : List Key} {rest stack : List OpenUnit}
  {unit : SourceUnit} {path : Path} {pending : List Path}

theorem Finished.append {key : Key} (hfinished : setting.Finished visited key)
    (more : List Key) : setting.Finished (visited ++ more) key := by
  obtain ⟨unit, hholds, hsettled⟩ := hfinished
  exact ⟨unit, hholds, fun path hpath => (hsettled path hpath).append more⟩

theorem settled_of_skips (hskip : setting.skips visited path = true) :
    setting.Settled visited path :=
  (skips_eq_true_iff.1 hskip).symm

/-- A header that a walk enters may be passed by trails. -/
theorem Exploring.skips_avoided (hexploring : setting.Exploring before visited stack)
    (hskip : setting.skips visited path = false) :
    setting.skips (setting.avoided before stack) path = false := by
  obtain ⟨hnew, hsystem⟩ := skips_eq_false_iff.1 hskip
  exact skips_eq_false_iff.2 ⟨fun hmem => hnew (hexploring.marked _ hmem), hsystem⟩

/-- Trails that avoid what a walk has on its stack lead from settled headers to no missing one. -/
theorem Exploring.not_missing (hkeyed : setting.Keyed)
    (hexploring : setting.Exploring before visited stack) {avoid : List Key}
    {includes : List Path} {positions : List Nat} {target : Path}
    (htrail : setting.Trail avoid includes positions target)
    (havoid : ∀ key ∈ setting.avoided before stack, key ∈ avoid)
    (hsettled : ∀ path ∈ includes, setting.Settled visited path) : ¬setting.Missing target := by
  -- A settled header that a trail may pass is finished.
  have hfinished : ∀ {avoid : List Key} {path : Path},
      (∀ key ∈ setting.avoided before stack, key ∈ avoid) →
      setting.skips avoid path = false → setting.Settled visited path →
        setting.Finished visited (setting.key path) := by
    intro avoid path havoid hskip hsettled
    obtain ⟨hfree, hsystem⟩ := skips_eq_false_iff.1 hskip
    rcases hsettled with hyes | hvisited
    · rw [hsystem] at hyes
      cases hyes
    · exact (hexploring.known _ hvisited).resolve_left fun hmem => hfree (havoid _ hmem)
  induction htrail with
  | here hskip =>
      obtain ⟨unit, hholds, -⟩ := hfinished havoid hskip (hsettled _ List.mem_cons_self)
      exact not_missing_of_parse (hkeyed.parse_of_holds hholds)
  | into hskip hparse _ ih =>
      obtain ⟨unit, hholds, hincludes⟩ := hfinished havoid hskip (hsettled _ List.mem_cons_self)
      obtain rfl := Except.ok.inj (hparse.symm.trans (hkeyed.parse_of_holds hholds))
      exact ih (fun key hkey => List.mem_cons_of_mem _ (havoid key hkey)) hincludes
  | past _ ih => exact ih havoid fun path hpath => hsettled path (List.mem_cons_of_mem _ hpath)

/-- An include that is settled need not be pending. -/
theorem pending_or_settled_tail {other : Path} (hsettled : setting.Settled visited path)
    (hother : other ∈ path :: pending ∨ setting.Settled visited other) :
    other ∈ pending ∨ setting.Settled visited other := by
  rcases hother with hpending | hdone
  · rcases List.mem_cons.1 hpending with rfl | hlater
    · exact Or.inr hsettled
    · exact Or.inl hlater
  · exact Or.inr hdone

/-- A walk goes on with the next include when the first one is settled. -/
theorem Exploring.advance
    (hexploring : setting.Exploring before visited (⟨unit, path :: pending⟩ :: rest))
    (hsettled : setting.Settled visited path) :
    setting.Exploring before visited (⟨unit, pending⟩ :: rest) where
  marked := hexploring.marked
  known := hexploring.known
  opened := by
    intro entry hentry
    rcases List.mem_cons.1 hentry with rfl | hrest
    · obtain ⟨hholds, hincludes⟩ := hexploring.opened _ List.mem_cons_self
      exact ⟨hholds, fun other hother => pending_or_settled_tail hsettled (hincludes other hother)⟩
    · exact hexploring.opened entry (List.mem_cons_of_mem _ hrest)

/-- A unit that is closed is finished. -/
theorem Exploring.close (hexploring : setting.Exploring before visited (⟨unit, []⟩ :: rest)) :
    setting.Exploring before visited rest where
  marked key hkey := hexploring.marked key (List.mem_cons_of_mem _ hkey)
  known := by
    intro key hkey
    rcases hexploring.known key hkey with hmem | hfinished
    · rcases List.mem_cons.1 hmem with rfl | hmem
      · obtain ⟨hholds, hincludes⟩ := hexploring.opened _ List.mem_cons_self
        refine Or.inr ⟨unit, hholds, fun path hpath => ?_⟩
        exact (hincludes path hpath).resolve_left (List.not_mem_nil)
      · exact Or.inl hmem
    · exact Or.inr hfinished
  opened entry hentry := hexploring.opened entry (List.mem_cons_of_mem _ hentry)

/-- A header that is entered is marked, and its unit is put on the stack. -/
theorem Exploring.enter (hkeyed : setting.Keyed) {included : SourceUnit}
    (hexploring : setting.Exploring before visited (⟨unit, path :: pending⟩ :: rest))
    (hparse : setting.frontend.parse path = .ok included) :
    setting.Exploring before (visited ++ [setting.key path])
      (OpenUnit.start included :: ⟨unit, pending⟩ :: rest) := by
  have hown : setting.key included.path = setting.key path := hkeyed.own path included hparse
  have hsettled : setting.Settled (visited ++ [setting.key path]) path := Or.inr (by simp)
  refine ⟨?_, ?_, ?_⟩
  · intro key hkey
    rcases List.mem_cons.1 hkey with rfl | hold
    · exact List.mem_append_right _ (List.mem_singleton.2 hown)
    · exact List.mem_append_left _ (hexploring.marked key hold)
  · intro key hkey
    rcases List.mem_append.1 hkey with hold | hlast
    · rcases hexploring.known key hold with hmem | hfinished
      · exact Or.inl (List.mem_cons_of_mem _ hmem)
      · exact Or.inr (hfinished.append _)
    · obtain rfl := List.mem_singleton.1 hlast
      exact Or.inl (List.mem_cons.2 (Or.inl hown.symm))
  · intro entry hentry
    rcases List.mem_cons.1 hentry with rfl | hentry
    · exact ⟨⟨path, hown.symm, hparse⟩, fun other hother => Or.inl hother⟩
    rcases List.mem_cons.1 hentry with rfl | hrest
    · obtain ⟨hholds, hincludes⟩ := hexploring.opened _ List.mem_cons_self
      refine ⟨hholds, fun other hother => pending_or_settled_tail hsettled ?_⟩
      exact (hincludes other hother).imp_right fun hdone => hdone.append _
    · obtain ⟨hholds, hincludes⟩ :=
        hexploring.opened entry (List.mem_cons_of_mem _ hrest)
      exact ⟨hholds, fun other hother => (hincludes other hother).imp_right fun hdone =>
        hdone.append _⟩

/-- The walk of a unit before its first include. -/
theorem exploring_start (hkeyed : setting.Keyed) {header : Path} {root : SourceUnit}
    (hparse : setting.frontend.parse header = .ok root) (before : List Key) :
    setting.Exploring before (before ++ [setting.key root.path]) [OpenUnit.start root] where
  marked key hkey := by
    simpa [avoided, stackKeys, OpenUnit.start, or_comm] using hkey
  known key hkey :=
    Or.inl (by simpa [avoided, stackKeys, OpenUnit.start, or_comm] using hkey)
  opened := by
    intro entry hentry
    obtain rfl := List.mem_singleton.1 hentry
    exact ⟨hkeyed.holds_root hparse, fun path hpath => Or.inl hpath⟩

end Exploring

section Failing

variable {setting : WalkSetting} {names : List Path}
  {hnames : ∀ name ∈ setting.frontend.names, name ∈ names} {before : List Key}

/-- A walk that goes on to close a unit fails only where it would fail without that. -/
theorem error_of_map_error {outcome : Except ParseFailure (List Decl)} {failure : ParseFailure}
    {change : List Decl → List Decl} (hfails : outcome.map change = .error failure) :
    outcome = .error failure := by
  cases outcome with
  | error other => exact congrArg _ (Except.error.inj hfails)
  | ok decls => cases hfails

/-- Whether a header is the first missing one ahead of a stack: the trails from the pending
includes of the top unit come first, then those of the unit below, and so on. -/
def FirstAhead (setting : WalkSetting) (before : List Key) : List OpenUnit → Path → Prop
  | [], _ => False
  | entry :: below, target =>
      setting.FirstMissing (setting.avoided before (entry :: below)) entry.pending target ∨
        setting.NoneMissing (setting.avoided before (entry :: below)) entry.pending ∧
          FirstAhead setting before below target

/-- An include that leads to no missing header does not matter. -/
theorem FirstAhead.cons {unit : SourceUnit} {path target : Path} {pending : List Path}
    {rest : List OpenUnit}
    (hhead : setting.NoneMissing (setting.avoided before (⟨unit, path :: pending⟩ :: rest)) [path])
    (hfirst : setting.FirstAhead before (⟨unit, pending⟩ :: rest) target) :
    setting.FirstAhead before (⟨unit, path :: pending⟩ :: rest) target := by
  rcases hfirst with hfirst | ⟨hnone, hbelow⟩
  · exact Or.inl (hfirst.cons hhead)
  · exact Or.inr ⟨hhead.cons hnone, hbelow⟩

/-- A walk fails at the first missing header ahead of it. -/
theorem firstAhead_of_error (hkeyed : setting.Keyed) (visited : List Key)
    (stack : List OpenUnit) (hstack : Covers names stack) {failure : ParseFailure}
    (hexploring : setting.Exploring before visited stack)
    (hfails : (setting.walk names hnames visited stack hstack).outcome = .error failure) :
    setting.FirstAhead before stack failure.path := by
  revert hexploring hfails
  refine walk_induction (motive := fun visited stack result =>
    setting.Exploring before visited stack → result.outcome = .error failure →
      setting.FirstAhead before stack failure.path) ?_ ?_ ?_ ?_ ?_ visited stack hstack
  · intro visited _ hfails
    cases hfails
  · intro visited unit rest result ih hexploring hfails
    exact Or.inr ⟨noneMissing_nil setting _, ih hexploring.close (error_of_map_error hfails)⟩
  · intro visited unit path pending rest result hskip ih hexploring hfails
    have hsettled := settled_of_skips hskip
    refine FirstAhead.cons ?_ (ih (hexploring.advance hsettled) hfails)
    intro positions target htrail
    refine hexploring.not_missing hkeyed htrail (fun key hkey => hkey) fun other hother => ?_
    rwa [List.mem_singleton.1 hother]
  · intro visited unit path pending rest reason hskip hparse hexploring hfails
    obtain rfl := Except.error.inj hfails
    exact Or.inl (firstMissing_here (hexploring.skips_avoided hskip) ⟨reason, hparse⟩)
  · intro visited unit path pending rest included result hskip hparse ih hexploring hfails
    have hown : setting.key included.path = setting.key path := hkeyed.own path included hparse
    have havoided : setting.avoided before (OpenUnit.start included :: ⟨unit, pending⟩ :: rest) =
        setting.key path :: setting.avoided before (⟨unit, path :: pending⟩ :: rest) := by
      simp [avoided, stackKeys, OpenUnit.start, hown]
    rcases ih (hexploring.enter hkeyed hparse) hfails with hinside | ⟨hnone, hbelow⟩
    · rw [havoided] at hinside
      exact Or.inl (hinside.into (hexploring.skips_avoided hskip) hparse)
    · rw [havoided] at hnone
      exact FirstAhead.cons (noneMissing_into hparse hnone) hbelow

/-- A walk fails at the header that it asked for last, with the words of the frontend. -/
theorem getLast?_requests_of_error (visited : List Key) (stack : List OpenUnit)
    (hstack : Covers names stack) {failure : ParseFailure}
    (hfails : (setting.walk names hnames visited stack hstack).outcome = .error failure) :
    (setting.walk names hnames visited stack hstack).requests.getLast? = some failure.path ∧
      setting.frontend.parse failure.path = .error failure.reason := by
  revert hfails
  refine walk_induction (motive := fun _ _ result =>
    result.outcome = .error failure → result.requests.getLast? = some failure.path ∧
      setting.frontend.parse failure.path = .error failure.reason)
    ?_ ?_ ?_ ?_ ?_ visited stack hstack
  · intro visited hfails
    cases hfails
  · intro visited unit rest result ih hfails
    exact ih (error_of_map_error hfails)
  · intro visited unit path pending rest result _ ih hfails
    exact ih hfails
  · intro visited unit path pending rest reason _ hparse hfails
    obtain rfl := Except.error.inj hfails
    exact ⟨rfl, hparse⟩
  · intro visited unit path pending rest included result _ _ ih hfails
    obtain ⟨hlast, hreason⟩ := ih hfails
    exact ⟨by rw [List.getLast?_cons, hlast]; rfl, hreason⟩

variable {header : Path} {root : SourceUnit}

theorem Keyed.answersAlike (hkeyed : setting.Keyed) : setting.AnswersAlike := by
  intro p q u v hkey hp hq
  obtain rfl := Except.ok.inj (hp.symm.trans ((hkeyed.answers p q hkey).trans hq))
  exact ⟨rfl, rfl⟩

/-- The walk of a unit fails if and only if it can reach a missing header. -/
theorem exists_error_iff (hkeyed : setting.Keyed)
    (hparse : setting.frontend.parse header = .ok root) (before : List Key) :
    (∃ failure, (setting.walkUnit (before ++ [setting.key root.path]) root).outcome =
        .error failure) ↔
      ∃ path, setting.Offered before root path ∧ setting.skips before path = false ∧
        setting.Missing path := by
  constructor
  · rintro ⟨failure, hfails⟩
    obtain ⟨hlast, hreason⟩ := getLast?_requests_of_error _ _ _ hfails
    have hasked := List.mem_of_getLast? hlast
    obtain ⟨hsystem, hnew⟩ := (setting.walkUnit_requests_spec _ root).2 failure.path hasked
    exact ⟨failure.path, walkUnit_requests_offered before root failure.path hasked,
      skips_eq_false_iff.2 ⟨fun hold => hnew (List.mem_append_left _ hold), hsystem⟩,
      failure.reason, hreason⟩
  · rintro ⟨path, ⟨key, unit, hreaches, hunit, hmem⟩, hskip, hmissing⟩
    obtain ⟨hnew, hsystem⟩ := skips_eq_false_iff.1 hskip
    cases hresult : (setting.walkUnit (before ++ [setting.key root.path]) root).outcome with
    | error failure => exact ⟨failure, rfl⟩
    | ok decls =>
        -- A walk that ends well has a unit for everything that it reaches.
        obtain ⟨entered, account⟩ := exists_walkUnit_account hresult
        have hholds : ∃ found, setting.Holds (setting.key path) found := by
          rcases mem_of_reaches hkeyed.answersAlike account
            (.step hreaches hunit hmem hsystem hnew) with hroot | ⟨entry, hentry, hkey⟩
          · exact ⟨root, hroot ▸ hkeyed.holds_root hparse⟩
          · exact ⟨entry.2, entry.1, hkey, account.parsed entry hentry⟩
        obtain ⟨found, hfound⟩ := hholds
        exact absurd hmissing (not_missing_of_parse (hkeyed.parse_of_holds hfound))

end Failing

end WalkSetting

namespace ExtractCall

open WalkSetting

variable {survey : Survey} {call : ExtractCall} {root : SourceUnit}

/-- A call on a new header with a unit fails if and only if the walk of the unit does; it then
marks the header and what the walk asks for, and changes nothing else. -/
theorem step_error_iff (hrecursive : survey.settings.isRecursive = true)
    (hnew : survey.isVisited call.files call.header = false)
    (hparse : call.frontend.parse call.header = .ok root)
    (hown : (visitKey call.files root.path).components =
      (visitKey call.files call.header).components) (failure : ParseFailure) :
    let setting := survey.walkSetting call.files call.frontend
    let result := setting.walkUnit (survey.visited ++ [setting.key call.header]) root
    ((call.step survey).outcome = .error failure ↔ result.outcome = .error failure) ∧
      (result.outcome = .error failure →
        (call.step survey).requests = call.header :: result.requests ∧
          (call.step survey).survey =
            { survey with
              visited :=
                survey.visited ++ (call.header :: result.requests).map setting.key }) := by
  intro setting result
  have hwalk := Survey.declsOf_of_parsed hrecursive hnew hparse hown
  have hstep : result.outcome = .error failure → call.step survey =
      { survey := { survey with visited := result.visited }
        requests := call.header :: result.requests
        events := result.events
        outcome := .error failure } := by
    intro hfails
    have hdecls : (survey.declsOf call.files call.frontend call.header).outcome =
        .error failure := by
      rw [hwalk]
      change result.outcome.map _ = _
      rw [hfails]
      rfl
    rw [step_of_error hdecls, afterWalk, hwalk]
    simp only [result, setting] at hfails ⊢
    simp [hfails, Except.toOption]
  refine ⟨⟨fun hfails => ?_, fun hfails => by rw [hstep hfails]⟩, fun hfails => ?_⟩
  · have hdecls := declsOf_of_step_error hfails
    rw [hwalk] at hdecls
    exact error_of_map_error hdecls
  · rw [hstep hfails]
    refine ⟨rfl, ?_⟩
    simp only [result, setting.visited_walkUnit, List.map_cons, List.append_assoc,
      List.singleton_append]

/-- **When and how a call fails.**  Take a keyed frontend and a call on a header that is new and
has a unit.  The call fails if and only if a header without a unit can be reached: some unit on
a chain of includes includes it, and it is neither of the system nor visited before.  It fails
at the first such header in depth-first order, which is the last one that it asks for, and with
the words of the frontend.  A call that fails reports nothing and leaves the survey as it was,
up to the keys of the header and of the includes that were asked for, which are marked now and
were not before. -/
theorem fails_at_first_missing
    (hrecursive : survey.settings.isRecursive = true)
    (hkeyed : (survey.walkSetting call.files call.frontend).Keyed)
    (hnew : survey.isVisited call.files call.header = false)
    (hparse : call.frontend.parse call.header = .ok root) :
    let setting := survey.walkSetting call.files call.frontend
    let step := call.step survey
    ((∃ failure, step.outcome = .error failure) ↔
        ∃ path, setting.Offered survey.visited root path ∧
          survey.shouldSkip call.files path = false ∧ setting.Missing path) ∧
      ∀ failure, step.outcome = .error failure →
        setting.FirstMissing (setting.key root.path :: survey.visited) root.includes
          failure.path ∧
        setting.frontend.parse failure.path = .error failure.reason ∧
        diagnosticsOf step.events = [] ∧
        ∃ included added,
          step.requests = call.header :: included ∧
          included.getLast? = some failure.path ∧
          added = setting.key root.path :: included.map setting.key ∧
          step.survey = { survey with visited := survey.visited ++ added } ∧
          added.Nodup ∧ ∀ key ∈ added, key ∉ survey.visited := by
  intro setting step
  have hown : setting.key root.path = setting.key call.header :=
    hkeyed.own call.header root hparse
  have hiff := exists_error_iff hkeyed hparse survey.visited
  rw [hown] at hiff
  have hstep := step_error_iff hrecursive hnew hparse hown
  refine ⟨(exists_congr fun failure => (hstep failure).1).trans hiff, ?_⟩
  intro failure hfails
  have hresult := (hstep failure).1.1 hfails
  obtain ⟨hrequests, hsurvey⟩ := (hstep failure).2 hresult
  obtain ⟨hlast, hreason⟩ := getLast?_requests_of_error _ _ _ hresult
  have hfirst : setting.FirstAhead survey.visited [OpenUnit.start root] failure.path := by
    refine firstAhead_of_error hkeyed _ _ _ ?_ hresult
    rw [← hown]
    exact exploring_start hkeyed hparse survey.visited
  obtain ⟨hnodup, hspec⟩ :=
    setting.walkUnit_requests_spec (survey.visited ++ [setting.key call.header]) root
  refine ⟨hfirst.resolve_right And.right, hreason, ?_, _, _, hrequests, hlast, rfl, ?_, ?_, ?_⟩
  · change diagnosticsOf (call.step survey).events = []
    rw [step_of_error (declsOf_of_step_error hfails)]
    exact survey.diagnosticsOf_declsOf call.files call.frontend call.header
  · rw [hown]
    exact hsurvey
  · rw [hown]
    refine List.nodup_cons.2 ⟨fun hmem => ?_, hnodup⟩
    obtain ⟨path, hpath, hkey⟩ := List.mem_map.1 hmem
    exact (hspec path hpath).2 (List.mem_append_right _ (List.mem_singleton.2 hkey))
  · intro key hkey
    rcases List.mem_cons.1 hkey with rfl | hkey
    · rw [hown]
      exact Survey.isVisited_eq_false_iff.1 hnew
    · obtain ⟨path, hpath, rfl⟩ := List.mem_map.1 hkey
      exact fun hold => (hspec path hpath).2 (List.mem_append_left _ hold)

section Nested

/-- A unit that includes a missing header after one that has a unit. -/
def nestedRoot : SourceUnit where
  path := ⟨"/src/a.h"⟩
  includes := [⟨"/src/b.h"⟩, ⟨"/src/gone.h"⟩]

/-- Two missing headers: `gone.h` is nearer to the first unit, `lost.h` comes first in depth-first
order.  The units include each other in a ring, and none of them is in the tree. -/
def nestedUnits : List SourceUnit :=
  [nestedRoot,
    { path := ⟨"/src/b.h"⟩, includes := [⟨"/src/a.h"⟩, ⟨"/src/c.h"⟩] },
    { path := ⟨"/src/c.h"⟩, includes := [⟨"/src/./b.h"⟩, ⟨"/src/lost.h"⟩] }]

/-- The call that starts at the first unit. -/
def nestedCall : ExtractCall where
  files := FileTree.empty
  frontend := UnitStore.toFrontend (UnitStore.ofList nestedUnits)
  header := ⟨"/src//a.h"⟩
  selections := [⟨"a", .isPublic⟩]

/-- A survey that has not visited anything yet. -/
def nestedStart : Survey where
  settings := {}

theorem nested_isOutside :
    ∀ unit ∈ (UnitStore.ofList nestedUnits).units, FileTree.empty.IsOutside unit.path := by
  have hlacks : FileTree.empty.Lacks "src" := by
    refine ⟨by decide +kernel, ?_⟩
    intro name hname
    obtain rfl : "tmp" = name := Option.some.inj hname
    exact ⟨by decide, by decide, by decide⟩
  have hbelow : ∀ unit ∈ (UnitStore.ofList nestedUnits).units,
      [.root, .name "src"] <+: unit.path.components := by
    decide +kernel
  exact fun unit hunit => ⟨"src", hbelow unit hunit, hlacks⟩

/-- The call fails at the header that comes first, not at the one that is nearer. -/
theorem fails_at_first_missing_nested :
    let setting := nestedStart.walkSetting nestedCall.files nestedCall.frontend
    (nestedCall.step nestedStart).outcome = .error ⟨⟨"/src/lost.h"⟩, UnitStore.missingUnit⟩ ∧
      setting.FirstMissing [setting.key ⟨"/src/a.h"⟩] nestedRoot.includes ⟨"/src/lost.h"⟩ ∧
      setting.Missing ⟨"/src/gone.h"⟩ := by
  intro setting
  have hkeyed : setting.Keyed := UnitStore.keyed nested_isOutside nestedStart
  have hnew : nestedStart.isVisited nestedCall.files nestedCall.header = false := by
    decide +kernel
  have hparse : nestedCall.frontend.parse nestedCall.header = .ok nestedRoot := by
    decide +kernel
  have hfails : (nestedCall.step nestedStart).outcome =
      .error ⟨⟨"/src/lost.h"⟩, UnitStore.missingUnit⟩ := by
    decide +kernel
  obtain ⟨-, hfailure⟩ := fails_at_first_missing rfl hkeyed hnew hparse
  exact ⟨hfails, (hfailure _ hfails).1, UnitStore.missingUnit, by decide +kernel⟩

end Nested

end ExtractCall
end HeaderBindings
