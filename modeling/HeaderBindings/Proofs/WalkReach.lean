import HeaderBindings.Survey.Extract
import Mathlib.Data.List.Perm.Basic

/-!
# What a walk reaches

A walk that ends well visits exactly the headers that can be reached from its root
along includes, and brings up the own declarations of each of them once.

**Chains.**  A chain starts at the root and goes from a unit to a header that the
unit includes.  A header of the system ends the chain, and so does a header that
was visited before the walk.

**Method.**  `walk_induction` packages the recursion of a walk: one case for each
thing that a walk does next.  Every fact about a walk is proved from it for an
arbitrary stack of open units.  An `Account` of a walk lists the units that it
entered: what is reached is marked (`mem_of_reaches`) and what is marked is reached
(`reaches_of_entered`); a walk of one unit combines the two.

**Results.**
* `visited_walk`, `requests_spec`: a walk marks the headers that it asks for, each
  key once.
* `Survey.walk_exact`: the visited keys, the declarations and the requests of a
  walk that ends well.
-/

namespace HeaderBindings
namespace WalkSetting

section Induction

variable {setting : WalkSetting} {names : List Path}
  {hnames : ∀ name ∈ setting.frontend.names, name ∈ names}

/-- Induction over a walk, with one case for each thing that it does next. -/
@[elab_as_elim]
theorem walk_induction
    {motive : List Key → List OpenUnit → WalkResult → Prop}
    (nil : ∀ visited, motive visited [] ⟨visited, [], [], .ok []⟩)
    (close : ∀ visited unit rest result,
      motive visited rest result →
      motive visited (⟨unit, []⟩ :: rest)
        { result with outcome := result.outcome.map fun decls => unit.ownDecls ++ decls })
    (skip : ∀ visited unit path pending rest result,
      setting.skips visited path = true →
      motive visited (⟨unit, pending⟩ :: rest) result →
      motive visited (⟨unit, path :: pending⟩ :: rest)
        { result with events := skipRemark path :: result.events })
    (fail : ∀ visited unit path pending rest reason,
      setting.skips visited path = false →
      setting.frontend.parse path = .error reason →
      motive visited (⟨unit, path :: pending⟩ :: rest)
        ⟨visited ++ [setting.key path], [path], [], .error ⟨path, reason⟩⟩)
    (enter : ∀ visited unit path pending rest included result,
      setting.skips visited path = false →
      setting.frontend.parse path = .ok included →
      motive (visited ++ [setting.key path])
        (OpenUnit.start included :: ⟨unit, pending⟩ :: rest) result →
      motive visited (⟨unit, path :: pending⟩ :: rest)
        { result with requests := path :: result.requests })
    (visited : List Key) (stack : List OpenUnit) (hstack : Covers names stack) :
    motive visited stack (setting.walk names hnames visited stack hstack) := by
  induction visited, stack, hstack using walk.induct setting names hnames with
  | case1 visited hstack =>
      rw [walk_nil]
      exact nil visited
  | case2 visited unit rest hstack _ ih =>
      rw [walk_close]
      exact close visited unit rest _ ih
  | case3 visited unit path pending rest hstack hskip _ ih =>
      rw [walk_skip hstack hskip]
      exact skip visited unit path pending rest _ hskip ih
  | case4 visited unit path pending rest hstack hskip reason hparse =>
      rw [Bool.not_eq_true] at hskip
      rw [walk_fail hstack hskip hparse]
      exact fail visited unit path pending rest reason hskip hparse
  | case5 visited unit path pending rest hstack hskip included hparse _ ih =>
      rw [Bool.not_eq_true] at hskip
      rw [walk_enter hstack hskip hparse]
      exact enter visited unit path pending rest included _ hskip hparse ih

theorem skips_eq_false_iff {visited : List Key} {path : Path} :
    setting.skips visited path = false ↔
      setting.key path ∉ visited ∧ setting.isSystem path = false := by
  simp [skips, List.contains_eq_mem]

theorem skips_eq_true_iff {visited : List Key} {path : Path} :
    setting.skips visited path = true ↔
      setting.key path ∈ visited ∨ setting.isSystem path = true := by
  simp [skips, List.contains_eq_mem]

end Induction

section Requests

variable {setting : WalkSetting} {names : List Path}
  {hnames : ∀ name ∈ setting.frontend.names, name ∈ names}

/-- A walk marks the headers that it asks for, and no others. -/
theorem visited_walk (visited : List Key) (stack : List OpenUnit)
    (hstack : Covers names stack) :
    (setting.walk names hnames visited stack hstack).visited =
      visited ++
        (setting.walk names hnames visited stack hstack).requests.map setting.key := by
  refine walk_induction (motive := fun visited _ result =>
    result.visited = visited ++ result.requests.map setting.key) ?_ ?_ ?_ ?_ ?_
    visited stack hstack
  · intro visited
    simp
  · intro visited unit rest result ih
    exact ih
  · intro visited unit path pending rest result _ ih
    exact ih
  · intro visited unit path pending rest reason _ _
    rfl
  · intro visited unit path pending rest included result _ _ ih
    rw [ih]
    simp

/-- The headers that a walk asks for have different keys; none of them is of the system, and
none was visited before. -/
theorem requests_spec (visited : List Key) (stack : List OpenUnit)
    (hstack : Covers names stack) :
    ((setting.walk names hnames visited stack hstack).requests.map setting.key).Nodup ∧
      ∀ path ∈ (setting.walk names hnames visited stack hstack).requests,
        setting.isSystem path = false ∧ setting.key path ∉ visited := by
  refine walk_induction (motive := fun visited _ result =>
    (result.requests.map setting.key).Nodup ∧
      ∀ path ∈ result.requests, setting.isSystem path = false ∧ setting.key path ∉ visited)
    ?_ ?_ ?_ ?_ ?_ visited stack hstack
  · intro visited
    simp
  · intro visited unit rest result ih
    exact ih
  · intro visited unit path pending rest result _ ih
    exact ih
  · intro visited unit path pending rest reason hskip _
    simpa using (skips_eq_false_iff.1 hskip).symm
  · intro visited unit path pending rest included result hskip _ ih
    obtain ⟨hnodup, hfresh⟩ := ih
    obtain ⟨hnew, hsystem⟩ := skips_eq_false_iff.1 hskip
    constructor
    · rw [List.map_cons, List.nodup_cons]
      refine ⟨fun hmem => ?_, hnodup⟩
      -- The later requests are new to a list that holds this key already.
      obtain ⟨later, hlater, hkey⟩ := List.mem_map.1 hmem
      exact (hfresh later hlater).2 (by simp [hkey])
    · intro asked hmem
      rcases List.mem_cons.1 hmem with rfl | hlater
      · exact ⟨hsystem, hnew⟩
      · obtain ⟨hs, hk⟩ := hfresh asked hlater
        exact ⟨hs, fun hold => hk (List.mem_append_left _ hold)⟩

end Requests

section Accounts

variable {setting : WalkSetting} {names : List Path}
  {hnames : ∀ name ∈ setting.frontend.names, name ∈ names}

/-- Whether a walk has nothing to do for a header: it belongs to the system or is visited. -/
def Settled (setting : WalkSetting) (visited : List Key) (path : Path) : Prop :=
  setting.isSystem path = true ∨ setting.key path ∈ visited

/-- An account of a walk that ended well: the headers that it entered with their units, and
nothing left to do. -/
structure Account
    (setting : WalkSetting)
    (visited : List Key)
    (stack : List OpenUnit)
    (result : WalkResult)
    (decls : List Decl)
    (entered : List (Path × SourceUnit)) : Prop where
  requests_eq : result.requests = entered.map Prod.fst
  visited_eq : result.visited = visited ++ entered.map fun entry => setting.key entry.1
  parsed : ∀ entry ∈ entered, setting.frontend.parse entry.1 = .ok entry.2
  includes_settled : ∀ entry ∈ entered, ∀ path ∈ entry.2.includes,
    setting.Settled result.visited path
  pending_settled : ∀ entry ∈ stack, ∀ path ∈ entry.pending,
    setting.Settled result.visited path
  /-- The own declarations of the units entered and of the open ones, each unit once. -/
  decls_eq : ∃ order : List SourceUnit,
    order.Perm (entered.map Prod.snd ++ stack.map OpenUnit.unit) ∧
      decls = order.flatMap SourceUnit.ownDecls

/-- Closing a unit brings its own declarations up. -/
theorem Account.close {visited : List Key} {unit : SourceUnit} {rest : List OpenUnit}
    {result : WalkResult} {decls : List Decl} {entered : List (Path × SourceUnit)}
    (account : setting.Account visited rest result decls entered)
    (outcome : Except ParseFailure (List Decl)) :
    setting.Account visited (⟨unit, []⟩ :: rest) { result with outcome := outcome }
      (unit.ownDecls ++ decls) entered where
  requests_eq := account.requests_eq
  visited_eq := account.visited_eq
  parsed := account.parsed
  includes_settled := account.includes_settled
  pending_settled := by
    intro entry hentry path hpath
    rcases List.mem_cons.1 hentry with rfl | hrest
    · simp at hpath
    · exact account.pending_settled entry hrest path hpath
  decls_eq := by
    obtain ⟨order, hperm, hdecls⟩ := account.decls_eq
    refine ⟨unit :: order, ?_, by simp [hdecls]⟩
    exact (hperm.cons unit).trans List.perm_middle.symm

/-- A header that is skipped is settled. -/
theorem Account.skip {visited : List Key} {unit : SourceUnit} {path : Path}
    {pending : List Path} {rest : List OpenUnit} {result : WalkResult} {decls : List Decl}
    {entered : List (Path × SourceUnit)}
    (account : setting.Account visited (⟨unit, pending⟩ :: rest) result decls entered)
    (hskip : setting.skips visited path = true) (events : List Event) :
    setting.Account visited (⟨unit, path :: pending⟩ :: rest) { result with events := events }
      decls entered where
  requests_eq := account.requests_eq
  visited_eq := account.visited_eq
  parsed := account.parsed
  includes_settled := account.includes_settled
  pending_settled := by
    intro entry hentry asked hasked
    rcases List.mem_cons.1 hentry with rfl | hrest
    · rcases List.mem_cons.1 hasked with rfl | hlater
      · rcases skips_eq_true_iff.1 hskip with hkey | hsystem
        · right
          rw [account.visited_eq]
          exact List.mem_append_left _ hkey
        · exact Or.inl hsystem
      · exact account.pending_settled _ List.mem_cons_self asked hlater
    · exact account.pending_settled entry (List.mem_cons_of_mem _ hrest) asked hasked
  decls_eq := account.decls_eq

/-- A header that is entered is settled, and its unit is one more in the account. -/
theorem Account.enter {visited : List Key} {unit included : SourceUnit} {path : Path}
    {pending : List Path} {rest : List OpenUnit} {result : WalkResult} {decls : List Decl}
    {entered : List (Path × SourceUnit)}
    (account : setting.Account (visited ++ [setting.key path])
      (OpenUnit.start included :: ⟨unit, pending⟩ :: rest) result decls entered)
    (hparse : setting.frontend.parse path = .ok included) :
    setting.Account visited (⟨unit, path :: pending⟩ :: rest)
      { result with requests := path :: result.requests } decls
      ((path, included) :: entered) where
  requests_eq := by simp [account.requests_eq]
  visited_eq := by simp [account.visited_eq]
  parsed := by
    intro entry hentry
    rcases List.mem_cons.1 hentry with rfl | hlater
    · exact hparse
    · exact account.parsed entry hlater
  includes_settled := by
    intro entry hentry
    rcases List.mem_cons.1 hentry with rfl | hlater
    · exact account.pending_settled _ List.mem_cons_self
    · exact account.includes_settled entry hlater
  pending_settled := by
    intro entry hentry asked hasked
    rcases List.mem_cons.1 hentry with rfl | hrest
    · rcases List.mem_cons.1 hasked with rfl | hlater
      · right
        rw [account.visited_eq]
        simp
      · exact account.pending_settled ⟨unit, pending⟩ (by simp) asked hlater
    · exact account.pending_settled entry (by simp [hrest]) asked hasked
  decls_eq := by
    obtain ⟨order, hperm, hdecls⟩ := account.decls_eq
    exact ⟨order, hperm.trans List.perm_middle, hdecls⟩

/-- Every walk that ends well has an account. -/
theorem exists_account (visited : List Key) (stack : List OpenUnit)
    (hstack : Covers names stack) {decls : List Decl}
    (hok : (setting.walk names hnames visited stack hstack).outcome = .ok decls) :
    ∃ entered,
      setting.Account visited stack (setting.walk names hnames visited stack hstack) decls
        entered := by
  revert decls
  refine walk_induction (motive := fun visited stack result =>
    ∀ {decls : List Decl}, result.outcome = .ok decls →
      ∃ entered, setting.Account visited stack result decls entered)
    ?_ ?_ ?_ ?_ ?_ visited stack hstack
  · intro visited decls hok
    obtain rfl := Except.ok.inj hok
    exact ⟨[], rfl, by simp, by simp, by simp, by simp, [], by simp, rfl⟩
  · intro visited unit rest result ih decls hok
    cases hresult : result.outcome with
    | error failure => simp [hresult, Except.map] at hok
    | ok found =>
        simp only [hresult, Except.map, Except.ok.injEq] at hok
        obtain ⟨entered, account⟩ := ih hresult
        rw [← hok]
        exact ⟨entered, account.close _⟩
  · intro visited unit path pending rest result hskip ih decls hok
    obtain ⟨entered, account⟩ := ih hok
    exact ⟨entered, account.skip hskip _⟩
  · intro visited unit path pending rest reason _ _ decls hok
    simp at hok
  · intro visited unit path pending rest included result _ hparse ih decls hok
    obtain ⟨entered, account⟩ := ih hok
    exact ⟨(path, included) :: entered, account.enter hparse⟩

end Accounts

section Reachability

variable {setting : WalkSetting} {names : List Path}
  {hnames : ∀ name ∈ setting.frontend.names, name ∈ names}

/-- The frontend gives the same includes and declarations for any two paths with the same key
for which it gives an answer. -/
def AnswersAlike (setting : WalkSetting) : Prop :=
  ∀ p q u v, setting.key p = setting.key q →
    setting.frontend.parse p = .ok u → setting.frontend.parse q = .ok v →
      u.includes = v.includes ∧ u.decls = v.decls

/-- The unit that stands for a key in a walk from `root`: the root under its own key, and
otherwise what the frontend gives for a path with this key. -/
def UnitAt (setting : WalkSetting) (root : SourceUnit) (key : Key) (unit : SourceUnit) : Prop :=
  if key = setting.key root.path then unit = root
  else ∃ path, setting.key path = key ∧ setting.frontend.parse path = .ok unit

/-- The keys at the ends of chains of includes from `root` that lead through no header of the
system and through no key visited `before`. -/
inductive Reaches (setting : WalkSetting) (before : List Key) (root : SourceUnit) : Key → Prop
  | root : Reaches setting before root (setting.key root.path)
  | step {key : Key} {unit : SourceUnit} {path : Path} :
      Reaches setting before root key →
      setting.UnitAt root key unit →
      path ∈ unit.includes →
      setting.isSystem path = false →
      setting.key path ∉ before →
      Reaches setting before root (setting.key path)

/-- A header that some reached unit includes. -/
def Offered (setting : WalkSetting) (before : List Key) (root : SourceUnit) (path : Path) :
    Prop :=
  ∃ key unit, setting.Reaches before root key ∧ setting.UnitAt root key unit ∧
    path ∈ unit.includes

theorem unitAt_root (root : SourceUnit) :
    setting.UnitAt root (setting.key root.path) root := by
  simp [UnitAt]

theorem unitAt_of_parse {root unit : SourceUnit} {path : Path}
    (hne : setting.key path ≠ setting.key root.path)
    (hparse : setting.frontend.parse path = .ok unit) :
    setting.UnitAt root (setting.key path) unit := by
  rw [UnitAt, if_neg hne]
  exact ⟨path, rfl, hparse⟩

/-- What is asked for in a walk is included by a reached unit, if all that is pending is. -/
theorem requests_offered {before : List Key} {root : SourceUnit}
    (visited : List Key) (stack : List OpenUnit) (hstack : Covers names stack)
    (hbefore : ∀ key ∈ before, key ∈ visited)
    (hroot : setting.key root.path ∈ visited)
    (hpending : ∀ entry ∈ stack, ∀ path ∈ entry.pending, setting.Offered before root path) :
    ∀ path ∈ (setting.walk names hnames visited stack hstack).requests,
      setting.Offered before root path := by
  revert hbefore hroot hpending
  refine walk_induction (motive := fun visited stack result =>
    (∀ key ∈ before, key ∈ visited) →
    setting.key root.path ∈ visited →
    (∀ entry ∈ stack, ∀ path ∈ entry.pending, setting.Offered before root path) →
      ∀ path ∈ result.requests, setting.Offered before root path)
    ?_ ?_ ?_ ?_ ?_ visited stack hstack
  · intro visited _ _ _ path hmem
    simp at hmem
  · intro visited unit rest result ih hbefore hroot hpending
    exact ih hbefore hroot fun entry hentry =>
      hpending entry (List.mem_cons_of_mem _ hentry)
  · intro visited unit path pending rest result _ ih hbefore hroot hpending
    refine ih hbefore hroot ?_
    intro entry hentry asked hasked
    rcases List.mem_cons.1 hentry with rfl | hrest
    · exact hpending _ List.mem_cons_self asked (List.mem_cons_of_mem _ hasked)
    · exact hpending entry (List.mem_cons_of_mem _ hrest) asked hasked
  · intro visited unit path pending rest reason _ _ _ _ hpending asked hmem
    obtain rfl := List.mem_singleton.1 hmem
    exact hpending _ List.mem_cons_self asked List.mem_cons_self
  · intro visited unit path pending rest included result hskip hparse ih hbefore hroot hpending
    obtain ⟨hnew, hsystem⟩ := skips_eq_false_iff.1 hskip
    have hoffered : setting.Offered before root path :=
      hpending _ List.mem_cons_self path List.mem_cons_self
    -- The header itself is reached, so what it includes is offered from now on.
    have hreaches : setting.Reaches before root (setting.key path) := by
      obtain ⟨key, unit, hkey, hunit, hmem⟩ := hoffered
      exact .step hkey hunit hmem hsystem fun hold => hnew (hbefore _ hold)
    have hunit : setting.UnitAt root (setting.key path) included :=
      unitAt_of_parse (fun heq => hnew (heq ▸ hroot)) hparse
    have hlater := ih (fun key hkey => List.mem_append_left _ (hbefore key hkey))
      (List.mem_append_left _ hroot) ?_
    · intro asked hmem
      rcases List.mem_cons.1 hmem with rfl | hmem
      · exact hoffered
      · exact hlater asked hmem
    · intro entry hentry asked hasked
      rcases List.mem_cons.1 hentry with rfl | hentry
      · exact ⟨_, included, hreaches, hunit, hasked⟩
      rcases List.mem_cons.1 hentry with rfl | hrest
      · exact hpending _ List.mem_cons_self asked (List.mem_cons_of_mem _ hasked)
      · exact hpending entry (List.mem_cons_of_mem _ hrest) asked hasked

/-- Every header asked for in a walk from `root` is included by a reached unit. -/
theorem walkUnit_requests_offered (before : List Key) (root : SourceUnit) :
    ∀ path ∈ (setting.walkUnit (before ++ [setting.key root.path]) root).requests,
      setting.Offered before root path := by
  refine requests_offered _ _ _ (fun key hkey => List.mem_append_left _ hkey)
    (List.mem_append_right _ (List.mem_singleton.2 rfl)) ?_
  intro entry hentry path hpath
  obtain rfl := List.mem_singleton.1 hentry
  exact ⟨_, root, .root, unitAt_root root, hpath⟩

/-- Every key on a chain is marked by a walk from `root` that ends well. -/
theorem mem_of_reaches
    (halike : setting.AnswersAlike) {before : List Key} {root : SourceUnit}
    {result : WalkResult} {decls : List Decl} {entered : List (Path × SourceUnit)}
    (account : setting.Account (before ++ [setting.key root.path]) [OpenUnit.start root]
      result decls entered)
    {key : Key} (hreaches : setting.Reaches before root key) :
    key = setting.key root.path ∨ ∃ entry ∈ entered, setting.key entry.1 = key := by
  induction hreaches with
  | root => exact Or.inl rfl
  | @step key unit path _ hunit hmem hsystem hnew ih =>
      have hsettled : setting.Settled result.visited path := by
        by_cases hroot : key = setting.key root.path
        · rw [UnitAt, if_pos hroot] at hunit
          subst hunit
          exact account.pending_settled _ List.mem_cons_self path hmem
        · rw [UnitAt, if_neg hroot] at hunit
          obtain ⟨other, hother, hparse⟩ := hunit
          obtain ⟨entry, hentry, hkey⟩ := ih.resolve_left hroot
          have hincludes := (halike _ _ _ _ (hkey.trans hother.symm)
            (account.parsed entry hentry) hparse).1
          exact account.includes_settled entry hentry path (hincludes ▸ hmem)
      rcases hsettled with hs | hvisited
      · simp [hs] at hsystem
      · rw [account.visited_eq, List.mem_append, List.mem_append, List.mem_singleton,
          List.mem_map] at hvisited
        rcases hvisited with (hold | hroot) | hentered
        · exact absurd hold hnew
        · exact Or.inl hroot
        · exact Or.inr hentered

end Reachability

section Units

variable {setting : WalkSetting}

/-- A walk from `root` that ends well has an account. -/
theorem exists_walkUnit_account {visited : List Key} {root : SourceUnit} {decls : List Decl}
    (hok : (setting.walkUnit visited root).outcome = .ok decls) :
    ∃ entered,
      setting.Account visited [OpenUnit.start root] (setting.walkUnit visited root) decls
        entered :=
  exists_account _ _ _ hok

theorem walkUnit_requests_spec (setting : WalkSetting) (visited : List Key)
    (root : SourceUnit) :
    ((setting.walkUnit visited root).requests.map setting.key).Nodup ∧
      ∀ path ∈ (setting.walkUnit visited root).requests,
        setting.isSystem path = false ∧ setting.key path ∉ visited :=
  requests_spec _ _ _

/-- The keys that a walk from `root` adds: its own, then those of the headers entered. -/
def addedKeys (setting : WalkSetting) (root : SourceUnit) (entered : List (Path × SourceUnit)) :
    List Key :=
  setting.key root.path :: entered.map fun entry => setting.key entry.1

variable {before : List Key} {root : SourceUnit} {decls : List Decl}
  {entered : List (Path × SourceUnit)}

/-- A header that was entered is reached, and its key is new. -/
theorem reaches_of_entered
    (account : setting.Account (before ++ [setting.key root.path]) [OpenUnit.start root]
      (setting.walkUnit (before ++ [setting.key root.path]) root) decls entered)
    {entry : Path × SourceUnit} (hentry : entry ∈ entered) :
    setting.Reaches before root (setting.key entry.1) ∧ setting.key entry.1 ∉ before ∧
      setting.key entry.1 ≠ setting.key root.path := by
  have hmem : entry.1 ∈
      (setting.walkUnit (before ++ [setting.key root.path]) root).requests := by
    rw [account.requests_eq]
    exact List.mem_map_of_mem hentry
  obtain ⟨hsystem, hnew⟩ := (walkUnit_requests_spec setting _ root).2 _ hmem
  rw [List.mem_append, List.mem_singleton, not_or] at hnew
  obtain ⟨key, unit, hkey, hunit, hincluded⟩ := walkUnit_requests_offered before root _ hmem
  exact ⟨.step hkey hunit hincluded hsystem hnew.1, hnew⟩

/-- A walk from `root` that ends well adds exactly the reached keys. -/
theorem mem_addedKeys_iff
    (halike : setting.AnswersAlike)
    (account : setting.Account (before ++ [setting.key root.path]) [OpenUnit.start root]
      (setting.walkUnit (before ++ [setting.key root.path]) root) decls entered) (key : Key) :
    key ∈ setting.addedKeys root entered ↔ setting.Reaches before root key := by
  rw [addedKeys, List.mem_cons, List.mem_map]
  constructor
  · rintro (rfl | ⟨entry, hentry, rfl⟩)
    · exact .root
    · exact (reaches_of_entered account hentry).1
  · exact mem_of_reaches halike account

/-- The added keys are different from each other. -/
theorem nodup_addedKeys
    (account : setting.Account (before ++ [setting.key root.path]) [OpenUnit.start root]
      (setting.walkUnit (before ++ [setting.key root.path]) root) decls entered) :
    (setting.addedKeys root entered).Nodup := by
  rw [addedKeys, List.nodup_cons]
  constructor
  · intro hmem
    obtain ⟨entry, hentry, hkey⟩ := List.mem_map.1 hmem
    exact (reaches_of_entered account hentry).2.2 hkey
  · have hnodup :=
      (walkUnit_requests_spec setting (before ++ [setting.key root.path]) root).1
    rw [account.requests_eq, List.map_map] at hnodup
    exact hnodup

/-- The declarations of a walk from `root`, unit by unit, each under its key. -/
theorem exists_unit_order
    (account : setting.Account (before ++ [setting.key root.path]) [OpenUnit.start root]
      (setting.walkUnit (before ++ [setting.key root.path]) root) decls entered) :
    ∃ order : List (Key × SourceUnit),
      (order.map Prod.fst).Perm (setting.addedKeys root entered) ∧
        (∀ entry ∈ order, setting.UnitAt root entry.1 entry.2) ∧
          decls = order.flatMap fun entry => entry.2.ownDecls := by
  let keyed : List (Key × SourceUnit) :=
    entered.map (fun entry => (setting.key entry.1, entry.2)) ++
      [(setting.key root.path, root)]
  obtain ⟨units, hperm, hdecls⟩ := account.decls_eq
  have hunits : units.Perm (keyed.map Prod.snd) := by
    simpa [keyed, OpenUnit.start, Function.comp_def] using hperm
  obtain ⟨order, horder, hkeyed⟩ :
      Relation.Comp (fun units keyed => units = keyed.map Prod.snd) List.Perm units keyed := by
    rw [List.eq_map_comp_perm]
    exact hunits
  refine ⟨order, ?_, ?_, ?_⟩
  · refine (hkeyed.map Prod.fst).trans ?_
    simp only [keyed, addedKeys, List.map_append, List.map_map, Function.comp_def,
      List.map_cons, List.map_nil]
    exact List.perm_append_singleton _ _
  · intro entry hentry
    rcases List.mem_append.1 (hkeyed.subset hentry) with hmem | hmem
    · obtain ⟨found, hfound, rfl⟩ := List.mem_map.1 hmem
      exact unitAt_of_parse (reaches_of_entered account hfound).2.2
        (account.parsed found hfound)
    · obtain rfl := List.mem_singleton.1 hmem
      exact unitAt_root root
  · rw [hdecls, horder, List.flatMap_map]

end Units

end WalkSetting

namespace Survey

/-- A walk from a unit that was not visited before, in recursive mode. -/
theorem walk_eq_of_new {survey : Survey} {tree : FileTree} {root : SourceUnit}
    (hrecursive : survey.settings.isRecursive = true)
    (hnew : survey.isVisited tree root.path = false) (frontend : Frontend) :
    let setting := survey.walkSetting tree frontend
    let result := setting.walkUnit (survey.visited ++ [setting.key root.path]) root
    survey.walk tree frontend root =
      { survey :=
          { survey with
            visited := result.visited
            walked := survey.walked ++ result.outcome.toOption.getD [] }
        requests := result.requests
        events := result.events
        outcome := result.outcome } := by
  simp only [walk, hrecursive, hnew]
  rfl

/-- **A walk visits what it can reach.**  A walk that ends well adds exactly the keys of chains
from its root, brings up the own declarations of the unit of each of these keys once, keeps
them, and asks only for headers that some reached unit includes, each key once. -/
theorem walk_exact
    {survey : Survey} {tree : FileTree} {frontend : Frontend} {root : SourceUnit}
    {decls : List Decl}
    (hrecursive : survey.settings.isRecursive = true)
    (hnew : survey.isVisited tree root.path = false)
    (halike : (survey.walkSetting tree frontend).AnswersAlike)
    (hok : (survey.walk tree frontend root).outcome = .ok decls) :
    let setting := survey.walkSetting tree frontend
    let step := survey.walk tree frontend root
    ∃ (added : List Key) (order : List (Key × SourceUnit)),
      step.survey.visited = survey.visited ++ added ∧
      added.Nodup ∧
      (∀ key ∈ added, key ∉ survey.visited) ∧
      (∀ key, key ∈ added ↔ setting.Reaches survey.visited root key) ∧
      (order.map Prod.fst).Perm added ∧
      (∀ entry ∈ order, setting.UnitAt root entry.1 entry.2) ∧
      decls = order.flatMap (fun entry => entry.2.ownDecls) ∧
      step.survey.walked = survey.walked ++ decls ∧
      (step.requests.map setting.key).Nodup ∧
      ∀ path ∈ step.requests,
        setting.Offered survey.visited root path ∧
        setting.isSystem path = false ∧
        setting.key path ∉ survey.visited ∧
        setting.key path ≠ setting.key root.path := by
  intro setting step
  have hstep : step = _ := walk_eq_of_new hrecursive hnew frontend
  have hok' : (setting.walkUnit (survey.visited ++ [setting.key root.path]) root).outcome =
      .ok decls := by
    have hout : step.outcome = .ok decls := hok
    rw [hstep] at hout
    exact hout
  obtain ⟨entered, account⟩ := WalkSetting.exists_walkUnit_account hok'
  obtain ⟨order, hkeys, hunits, hdecls⟩ := WalkSetting.exists_unit_order account
  obtain ⟨hnodup, hfresh⟩ := WalkSetting.walkUnit_requests_spec setting
    (survey.visited ++ [setting.key root.path]) root
  have hroot : setting.key root.path ∉ survey.visited := by
    simpa [setting, walkSetting, isVisited, List.contains_eq_mem] using hnew
  refine ⟨setting.addedKeys root entered, order, ?_, WalkSetting.nodup_addedKeys account, ?_,
    WalkSetting.mem_addedKeys_iff halike account, hkeys, hunits, hdecls, ?_, ?_, ?_⟩
  · rw [hstep]
    simp [account.visited_eq, WalkSetting.addedKeys, setting]
  · intro key hkey
    rcases List.mem_cons.1 hkey with rfl | hentered
    · exact hroot
    · obtain ⟨entry, hentry, rfl⟩ := List.mem_map.1 hentered
      exact (WalkSetting.reaches_of_entered account hentry).2.1
  · rw [hstep]
    simp only [setting] at hok'
    simp [hok', Except.toOption]
  · rw [hstep]
    exact hnodup
  · intro path hpath
    rw [hstep] at hpath
    obtain ⟨hsystem, hkey⟩ := hfresh path hpath
    rw [List.mem_append, List.mem_singleton, not_or] at hkey
    exact ⟨WalkSetting.walkUnit_requests_offered survey.visited root path hpath, hsystem, hkey⟩

section Ring

/-- A header that includes the unit that includes it, itself, and a header of the system. -/
def ringHeader : SourceUnit where
  path := ⟨"a.h"⟩
  includes := [⟨"main.h"⟩, ⟨"a.h"⟩, ⟨"sys/b.h"⟩]
  decls :=
    [{ kind := .classDecl, name := "a" },
      { kind := .classDecl, name := "seen", fromInclude := true }]

/-- A unit that includes one header in two spellings. -/
def ringRoot : SourceUnit where
  path := ⟨"main.h"⟩
  includes := [⟨"a.h"⟩, ⟨"./a.h"⟩]
  decls := [{ kind := .classDecl, name := "m" }]

/-- A frontend that knows the header only. -/
def ringFrontend : Frontend :=
  UnitStore.toFrontend ⟨[ringHeader]⟩

/-- A survey that has not visited anything yet. -/
def ringSurvey : Survey where
  settings := { systemPaths := [⟨"sys"⟩] }

theorem ringFrontend_parse {path : Path} {unit : SourceUnit}
    (hparse : ringFrontend.parse path = .ok unit) : unit = ringHeader :=
  List.mem_singleton.1 (UnitStore.of_toFrontend_parse hparse).1

theorem ring_answersAlike :
    (ringSurvey.walkSetting FileTree.empty ringFrontend).AnswersAlike := by
  intro p q u v _ hp hq
  rw [ringFrontend_parse hp, ringFrontend_parse hq]
  exact ⟨rfl, rfl⟩

/-- The walk around the ring ends after both units, each taken once. -/
theorem walk_exact_ring :
    (ringSurvey.walk FileTree.empty ringFrontend ringRoot).outcome =
        .ok [{ kind := .classDecl, name := "a" }, { kind := .classDecl, name := "m" }] ∧
      ∀ key, key ∈ (ringSurvey.walk FileTree.empty ringFrontend ringRoot).survey.visited ↔
        (ringSurvey.walkSetting FileTree.empty ringFrontend).Reaches [] ringRoot key := by
  have hok : (ringSurvey.walk FileTree.empty ringFrontend ringRoot).outcome =
      .ok [{ kind := .classDecl, name := "a" }, { kind := .classDecl, name := "m" }] := by
    decide +kernel
  obtain ⟨added, _, hvisited, _, _, hreaches, _⟩ :=
    walk_exact rfl (by decide) ring_answersAlike hok
  refine ⟨hok, fun key => ?_⟩
  rw [hvisited]
  exact hreaches key

end Ring

end Survey
end HeaderBindings
