import HeaderBindings.Proofs.Calls
import HeaderBindings.Proofs.WalkReach
import Mathlib.Data.List.Nodup

/-!
# Walks that share what they visited

Several headers can be walked one after the other, each walk passing over what was
visited before.  All that is visited in the end is *closed*: with a header it holds
every header that can be reached from it, and what was walked are the own
declarations of the visited units, each unit once.

**Frontends.**  A frontend is *keyed* if its answers depend on the keys of headers
only, and a unit answers for the key of its own path only.  A frontend that looks its
units up by key is keyed.

**Results.**
* `Closed.walk`: a walk that ends well keeps what is visited closed.
* `Closed.exists_walk`: a header that is visited in a closed list can be walked on its own.
* `Closed.filter_eq`: declarations that stand in one visited unit are found as they
  stand there, however many other units were walked.
* `Survey.declsOf_congr`: only the keys of headers matter to a walk.
* `keyedFrontend_keyed`: a frontend that is keyed.
-/

namespace HeaderBindings
namespace WalkSetting

section Keyed

/-- The answers of the frontend depend on keys only, and a unit answers for the key of its own
path. -/
structure Keyed (setting : WalkSetting) : Prop where
  answers : ∀ p q, setting.key p = setting.key q →
    setting.frontend.parse p = setting.frontend.parse q
  own : ∀ p unit, setting.frontend.parse p = .ok unit → setting.key unit.path = setting.key p

/-- Whether a unit is the answer for a key. -/
def Holds (setting : WalkSetting) (key : Key) (unit : SourceUnit) : Prop :=
  ∃ path, setting.key path = key ∧ setting.frontend.parse path = .ok unit

/-- The keys of the units on a stack. -/
def stackKeys (setting : WalkSetting) (stack : List OpenUnit) : List Key :=
  stack.map fun entry => setting.key entry.unit.path

variable {setting : WalkSetting} {key : Key} {header path : Path} {root unit other : SourceUnit}

theorem Keyed.parse_of_holds (hkeyed : setting.Keyed)
    (hholds : setting.Holds (setting.key path) unit) : setting.frontend.parse path = .ok unit := by
  obtain ⟨asked, hkey, hparse⟩ := hholds
  rw [← hparse]
  exact hkeyed.answers path asked hkey.symm

theorem Keyed.eq_of_holds (hkeyed : setting.Keyed) (hunit : setting.Holds key unit)
    (hother : setting.Holds key other) : other = unit := by
  obtain ⟨asked, rfl, hparse⟩ := hunit
  have hsame := hkeyed.parse_of_holds hother
  rw [hparse] at hsame
  exact (Except.ok.inj hsame).symm

theorem Keyed.holds_root (hkeyed : setting.Keyed)
    (hparse : setting.frontend.parse header = .ok root) :
    setting.Holds (setting.key root.path) root :=
  ⟨header, (hkeyed.own header root hparse).symm, hparse⟩

theorem Keyed.holds_of_unitAt (hkeyed : setting.Keyed)
    (hparse : setting.frontend.parse header = .ok root)
    (hunit : setting.UnitAt root key unit) : setting.Holds key unit := by
  unfold UnitAt at hunit
  split at hunit
  · next hroot =>
      subst hroot
      rw [hunit]
      exact hkeyed.holds_root hparse
  · exact hunit

end Keyed

section Closed

/-- What is visited is closed under includes, and what was walked are the own declarations of
its units, each unit once. -/
structure Closed (setting : WalkSetting) (visited : List Key) (walked : List Decl) : Prop where
  nodup : visited.Nodup
  includes_settled : ∀ key ∈ visited, ∀ unit, setting.Holds key unit →
    ∀ path ∈ unit.includes, setting.Settled visited path
  walked_eq : ∃ order : List (Key × SourceUnit),
    (order.map Prod.fst).Perm visited ∧
      (∀ entry ∈ order, setting.Holds entry.1 entry.2) ∧
        walked = order.flatMap fun entry => entry.2.ownDecls

theorem closed_nil (setting : WalkSetting) : setting.Closed [] [] where
  nodup := List.nodup_nil
  includes_settled := by simp
  walked_eq := ⟨[], by simp, by simp, rfl⟩

variable {setting : WalkSetting} {visited : List Key} {walked decls : List Decl}
  {header : Path} {root : SourceUnit}

theorem Closed.exists_holds (hclosed : setting.Closed visited walked) {key : Key}
    (hkey : key ∈ visited) : ∃ unit, setting.Holds key unit := by
  obtain ⟨order, hperm, hholds, _⟩ := hclosed.walked_eq
  obtain ⟨entry, hentry, rfl⟩ := List.mem_map.1 (hperm.symm.subset hkey)
  exact ⟨entry.2, hholds entry hentry⟩

theorem Settled.append {path : Path} (hsettled : setting.Settled visited path)
    (more : List Key) : setting.Settled (visited ++ more) path :=
  hsettled.imp_right fun hkey => List.mem_append_left more hkey

/-- A walk that ends well keeps what is visited closed. -/
theorem Closed.walk (hkeyed : setting.Keyed) (hclosed : setting.Closed visited walked)
    (hparse : setting.frontend.parse header = .ok root)
    (hnew : setting.key root.path ∉ visited)
    (hok : (setting.walkUnit (visited ++ [setting.key root.path]) root).outcome = .ok decls) :
    setting.Closed (setting.walkUnit (visited ++ [setting.key root.path]) root).visited
        (walked ++ decls) ∧
      setting.key root.path ∈
        (setting.walkUnit (visited ++ [setting.key root.path]) root).visited := by
  obtain ⟨entered, account⟩ := exists_walkUnit_account hok
  obtain ⟨newer, hkeys, hunits, hdecls⟩ := exists_unit_order account
  obtain ⟨older, hperm, hholds, hwalked⟩ := hclosed.walked_eq
  have hvisited : (setting.walkUnit (visited ++ [setting.key root.path]) root).visited =
      visited ++ setting.addedKeys root entered := by
    rw [account.visited_eq, addedKeys, List.append_assoc]
    rfl
  have hfresh : ∀ key ∈ setting.addedKeys root entered, key ∉ visited := by
    intro key hkey
    rcases List.mem_cons.1 hkey with rfl | hentered
    · exact hnew
    · obtain ⟨entry, hentry, rfl⟩ := List.mem_map.1 hentered
      exact (reaches_of_entered account hentry).2.1
  refine ⟨⟨?_, ?_, older ++ newer, ?_, ?_, ?_⟩, ?_⟩
  · rw [hvisited, List.nodup_append]
    refine ⟨hclosed.nodup, nodup_addedKeys account, ?_⟩
    rintro key hold _ hadded rfl
    exact hfresh key hadded hold
  · intro key hkey unit hunit path hpath
    have hcases := hkey
    rw [hvisited, List.mem_append] at hcases
    rcases hcases with hold | hadded
    · rw [hvisited]
      exact (hclosed.includes_settled key hold unit hunit path hpath).append _
    · rcases List.mem_cons.1 hadded with rfl | hentered
      · obtain rfl := hkeyed.eq_of_holds (hkeyed.holds_root hparse) hunit
        exact account.pending_settled _ List.mem_cons_self path hpath
      · obtain ⟨entry, hentry, rfl⟩ := List.mem_map.1 hentered
        have hparsed := account.parsed entry hentry
        obtain rfl := hkeyed.eq_of_holds ⟨entry.1, rfl, hparsed⟩ hunit
        exact account.includes_settled entry hentry path hpath
  · rw [hvisited, List.map_append]
    exact hperm.append hkeys
  · intro entry hentry
    rcases List.mem_append.1 hentry with hold | hadded
    · exact hholds entry hold
    · exact hkeyed.holds_of_unitAt hparse (hunits entry hadded)
  · rw [hwalked, hdecls, List.flatMap_append]
  · rw [hvisited]
    simp [addedKeys]

/-- A closed list holds everything that can be reached from one of its headers. -/
theorem Closed.mem_of_reaches (hkeyed : setting.Keyed) (hclosed : setting.Closed visited walked)
    (hparse : setting.frontend.parse header = .ok root)
    (hroot : setting.key root.path ∈ visited) {before : List Key} {key : Key}
    (hreaches : setting.Reaches before root key) : key ∈ visited := by
  induction hreaches with
  | root => exact hroot
  | step _ hunit hpath hsystem _ ih =>
      have hholds := hkeyed.holds_of_unitAt hparse hunit
      rcases hclosed.includes_settled _ ih _ hholds _ hpath with hsettled | hvisited
      · simp [hsystem] at hsettled
      · exact hvisited

/-- Whoever walks only what is in a closed list meets no header that can not be parsed. -/
theorem Closed.exists_walk_ok (hkeyed : setting.Keyed) (hclosed : setting.Closed visited walked)
    {names : List Path} {hnames : ∀ name ∈ setting.frontend.names, name ∈ names}
    (before : List Key) (stack : List OpenUnit) (hstack : Covers names stack)
    (hpending : ∀ entry ∈ stack, ∀ path ∈ entry.pending, setting.Settled visited path) :
    ∃ decls, (setting.walk names hnames before stack hstack).outcome = .ok decls := by
  revert hpending
  refine walk_induction (motive := fun _ stack result =>
    (∀ entry ∈ stack, ∀ path ∈ entry.pending, setting.Settled visited path) →
      ∃ decls, result.outcome = .ok decls) ?_ ?_ ?_ ?_ ?_ before stack hstack
  · intro before _
    exact ⟨[], rfl⟩
  · intro before unit rest result ih hpending
    obtain ⟨decls, hdecls⟩ := ih fun entry hentry =>
      hpending entry (List.mem_cons_of_mem _ hentry)
    exact ⟨unit.ownDecls ++ decls, by simp [hdecls, Except.map]⟩
  · intro before unit path pending rest result _ ih hpending
    refine ih fun entry hentry asked hasked => ?_
    rcases List.mem_cons.1 hentry with rfl | hrest
    · exact hpending _ List.mem_cons_self asked (List.mem_cons_of_mem _ hasked)
    · exact hpending entry (List.mem_cons_of_mem _ hrest) asked hasked
  · intro before unit path pending rest reason hskip hparse hpending
    obtain ⟨_, hsystem⟩ := skips_eq_false_iff.1 hskip
    rcases hpending _ List.mem_cons_self path List.mem_cons_self with hsettled | hvisited
    · simp [hsystem] at hsettled
    · obtain ⟨known, hknown⟩ := hclosed.exists_holds hvisited
      simp [hkeyed.parse_of_holds hknown] at hparse
  · intro before unit path pending rest included result hskip hparse ih hpending
    obtain ⟨_, hsystem⟩ := skips_eq_false_iff.1 hskip
    refine ih fun entry hentry asked hasked => ?_
    rcases List.mem_cons.1 hentry with rfl | hentry
    · rcases hpending _ List.mem_cons_self path List.mem_cons_self with hsettled | hvisited
      · simp [hsystem] at hsettled
      · exact hclosed.includes_settled _ hvisited included ⟨path, rfl, hparse⟩ asked hasked
    rcases List.mem_cons.1 hentry with rfl | hrest
    · exact hpending _ List.mem_cons_self asked (List.mem_cons_of_mem _ hasked)
    · exact hpending entry (List.mem_cons_of_mem _ hrest) asked hasked

/-- A header that is visited in a closed list can be walked on its own. -/
theorem Closed.exists_walk (hkeyed : setting.Keyed) (hclosed : setting.Closed visited walked)
    (hparse : setting.frontend.parse header = .ok root)
    (hroot : setting.key root.path ∈ visited) (before : List Key) :
    ∃ decls, (setting.walkUnit before root).outcome = .ok decls := by
  refine hclosed.exists_walk_ok hkeyed before _ _ ?_
  intro entry hentry path hpath
  obtain rfl := List.mem_singleton.1 hentry
  exact hclosed.includes_settled _ hroot root (hkeyed.holds_root hparse) path hpath

/-- Declarations of no unit are not found. -/
theorem Closed.filter_eq_nil (hclosed : setting.Closed visited walked) {test : Decl → Bool}
    (hnone : ∀ key unit, setting.Holds key unit → ∀ decl ∈ unit.ownDecls, test decl = false) :
    walked.filter test = [] := by
  obtain ⟨order, _, hholds, rfl⟩ := hclosed.walked_eq
  rw [List.filter_eq_nil_iff]
  intro decl hdecl
  obtain ⟨entry, hentry, hown⟩ := List.mem_flatMap.1 hdecl
  simp [hnone entry.1 entry.2 (hholds entry hentry) decl hown]

/-- Declarations that stand in one visited unit are found as they stand there. -/
theorem Closed.filter_eq (hkeyed : setting.Keyed) (hclosed : setting.Closed visited walked)
    {test : Decl → Bool} {home : Key} {unit : SourceUnit} (hhome : setting.Holds home unit)
    (hvisited : home ∈ visited)
    (honly : ∀ key other, setting.Holds key other → ∀ decl ∈ other.ownDecls,
      test decl = true → key = home) :
    walked.filter test = unit.ownDecls.filter test := by
  obtain ⟨order, hperm, hholds, rfl⟩ := hclosed.walked_eq
  obtain ⟨⟨key, found⟩, hentry, rfl⟩ := List.mem_map.1 (hperm.symm.subset hvisited)
  obtain rfl := hkeyed.eq_of_holds hhome (hholds _ hentry)
  obtain ⟨before, after, rfl⟩ := List.append_of_mem hentry
  have hnodup := hperm.nodup_iff.2 hclosed.nodup
  rw [List.map_append, List.map_cons, List.nodup_middle, List.nodup_cons] at hnodup
  have hothers : ∀ part : List (Key × SourceUnit),
      (∀ entry ∈ part, entry ∈ before ++ after) →
        (part.flatMap fun entry => entry.2.ownDecls).filter test = [] := by
    intro part hpart
    rw [List.filter_eq_nil_iff]
    intro decl hdecl htest
    obtain ⟨entry, hmem, hown⟩ := List.mem_flatMap.1 hdecl
    have hin := hpart entry hmem
    have hkey : entry.1 = key := by
      refine honly entry.1 entry.2 (hholds entry ?_) decl hown htest
      rcases List.mem_append.1 hin with hbefore | hafter
      · exact List.mem_append_left _ hbefore
      · exact List.mem_append_right _ (List.mem_cons_of_mem _ hafter)
    apply hnodup.1
    rw [← List.map_append]
    exact List.mem_map.2 ⟨entry, hin, hkey⟩
  rw [List.flatMap_append, List.flatMap_cons, List.filter_append, List.filter_append,
    hothers before fun entry => List.mem_append_left _,
    hothers after fun entry => List.mem_append_right _, List.nil_append, List.append_nil]

end Closed

section Keys

/-- Only the keys of the headers that come up matter to a walk. -/
theorem walk_withKey (setting : WalkSetting) (key : Path → Key) {names : List Path}
    {hnames : ∀ name ∈ setting.frontend.names, name ∈ names}
    (hincludes : ∀ asked unit, setting.frontend.parse asked = .ok unit →
      ∀ path ∈ unit.includes, key path = setting.key path)
    (visited : List Key) (stack : List OpenUnit) (hstack : Covers names stack)
    (hpending : ∀ entry ∈ stack, ∀ path ∈ entry.pending, key path = setting.key path) :
    WalkSetting.walk { setting with key := key } names hnames visited stack hstack =
      setting.walk names hnames visited stack hstack := by
  have hadvance : ∀ {unit : SourceUnit} {path : Path} {pending : List Path}
      {rest : List OpenUnit},
      (∀ entry ∈ (⟨unit, path :: pending⟩ : OpenUnit) :: rest,
        ∀ path ∈ entry.pending, key path = setting.key path) →
      ∀ entry ∈ (⟨unit, pending⟩ : OpenUnit) :: rest,
        ∀ path ∈ entry.pending, key path = setting.key path := by
    intro unit path pending rest hpending entry hentry asked hasked
    rcases List.mem_cons.1 hentry with rfl | hrest
    · exact hpending _ List.mem_cons_self asked (List.mem_cons_of_mem _ hasked)
    · exact hpending entry (List.mem_cons_of_mem _ hrest) asked hasked
  have hskips : ∀ (visited : List Key) {path : Path}, key path = setting.key path →
      WalkSetting.skips { setting with key := key } visited path =
        setting.skips visited path := by
    intro visited path hkey
    simp only [skips, hkey]
  induction visited, stack, hstack using walk.induct setting names hnames with
  | case1 visited hstack => rw [walk_nil, walk_nil]
  | case2 visited unit rest hstack _ ih =>
      rw [walk_close, walk_close,
        ih fun entry hentry => hpending entry (List.mem_cons_of_mem _ hentry)]
  | case3 visited unit path pending rest hstack hskip _ ih =>
      have hkey := hpending _ List.mem_cons_self path List.mem_cons_self
      rw [walk_skip hstack hskip, walk_skip hstack ((hskips visited hkey).trans hskip),
        ih (hadvance hpending)]
  | case4 visited unit path pending rest hstack hskip reason hparse =>
      have hkey := hpending _ List.mem_cons_self path List.mem_cons_self
      rw [Bool.not_eq_true] at hskip
      rw [walk_fail hstack hskip hparse,
        walk_fail hstack ((hskips visited hkey).trans hskip) hparse]
      simp only [hkey]
  | case5 visited unit path pending rest hstack hskip included hparse _ ih =>
      have hkey := hpending _ List.mem_cons_self path List.mem_cons_self
      rw [Bool.not_eq_true] at hskip
      have hentered : ∀ entry ∈ OpenUnit.start included :: ⟨unit, pending⟩ :: rest,
          ∀ path ∈ entry.pending, key path = setting.key path := by
        intro entry hentry
        rcases List.mem_cons.1 hentry with rfl | hlater
        · exact hincludes path included hparse
        · exact hadvance hpending entry hlater
      rw [walk_enter hstack hskip hparse,
        walk_enter hstack ((hskips visited hkey).trans hskip) hparse]
      simp only [hkey, ih hentered]

/-- Only the keys of the headers that come up matter to the walk of a unit. -/
theorem walkUnit_withKey (setting : WalkSetting) (key : Path → Key)
    (hincludes : ∀ asked unit, setting.frontend.parse asked = .ok unit →
      ∀ path ∈ unit.includes, key path = setting.key path)
    (visited : List Key) {header : Path} {root : SourceUnit}
    (hparse : setting.frontend.parse header = .ok root) :
    WalkSetting.walkUnit { setting with key := key } visited root =
      setting.walkUnit visited root := by
  refine setting.walk_withKey key hincludes visited _ _ ?_
  intro entry hentry
  obtain rfl := List.mem_singleton.1 hentry
  exact hincludes header root hparse

end Keys

end WalkSetting

namespace Survey

section Trees

/-- Whether the headers that a frontend deals with have the same keys in two trees. -/
def SameKeys (frontend : Frontend) (first second : FileTree) : Prop :=
  ∀ asked unit, frontend.parse asked = .ok unit →
    ∀ path, path = unit.path ∨ path ∈ unit.includes →
      visitKey second path = visitKey first path

variable {frontend : Frontend} {first second : FileTree} {header : Path} {root : SourceUnit}

theorem walk_congr (survey : Survey) (hkeys : SameKeys frontend first second)
    (hparse : frontend.parse header = .ok root) :
    survey.walk second frontend root = survey.walk first frontend root := by
  have hroot := hkeys header root hparse root.path (Or.inl rfl)
  have hmarked : survey.markVisited second root.path = survey.markVisited first root.path := by
    simp [markVisited, hroot]
  have hunit : ∀ visited,
      ((survey.markVisited first root.path).walkSetting second frontend).walkUnit visited root =
        ((survey.markVisited first root.path).walkSetting first frontend).walkUnit
          visited root := by
    intro visited
    refine WalkSetting.walkUnit_withKey
      ((survey.markVisited first root.path).walkSetting first frontend) _ ?_ visited hparse
    intro asked unit hasked path hpath
    simp only [walkSetting]
    rw [hkeys asked unit hasked path (Or.inr hpath)]
  have hvisited : survey.isVisited second root.path = survey.isVisited first root.path := by
    simp only [isVisited, hroot]
  unfold walk
  rw [hvisited, hmarked]
  simp only [hunit]

/-- Only the keys of headers matter to a walk. -/
theorem declsOf_congr (survey : Survey) (hkeys : SameKeys frontend first second)
    (hheader : visitKey second header = visitKey first header) :
    survey.declsOf second frontend header = survey.declsOf first frontend header := by
  have hwalk : survey.parseAndWalk second frontend header =
      survey.parseAndWalk first frontend header := by
    unfold parseAndWalk
    split
    · rfl
    · next root hparse => rw [survey.walk_congr hkeys hparse]
  have hvisited : survey.isVisited second header = survey.isVisited first header := by
    simp only [isVisited, hheader]
  unfold declsOf
  rw [hvisited, hwalk]

/-- Only the keys of headers matter to an extraction. -/
theorem extract_congr (survey : Survey) (hkeys : SameKeys frontend first second)
    (hheader : visitKey second header = visitKey first header) (selections : List Selection) :
    survey.extract second frontend header selections =
      survey.extract first frontend header selections := by
  simp only [extract, survey.declsOf_congr hkeys hheader]

end Trees

section Headers

variable {survey : Survey} {tree : FileTree} {frontend : Frontend} {header : Path}

/-- A header that is not visited is walked with its unit. -/
theorem declsOf_of_new (hrecursive : survey.settings.isRecursive = true)
    (hkeyed : (survey.walkSetting tree frontend).Keyed) {root : SourceUnit}
    (hparse : frontend.parse header = .ok root)
    (hnew : survey.isVisited tree header = false) :
    let setting := survey.walkSetting tree frontend
    let result := setting.walkUnit (survey.visited ++ [setting.key root.path]) root
    setting.key root.path ∉ survey.visited ∧
      (survey.declsOf tree frontend header).survey =
          { survey with
            visited := result.visited
            walked := survey.walked ++ result.outcome.toOption.getD [] } ∧
        ((survey.declsOf tree frontend header).outcome.isOk = result.outcome.isOk) := by
  intro setting result
  have hown : setting.key root.path = setting.key header := hkeyed.own header root hparse
  have hnewRoot : survey.isVisited tree root.path = false := by
    change survey.visited.contains (setting.key root.path) = false
    rw [hown]
    exact hnew
  have hwalk := walk_eq_of_new hrecursive hnewRoot frontend
  simp only at hwalk
  refine ⟨by simpa [isVisited, setting, walkSetting] using hnewRoot, ?_, ?_⟩
  · simp only [declsOf, hrecursive, hnew, parseAndWalk, hparse, hwalk]
    rfl
  · simp only [declsOf, hrecursive, hnew, parseAndWalk, hparse, hwalk]
    change (Except.map _ result.outcome).isOk = result.outcome.isOk
    cases result.outcome <;> rfl

/-- A header that is looked for successfully is visited afterwards, and what is visited stays
closed. -/
theorem declsOf_closed {decls : List Decl} (hrecursive : survey.settings.isRecursive = true)
    (hkeyed : (survey.walkSetting tree frontend).Keyed)
    (hclosed : (survey.walkSetting tree frontend).Closed survey.visited survey.walked)
    (hok : (survey.declsOf tree frontend header).outcome = .ok decls) :
    (survey.walkSetting tree frontend).Closed
        (survey.declsOf tree frontend header).survey.visited
        (survey.declsOf tree frontend header).survey.walked ∧
      ∃ root, frontend.parse header = .ok root ∧
        (visitKey tree root.path).components ∈
          (survey.declsOf tree frontend header).survey.visited := by
  cases hvisited : survey.isVisited tree header with
  | true =>
      have hkey : (visitKey tree header).components ∈ survey.visited := by
        simpa [isVisited] using hvisited
      have hsame : (survey.declsOf tree frontend header).survey = survey := by
        simp [declsOf, hrecursive, hvisited]
      obtain ⟨root, hholds⟩ := hclosed.exists_holds hkey
      have hparse : frontend.parse header = .ok root := hkeyed.parse_of_holds hholds
      have hown : (visitKey tree root.path).components = (visitKey tree header).components :=
        hkeyed.own header root hparse
      rw [hsame]
      exact ⟨hclosed, root, hparse, hown ▸ hkey⟩
  | false =>
      cases hparse : frontend.parse header with
      | error reason =>
          simp [declsOf, hrecursive, hvisited, parseAndWalk, hparse, Except.map] at hok
      | ok root =>
          obtain ⟨hkey, hsurvey, hout⟩ := declsOf_of_new hrecursive hkeyed hparse hvisited
          cases hresult : ((survey.walkSetting tree frontend).walkUnit
              (survey.visited ++ [(survey.walkSetting tree frontend).key root.path])
              root).outcome with
          | error failure =>
              rw [hok, hresult] at hout
              simp [Except.isOk, Except.toBool] at hout
          | ok found =>
              obtain ⟨hafter, hroot⟩ := hclosed.walk hkeyed hparse hkey hresult
              rw [hsurvey, hresult]
              exact ⟨hafter, root, rfl, hroot⟩

/-- A header that is visited in a closed list can be looked for by everyone. -/
theorem exists_declsOf {visited : List Key} {walked : List Decl} {root : SourceUnit}
    (hrecursive : survey.settings.isRecursive = true)
    (hkeyed : (survey.walkSetting tree frontend).Keyed)
    (hclosed : (survey.walkSetting tree frontend).Closed visited walked)
    (hparse : frontend.parse header = .ok root)
    (hroot : (visitKey tree root.path).components ∈ visited) :
    ∃ decls, (survey.declsOf tree frontend header).outcome = .ok decls := by
  cases hvisited : survey.isVisited tree header with
  | true => exact ⟨survey.walked, by simp [declsOf, hrecursive, hvisited]⟩
  | false =>
      obtain ⟨_, _, hout⟩ := declsOf_of_new hrecursive hkeyed hparse hvisited
      obtain ⟨found, hfound⟩ := hclosed.exists_walk hkeyed hparse hroot
        (survey.visited ++ [(survey.walkSetting tree frontend).key root.path])
      rw [hfound] at hout
      cases hdecls : (survey.declsOf tree frontend header).outcome with
      | error failure =>
          rw [hdecls] at hout
          simp [Except.isOk, Except.toBool] at hout
      | ok decls => exact ⟨decls, rfl⟩

end Headers

end Survey

section Frontends

variable {tree : FileTree} {units : List SourceUnit}

/-- A frontend that looks its units up by key. -/
def keyedFrontend (tree : FileTree) (units : List SourceUnit) : Frontend where
  parse path :=
    match units.find? fun unit =>
        (visitKey tree unit.path).components = (visitKey tree path).components with
    | some unit => .ok unit
    | none => .error UnitStore.missingUnit
  names := units.flatMap SourceUnit.includes
  includes_mem_names := by
    intro path unit hparse included hincluded
    split at hparse
    · next found hfound =>
        obtain rfl := Except.ok.inj hparse
        exact List.mem_flatMap.2 ⟨found, List.mem_of_find?_eq_some hfound, hincluded⟩
    · simp at hparse

theorem keyedFrontend_parse {path : Path} {unit : SourceUnit}
    (hparse : (keyedFrontend tree units).parse path = .ok unit) :
    unit ∈ units ∧ (visitKey tree unit.path).components = (visitKey tree path).components := by
  simp only [keyedFrontend] at hparse
  split at hparse
  · next found hfound =>
      obtain rfl := Except.ok.inj hparse
      exact ⟨List.mem_of_find?_eq_some hfound, by simpa using List.find?_some hfound⟩
  · simp at hparse

theorem keyedFrontend_keyed (survey : Survey) :
    (survey.walkSetting tree (keyedFrontend tree units)).Keyed where
  answers := by
    intro p q hkey
    change (visitKey tree p).components = (visitKey tree q).components at hkey
    simp only [Survey.walkSetting, keyedFrontend, hkey]
  own := fun _ _ hparse => (keyedFrontend_parse hparse).2

theorem keyedFrontend_sameKeys {other : FileTree}
    (hkeys : ∀ unit ∈ units, ∀ path ∈ unit.path :: unit.includes,
      visitKey other path = visitKey tree path) :
    Survey.SameKeys (keyedFrontend tree units) tree other := by
  intro asked unit hparse path hpath
  refine hkeys unit (keyedFrontend_parse hparse).1 path ?_
  rcases hpath with rfl | hincluded
  · exact List.mem_cons_self
  · exact List.mem_cons_of_mem _ hincluded

end Frontends

end HeaderBindings
