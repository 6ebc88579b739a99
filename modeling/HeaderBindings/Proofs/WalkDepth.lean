import HeaderBindings.Proofs.SingleParse
import Mathlib.Data.Finset.Card
import Mathlib.Data.Finset.Dedup

/-!
# How deep a walk goes

A walk is a recursion over units: for each include of a unit in turn, the walk of the
included unit, and then the own declarations of the unit.  Nothing in this recursion
becomes smaller, for the included units come from the frontend.  It ends because every
header that is entered marks a key, and there are only finitely many keys to mark.

**Recursion.**  `walkWithin` is the recursion itself, given up where units are nested
deeper than a given depth.  `walkIncludes` is its loop over the includes of one unit.

**Method.**  Where the recursion is not given up, it does what a walk of open units does
before it comes to the units below (`walk_of_walkWithin`).  The keys that are still to be
marked bound the depth: entering a header takes one of them away, and the headers that
come later in the loop find no more of them than there were before
(`exists_walkIncludes`).

**Results.**
* `exists_walkWithin`: the recursion ends.
* `Survey.walk_ends`: how deep a walk goes, and how many headers it asks for.
-/

namespace HeaderBindings
namespace WalkResult

section Sequences

/-- A walk and, if it ends well, the one that comes after it. -/
def join (first second : WalkResult) : WalkResult :=
  match first.outcome with
  | .error _ => first
  | .ok decls =>
      { visited := second.visited
        requests := first.requests ++ second.requests
        events := first.events ++ second.events
        outcome := second.outcome.map fun more => decls ++ more }

/-- The walk of the includes of a unit, followed by the own declarations of the unit. -/
def close (unit : SourceUnit) (result : WalkResult) : WalkResult :=
  { result with outcome := result.outcome.map fun decls => decls ++ unit.ownDecls }

/-- A walk before which a header was asked for. -/
def ask (path : Path) (result : WalkResult) : WalkResult :=
  { result with requests := path :: result.requests }

/-- A walk before which a header was skipped. -/
def skip (path : Path) (result : WalkResult) : WalkResult :=
  { result with events := WalkSetting.skipRemark path :: result.events }

variable {first second third : WalkResult} {decls : List Decl} {failure : ParseFailure}

theorem join_of_error (hfails : first.outcome = .error failure) :
    first.join second = first := by
  rw [join, hfails]

theorem join_of_ok (hok : first.outcome = .ok decls) :
    first.join second =
      { visited := second.visited
        requests := first.requests ++ second.requests
        events := first.events ++ second.events
        outcome := second.outcome.map fun more => decls ++ more } := by
  rw [join, hok]

/-- A unit is not closed if a header behind it cannot be parsed. -/
theorem close_of_error (hfails : first.outcome = .error failure) (unit : SourceUnit) :
    first.close unit = first := by
  cases first
  simp_all [close, Except.map]

theorem join_assoc : (first.join second).join third = first.join (second.join third) := by
  cases hfirst : first.outcome with
  | error failure => rw [join_of_error hfirst, join_of_error hfirst, join_of_error hfirst]
  | ok decls =>
      rw [join_of_ok hfirst, join_of_ok hfirst]
      cases hsecond : second.outcome with
      | error failure =>
          rw [join_of_error rfl, join_of_error hsecond]
          simp [hsecond, Except.map]
      | ok more =>
          rw [join_of_ok rfl, join_of_ok hsecond]
          cases hthird : third.outcome <;> simp [Except.map]

/-- The unit that includes two walked units is closed after the second one. -/
theorem join_close (unit : SourceUnit) :
    (first.join second).close unit = first.join (second.close unit) := by
  cases hfirst : first.outcome with
  | error failure =>
      rw [join_of_error hfirst, join_of_error hfirst, close_of_error hfirst]
  | ok decls =>
      rw [join_of_ok hfirst, join_of_ok hfirst]
      cases hsecond : second.outcome <;> simp [close, hsecond, Except.map]

theorem ask_join (path : Path) : (first.ask path).join second = (first.join second).ask path := by
  cases hfirst : first.outcome <;> simp [join, ask, hfirst]

theorem skip_join (path : Path) :
    (first.skip path).join second = (first.join second).skip path := by
  cases hfirst : first.outcome <;> simp [join, skip, hfirst]

end Sequences

end WalkResult

namespace WalkSetting

section Recursion

variable (setting : WalkSetting)

/-- Walks the includes of a unit in order; `enter` walks the unit of an include. -/
def walkIncludes (enter : List Key → SourceUnit → Option WalkResult) :
    List Key → List Path → Option WalkResult
  | visited, [] => some ⟨visited, [], [], .ok []⟩
  | visited, path :: paths =>
      if setting.skips visited path then
        (walkIncludes enter visited paths).map fun result => result.skip path
      else
        match setting.frontend.parse path with
        | .error reason =>
            some ⟨visited ++ [setting.key path], [path], [], .error ⟨path, reason⟩⟩
        | .ok included =>
            match enter (visited ++ [setting.key path]) included with
            | none => none
            | some first =>
                if first.outcome.isOk then
                  (walkIncludes enter first.visited paths).map fun second =>
                    (first.join second).ask path
                else some (first.ask path)

/-- Walks a unit by recursion; `none` if units are nested deeper than `depth`. -/
def walkWithin : Nat → List Key → SourceUnit → Option WalkResult
  | 0, _, _ => none
  | depth + 1, visited, unit =>
      (setting.walkIncludes (walkWithin depth) visited unit.includes).map fun result =>
        result.close unit

end Recursion

section Agreement

variable {setting : WalkSetting} {names : List Path}
  {hnames : ∀ name ∈ setting.frontend.names, name ∈ names}

/-- The loop over the includes of the unit on top of a stack does what the walk of the stack does
before it comes to the units below, if the recursion does so for the included units. -/
theorem walk_of_walkIncludes
    {enter : List Key → SourceUnit → Option WalkResult}
    (henter : ∀ visited unit result, enter visited unit = some result →
      ∀ rest hstack hrest,
        setting.walk names hnames visited (OpenUnit.start unit :: rest) hstack =
          result.join (setting.walk names hnames result.visited rest hrest))
    {unit : SourceUnit} {rest : List OpenUnit} (hrest : Covers names rest)
    {visited : List Key} {pending : List Path} {result : WalkResult}
    (hloop : setting.walkIncludes enter visited pending = some result)
    (hstack : Covers names (⟨unit, pending⟩ :: rest)) :
    setting.walk names hnames visited (⟨unit, pending⟩ :: rest) hstack =
      (result.close unit).join (setting.walk names hnames result.visited rest hrest) := by
  induction pending generalizing visited result with
  | nil =>
      obtain rfl := Option.some.inj hloop
      rw [walk_close]
      rfl
  | cons path pending ih =>
      unfold walkIncludes at hloop
      split at hloop
      · next hskip =>
          obtain ⟨later, hlater, rfl⟩ := Option.map_eq_some_iff.1 hloop
          rw [walk_skip hstack hskip]
          have hrun := ih hlater hstack.advance
          calc WalkResult.skip path (setting.walk names hnames visited (⟨unit, pending⟩ :: rest)
                hstack.advance)
              = ((later.close unit).join
                  (setting.walk names hnames later.visited rest hrest)).skip path := by rw [hrun]
            _ = ((later.close unit).skip path).join
                  (setting.walk names hnames later.visited rest hrest) :=
                (WalkResult.skip_join path).symm
      · next hskip =>
          rw [Bool.not_eq_true] at hskip
          split at hloop
          · next reason hparse =>
              obtain rfl := Option.some.inj hloop
              rw [walk_fail hstack hskip hparse]
              rfl
          · next included hparse =>
              split at hloop
              · cases hloop
              · next first hfirst =>
                  have hentered := henter _ _ first hfirst (⟨unit, pending⟩ :: rest)
                    (Covers.enter setting hnames hparse hstack.advance) hstack.advance
                  rw [walk_enter hstack hskip hparse, hentered]
                  change WalkResult.ask path (first.join _) = _
                  cases hout : first.outcome with
                  | error failure =>
                      rw [hout] at hloop
                      obtain rfl := Option.some.inj hloop
                      have hasked : (first.ask path).outcome = .error failure := hout
                      rw [WalkResult.join_of_error hout, WalkResult.close_of_error hasked,
                        WalkResult.join_of_error hasked]
                  | ok decls =>
                      rw [hout] at hloop
                      obtain ⟨second, hsecond, rfl⟩ := Option.map_eq_some_iff.1 hloop
                      have hvisited : ((first.join second).ask path).visited = second.visited := by
                        rw [WalkResult.join_of_ok hout]
                        rfl
                      have hclose : ((first.join second).ask path).close unit =
                          (first.join (second.close unit)).ask path := by
                        rw [← WalkResult.join_close]
                        rfl
                      rw [ih hsecond hstack.advance, hvisited, hclose, WalkResult.ask_join,
                        WalkResult.join_assoc]

/-- Where the recursion is not given up, it does what a walk does before it comes to the units
below. -/
theorem walk_of_walkWithin {depth : Nat} {visited : List Key} {unit : SourceUnit}
    {result : WalkResult} (hwithin : setting.walkWithin depth visited unit = some result)
    {rest : List OpenUnit} (hstack : Covers names (OpenUnit.start unit :: rest))
    (hrest : Covers names rest) :
    setting.walk names hnames visited (OpenUnit.start unit :: rest) hstack =
      result.join (setting.walk names hnames result.visited rest hrest) := by
  induction depth generalizing visited unit result rest with
  | zero => cases hwithin
  | succ depth ih =>
      obtain ⟨loop, hloop, rfl⟩ := Option.map_eq_some_iff.1 hwithin
      exact walk_of_walkIncludes
        (fun _ _ _ henter _ hstack hrest => ih henter hstack hrest) hrest hloop hstack

/-- Where the recursion is not given up, it is the walk of the unit. -/
theorem walkUnit_of_walkWithin {depth : Nat} {visited : List Key} {unit : SourceUnit}
    {result : WalkResult} (hwithin : setting.walkWithin depth visited unit = some result) :
    setting.walkUnit visited unit = result := by
  have hempty : Covers (setting.frontend.names ++ unit.includes) [] := by
    intro entry hentry
    cases hentry
  refine (walk_of_walkWithin hwithin _ hempty).trans ?_
  rw [walk_nil]
  cases hout : result.outcome with
  | error failure => rw [WalkResult.join_of_error hout]
  | ok decls =>
      cases result
      simp_all [WalkResult.join, Except.map]

end Agreement

section Depth

variable {setting : WalkSetting}

/-- What is visited stays visited in the recursion. -/
theorem mem_visited_of_walkWithin {depth : Nat} {visited : List Key} {unit : SourceUnit}
    {result : WalkResult} (hwithin : setting.walkWithin depth visited unit = some result)
    {key : Key} (hkey : key ∈ visited) : key ∈ result.visited := by
  rw [← walkUnit_of_walkWithin hwithin, visited_walkUnit]
  exact List.mem_append_left _ hkey

/-- The keys of those among some headers that are neither visited nor of the system. -/
def freshKeys (setting : WalkSetting) (visited : List Key) (paths : List Path) : Finset Key :=
  ((paths.filter fun path => !setting.skips visited path).map setting.key).toFinset

variable {visited : List Key} {paths : List Path}

theorem mem_freshKeys_iff {key : Key} :
    key ∈ setting.freshKeys visited paths ↔
      ∃ path ∈ paths, setting.skips visited path = false ∧ setting.key path = key := by
  simp [freshKeys, and_assoc]

theorem freshKeys_mono {later : List Key} (hkept : ∀ key ∈ visited, key ∈ later) :
    setting.freshKeys later paths ⊆ setting.freshKeys visited paths := by
  intro key hkey
  obtain ⟨path, hpath, hskip, hsame⟩ := mem_freshKeys_iff.1 hkey
  obtain ⟨hnew, hsystem⟩ := skips_eq_false_iff.1 hskip
  exact mem_freshKeys_iff.2
    ⟨path, hpath, skips_eq_false_iff.2 ⟨fun hold => hnew (hkept _ hold), hsystem⟩, hsame⟩

/-- Entering a header takes its key away. -/
theorem card_freshKeys_lt {path : Path} (hpath : path ∈ paths)
    (hskip : setting.skips visited path = false) :
    (setting.freshKeys (visited ++ [setting.key path]) paths).card <
      (setting.freshKeys visited paths).card := by
  apply Finset.card_lt_card
  refine Finset.ssubset_iff_subset_ne.2
    ⟨freshKeys_mono fun key hkey => List.mem_append_left _ hkey, fun heq => ?_⟩
  have hkey : setting.key path ∈ setting.freshKeys (visited ++ [setting.key path]) paths :=
    heq ▸ mem_freshKeys_iff.2 ⟨path, hpath, hskip, rfl⟩
  obtain ⟨other, _, hother, hsame⟩ := mem_freshKeys_iff.1 hkey
  exact (skips_eq_false_iff.1 hother).1 (by simp [hsame])

/-- The loop over includes ends if the recursion ends wherever fewer keys are fresh. -/
theorem exists_walkIncludes {depth : Nat} (hnames : ∀ path ∈ setting.frontend.names, path ∈ paths)
    (hwithin : ∀ visited unit, (∀ path ∈ unit.includes, path ∈ paths) →
      (setting.freshKeys visited paths).card < depth →
        ∃ result, setting.walkWithin depth visited unit = some result)
    {pending : List Path} (hpending : ∀ path ∈ pending, path ∈ paths)
    (hcard : (setting.freshKeys visited paths).card < depth + 1) :
    ∃ result, setting.walkIncludes (setting.walkWithin depth) visited pending = some result := by
  induction pending generalizing visited with
  | nil => exact ⟨_, rfl⟩
  | cons path pending ih =>
      have hlater : ∀ path ∈ pending, path ∈ paths :=
        fun other hother => hpending other (List.mem_cons_of_mem _ hother)
      unfold walkIncludes
      split
      · obtain ⟨result, hresult⟩ := ih hlater hcard
        exact ⟨result.skip path, by rw [hresult, Option.map_some]⟩
      · next hskip =>
          rw [Bool.not_eq_true] at hskip
          have hfewer := card_freshKeys_lt (hpending path List.mem_cons_self) hskip
          split
          · exact ⟨_, rfl⟩
          · next included hparse =>
              have hincludes : ∀ other ∈ included.includes, other ∈ paths := fun other hother =>
                hnames other (setting.frontend.includes_mem_names path included hparse other hother)
              obtain ⟨first, hfirst⟩ := hwithin (visited ++ [setting.key path]) included
                hincludes (by omega)
              rw [hfirst]
              simp only
              split
              · -- The headers that come later find no more fresh keys than this one.
                have hkept : setting.freshKeys first.visited paths ⊆
                    setting.freshKeys visited paths :=
                  freshKeys_mono fun key hkey =>
                    mem_visited_of_walkWithin hfirst (List.mem_append_left _ hkey)
                obtain ⟨second, hsecond⟩ := ih hlater
                  (Nat.lt_of_le_of_lt (Finset.card_le_card hkept) hcard)
                exact ⟨(first.join second).ask path, by rw [hsecond, Option.map_some]⟩
              · exact ⟨_, rfl⟩

/-- The recursion ends: it goes no deeper than there are fresh keys. -/
theorem exists_walkWithin (hnames : ∀ path ∈ setting.frontend.names, path ∈ paths) (depth : Nat)
    (visited : List Key) (unit : SourceUnit) (hunit : ∀ path ∈ unit.includes, path ∈ paths)
    (hcard : (setting.freshKeys visited paths).card < depth) :
    ∃ result, setting.walkWithin depth visited unit = some result := by
  induction depth generalizing visited unit with
  | zero => exact absurd hcard (Nat.not_lt_zero _)
  | succ depth ih =>
      obtain ⟨result, hresult⟩ := exists_walkIncludes hnames ih hunit hcard
      exact ⟨result.close unit, by rw [walkWithin, hresult, Option.map_some]⟩

/-- The headers that a walk from `root` asks for have fresh keys. -/
theorem length_requests_le {root : SourceUnit} (hroot : ∀ path ∈ root.includes, path ∈ paths)
    (hnames : ∀ path ∈ setting.frontend.names, path ∈ paths) :
    (setting.walkUnit (visited ++ [setting.key root.path]) root).requests.length ≤
      (setting.freshKeys visited paths).card := by
  let result := setting.walkUnit (visited ++ [setting.key root.path]) root
  obtain ⟨hnodup, hspec⟩ :=
    setting.walkUnit_requests_spec (visited ++ [setting.key root.path]) root
  have hfresh : (result.requests.map setting.key).toFinset ⊆ setting.freshKeys visited paths := by
    intro key hkey
    obtain ⟨path, hpath, rfl⟩ := List.mem_map.1 (List.mem_toFinset.1 hkey)
    obtain ⟨hsystem, hnew⟩ := hspec path hpath
    have hskip : setting.skips visited path = false :=
      skips_eq_false_iff.2 ⟨fun hold => hnew (List.mem_append_left _ hold), hsystem⟩
    -- What is asked for is included by the root or by a unit of the frontend.
    obtain ⟨key, unit, -, hunit, hmem⟩ := walkUnit_requests_offered visited root path hpath
    refine mem_freshKeys_iff.2 ⟨path, ?_, hskip, rfl⟩
    unfold UnitAt at hunit
    split at hunit
    · exact hroot path (hunit ▸ hmem)
    · obtain ⟨asked, -, hparse⟩ := hunit
      exact hnames path (setting.frontend.includes_mem_names asked unit hparse path hmem)
  calc result.requests.length
      = (result.requests.map setting.key).toFinset.card := by
        rw [List.toFinset_card_of_nodup hnodup, List.length_map]
    _ ≤ (setting.freshKeys visited paths).card := Finset.card_le_card hfresh

end Depth

end WalkSetting

namespace Survey

/-- The walk of a unit by recursion; `none` if units are nested deeper than `depth`. -/
def walkWithin (survey : Survey) (tree : FileTree) (frontend : Frontend) (depth : Nat)
    (unit : SourceUnit) : Option (Step (List Decl)) :=
  if survey.settings.isRecursive then
    if survey.isVisited tree unit.path then
      some
        { survey := survey
          events := [.remark .debug (unit.path.text ++ " already walked")]
          outcome := .ok [] }
    else
      let setting := survey.walkSetting tree frontend
      (setting.walkWithin depth (survey.visited ++ [setting.key unit.path]) unit).map
        fun result =>
          { survey :=
              { survey with
                visited := result.visited
                walked := survey.walked ++ result.outcome.toOption.getD [] }
            requests := result.requests
            events := result.events
            outcome := result.outcome }
  else
    some
      { survey := survey.markVisited tree unit.path
        outcome := .ok unit.decls }

/-- **Every walk ends.**  Take the headers that the root or some unit of the store includes, and
among their keys the fresh ones: those that are neither visited before the walk nor of the
system.  Whatever includes what, the recursion goes at most one level deeper than there are
fresh keys, and a walk asks for at most as many headers as there are fresh keys. -/
theorem walk_ends (survey : Survey) (tree : FileTree) (store : UnitStore) (root : SourceUnit) :
    let frontend := store.toFrontend
    let fresh := (survey.walkSetting tree frontend).freshKeys survey.visited
      (root.includes ++ store.units.flatMap SourceUnit.includes)
    (∀ depth, fresh.card < depth →
        survey.walkWithin tree frontend depth root = some (survey.walk tree frontend root)) ∧
      (survey.walk tree frontend root).requests.length ≤ fresh.card := by
  intro frontend fresh
  let setting := survey.walkSetting tree frontend
  have hroot : ∀ path ∈ root.includes,
      path ∈ root.includes ++ store.units.flatMap SourceUnit.includes :=
    fun path hpath => List.mem_append_left _ hpath
  have hnames : ∀ path ∈ setting.frontend.names,
      path ∈ root.includes ++ store.units.flatMap SourceUnit.includes :=
    fun path hpath => List.mem_append_right _ hpath
  cases hrecursive : survey.settings.isRecursive with
  | false => simp [walkWithin, walk, hrecursive]
  | true =>
      cases hvisited : survey.isVisited tree root.path with
      | true => simp [walkWithin, walk, hrecursive, hvisited]
      | false =>
          have hwalk := walk_eq_of_new hrecursive hvisited frontend
          constructor
          · intro depth hdepth
            have hfewer : setting.freshKeys (survey.visited ++ [setting.key root.path]) _ ⊆ fresh :=
              WalkSetting.freshKeys_mono fun key hkey => List.mem_append_left _ hkey
            obtain ⟨result, hresult⟩ := WalkSetting.exists_walkWithin hnames depth
              (survey.visited ++ [setting.key root.path]) root hroot
              (Nat.lt_of_le_of_lt (Finset.card_le_card hfewer) hdepth)
            rw [hwalk]
            simp only [walkWithin, hrecursive, hvisited, if_true, Bool.false_eq_true, if_false]
            rw [hresult, Option.map_some, WalkSetting.walkUnit_of_walkWithin hresult]
          · rw [hwalk]
            exact WalkSetting.length_requests_le hroot hnames

end Survey
end HeaderBindings
