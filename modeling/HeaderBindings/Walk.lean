import HeaderBindings.Diagnostic
import HeaderBindings.Frontend

/-!
# Walking through headers

A walk goes through the headers that a unit includes, and through theirs, before
it comes to the unit's own declarations.  Each header is asked for at most once:
it is marked as visited under its *key* before it is parsed, and a visited header
or a system header is skipped.

**Input.**  A frontend, the key of every path, the paths that belong to the system,
and a stack of *open units*: units with the includes that are still to be walked.

**Measure.**  Asking for a header marks a key that no visited header had.  All
headers on the way are in a fixed list of names.  A name without a visited key
weighs one more than its unit has includes, so a header that is parsed takes more
weight off the names than it puts on the stack; in between, the includes on the
stack become fewer.

**Results.**
* `unvisitedLoad_lt`: marking a header takes its weight off the names.
* `walk_nil`, `walk_close`, `walk_skip`, `walk_fail`, `walk_enter`: one equation for
  each thing a walk does next.
-/

namespace HeaderBindings

/-- The form in which visited headers are remembered. -/
abbrev Key := List Path.Component

/-- A unit of which some includes are still to be walked. -/
structure OpenUnit where
  unit : SourceUnit
  pending : List Path

/-- A unit of which no include was walked yet. -/
def OpenUnit.start (unit : SourceUnit) : OpenUnit where
  unit := unit
  pending := unit.includes

/-- A header that could not be parsed, and why. -/
structure ParseFailure where
  path : Path
  reason : String
deriving DecidableEq

/-- What a walk did and found. -/
structure WalkResult where
  /-- The keys that are visited afterwards. -/
  visited : List Key
  /-- The headers that the frontend was asked for, in order. -/
  requests : List Path
  events : List Event
  /-- The declarations, or the header that could not be parsed. -/
  outcome : Except ParseFailure (List Decl)

/-- The circumstances of a walk, which do not change on the way. -/
structure WalkSetting where
  frontend : Frontend
  /-- The key of a header. -/
  key : Path → Key
  /-- Whether a header belongs to the system. -/
  isSystem : Path → Bool

namespace WalkSetting

section Measure

variable (setting : WalkSetting)

/-- The number of includes of the unit of a name; `0` if it cannot be parsed. -/
def includeCount (name : Path) : Nat :=
  match setting.frontend.parse name with
  | .ok unit => unit.includes.length
  | .error _ => 0

/-- The weight of a name: nothing if its key is visited. -/
def weight (visited : List Key) (name : Path) : Nat :=
  if visited.contains (setting.key name) then 0 else setting.includeCount name + 1

/-- The weight of a list of names. -/
def unvisitedLoad (names : List Path) (visited : List Key) : Nat :=
  names.foldr (fun name total => setting.weight visited name + total) 0

/-- The number of includes on a stack, and of the units themselves. -/
def load (stack : List OpenUnit) : Nat :=
  stack.foldr (fun entry total => entry.pending.length + 1 + total) 0

/-- Whether all includes on a stack are in a list of names. -/
def Covers (names : List Path) (stack : List OpenUnit) : Prop :=
  ∀ entry ∈ stack, ∀ path ∈ entry.pending, path ∈ names

theorem weight_mono (visited : List Key) (key : Key) (name : Path) :
    setting.weight (visited ++ [key]) name ≤ setting.weight visited name := by
  unfold weight
  by_cases h : setting.key name ∈ visited
  · simp [List.contains_eq_mem, h]
  · simp only [List.contains_eq_mem, h, decide_false, Bool.false_eq_true, ↓reduceIte]
    split <;> omega

theorem unvisitedLoad_mono (names : List Path) (visited : List Key) (key : Key) :
    setting.unvisitedLoad names (visited ++ [key]) ≤ setting.unvisitedLoad names visited := by
  unfold unvisitedLoad
  induction names with
  | nil => simp
  | cons name rest ih =>
      simp only [List.foldr_cons]
      exact Nat.add_le_add (setting.weight_mono visited key name) ih

theorem unvisitedLoad_lt {names : List Path} {visited : List Key} {path : Path}
    (hmem : path ∈ names) (hnew : visited.contains (setting.key path) = false) :
    setting.unvisitedLoad names (visited ++ [setting.key path]) + setting.includeCount path <
      setting.unvisitedLoad names visited := by
  induction names with
  | nil => simp at hmem
  | cons name rest ih =>
      simp only [unvisitedLoad, List.foldr_cons] at ih ⊢
      rcases List.mem_cons.1 hmem with rfl | hrest
      · have hmono := setting.unvisitedLoad_mono rest visited (setting.key path)
        have hafter : setting.weight (visited ++ [setting.key path]) path = 0 := by
          simp [weight]
        have hbefore : setting.weight visited path = setting.includeCount path + 1 := by
          rw [weight, hnew]
          rfl
        unfold unvisitedLoad at hmono
        omega
      · have hmono := setting.weight_mono visited (setting.key path) name
        have hlt := ih hrest
        omega

theorem Covers.tail {names : List Path} {entry : OpenUnit} {stack : List OpenUnit}
    (h : Covers names (entry :: stack)) : Covers names stack :=
  fun other hmem => h other (List.mem_cons_of_mem _ hmem)

theorem Covers.advance {names : List Path} {unit : SourceUnit} {path : Path}
    {pending : List Path} {stack : List OpenUnit}
    (h : Covers names (⟨unit, path :: pending⟩ :: stack)) :
    Covers names (⟨unit, pending⟩ :: stack) := by
  intro other hmem
  rcases List.mem_cons.1 hmem with rfl | hrest
  · exact fun p hp => h ⟨unit, path :: pending⟩ List.mem_cons_self p (List.mem_cons_of_mem _ hp)
  · exact h other (List.mem_cons_of_mem _ hrest)

theorem Covers.enter {names : List Path} {path : Path} {included : SourceUnit}
    {stack : List OpenUnit} (hnames : ∀ name ∈ setting.frontend.names, name ∈ names)
    (hparse : setting.frontend.parse path = .ok included) (h : Covers names stack) :
    Covers names (OpenUnit.start included :: stack) := by
  intro other hmem
  rcases List.mem_cons.1 hmem with rfl | hrest
  · exact fun p hp =>
      hnames p (setting.frontend.includes_mem_names path included hparse p hp)
  · exact h other hrest

theorem Covers.head {names : List Path} {unit : SourceUnit} {path : Path}
    {pending : List Path} {stack : List OpenUnit}
    (h : Covers names (⟨unit, path :: pending⟩ :: stack)) : path ∈ names :=
  h ⟨unit, path :: pending⟩ List.mem_cons_self path List.mem_cons_self

end Measure

section Walking

variable (setting : WalkSetting)

/-- Whether a header is not walked into: it is visited or belongs to the system. -/
def skips (visited : List Key) (path : Path) : Bool :=
  visited.contains (setting.key path) || setting.isSystem path

/-- The remark about a header that is skipped. -/
def skipRemark (path : Path) : Event :=
  .remark .debug ("Skipping " ++ path.text)

/-- Walks a stack of open units to its end or to the first header that cannot be parsed. -/
def walk (names : List Path) (hnames : ∀ name ∈ setting.frontend.names, name ∈ names)
    (visited : List Key) (stack : List OpenUnit) (hstack : Covers names stack) : WalkResult :=
  match stack with
  | [] => { visited := visited, requests := [], events := [], outcome := .ok [] }
  | ⟨unit, []⟩ :: rest =>
      let result := walk names hnames visited rest hstack.tail
      { result with outcome := result.outcome.map fun decls => unit.ownDecls ++ decls }
  | ⟨unit, path :: pending⟩ :: rest =>
      if _ : setting.skips visited path then
        let result := walk names hnames visited (⟨unit, pending⟩ :: rest) hstack.advance
        { result with events := skipRemark path :: result.events }
      else
        match hparse : setting.frontend.parse path with
        | .error reason =>
            { visited := visited ++ [setting.key path]
              requests := [path]
              events := []
              outcome := .error ⟨path, reason⟩ }
        | .ok included =>
            let result :=
              walk names hnames (visited ++ [setting.key path])
                (OpenUnit.start included :: ⟨unit, pending⟩ :: rest)
                (Covers.enter setting hnames hparse hstack.advance)
            { result with requests := path :: result.requests }
termination_by setting.unvisitedLoad names visited + load stack
decreasing_by
  · simp [load]
  · simp [load]
  · next hskip =>
      simp only [skips, Bool.or_eq_true, not_or, Bool.not_eq_true] at hskip
      have hlt := setting.unvisitedLoad_lt hstack.head hskip.1
      simp only [includeCount, hparse] at hlt
      simp only [load, OpenUnit.start, List.foldr_cons, List.length_cons]
      omega

/-- Walks a unit: the headers that it includes, then its own declarations. -/
def walkUnit (visited : List Key) (unit : SourceUnit) : WalkResult :=
  setting.walk (setting.frontend.names ++ unit.includes)
    (fun _ hmem => List.mem_append_left _ hmem) visited [OpenUnit.start unit]
    (by
      intro entry hentry path hpath
      obtain rfl := List.mem_singleton.1 hentry
      exact List.mem_append_right _ hpath)

variable {setting} {names : List Path}
  {hnames : ∀ name ∈ setting.frontend.names, name ∈ names} {visited : List Key}

theorem walk_nil (hstack : Covers names []) :
    setting.walk names hnames visited [] hstack =
      { visited := visited, requests := [], events := [], outcome := .ok [] } := by
  rw [walk]

theorem walk_close {unit : SourceUnit} {rest : List OpenUnit}
    (hstack : Covers names (⟨unit, []⟩ :: rest)) :
    setting.walk names hnames visited (⟨unit, []⟩ :: rest) hstack =
      { setting.walk names hnames visited rest hstack.tail with
        outcome :=
          (setting.walk names hnames visited rest hstack.tail).outcome.map fun decls =>
            unit.ownDecls ++ decls } := by
  rw [walk]

theorem walk_skip {unit : SourceUnit} {path : Path} {pending : List Path}
    {rest : List OpenUnit} (hstack : Covers names (⟨unit, path :: pending⟩ :: rest))
    (hskip : setting.skips visited path = true) :
    setting.walk names hnames visited (⟨unit, path :: pending⟩ :: rest) hstack =
      { setting.walk names hnames visited (⟨unit, pending⟩ :: rest) hstack.advance with
        events :=
          skipRemark path ::
            (setting.walk names hnames visited (⟨unit, pending⟩ :: rest)
              hstack.advance).events } := by
  rw [walk]
  simp [hskip]

theorem walk_fail {unit : SourceUnit} {path : Path} {pending : List Path}
    {rest : List OpenUnit} {reason : String}
    (hstack : Covers names (⟨unit, path :: pending⟩ :: rest))
    (hskip : setting.skips visited path = false)
    (hparse : setting.frontend.parse path = .error reason) :
    setting.walk names hnames visited (⟨unit, path :: pending⟩ :: rest) hstack =
      { visited := visited ++ [setting.key path]
        requests := [path]
        events := []
        outcome := .error ⟨path, reason⟩ } := by
  rw [walk]
  simp only [hskip, Bool.false_eq_true, ↓reduceDIte]
  split
  · next h =>
      rw [hparse] at h
      obtain rfl := Except.error.inj h
      rfl
  · next h =>
      rw [hparse] at h
      exact absurd h (by simp)

theorem walk_enter {unit included : SourceUnit} {path : Path} {pending : List Path}
    {rest : List OpenUnit} (hstack : Covers names (⟨unit, path :: pending⟩ :: rest))
    (hskip : setting.skips visited path = false)
    (hparse : setting.frontend.parse path = .ok included) :
    setting.walk names hnames visited (⟨unit, path :: pending⟩ :: rest) hstack =
      { setting.walk names hnames (visited ++ [setting.key path])
          (OpenUnit.start included :: ⟨unit, pending⟩ :: rest)
          (Covers.enter setting hnames hparse hstack.advance) with
        requests :=
          path ::
            (setting.walk names hnames (visited ++ [setting.key path])
              (OpenUnit.start included :: ⟨unit, pending⟩ :: rest)
              (Covers.enter setting hnames hparse hstack.advance)).requests } := by
  rw [walk]
  simp only [hskip, Bool.false_eq_true, ↓reduceDIte]
  split
  · next h =>
      rw [hparse] at h
      exact absurd h (by simp)
  · next h =>
      rw [hparse] at h
      obtain rfl := Except.ok.inj h
      rfl

end Walking

end WalkSetting
end HeaderBindings
