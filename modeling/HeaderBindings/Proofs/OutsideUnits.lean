import HeaderBindings.Proofs.VisitKeys
import HeaderBindings.Proofs.WalkClosure
import Mathlib.Data.List.Find

/-!
# Units that are not in the tree

A store finds its units by the components of their paths, while a walk remembers headers by
their keys.  The two agree for units *outside* of the tree, whose paths lead from the root to a
name that the root does not have.

**Paths.**  No spelling of such a path leads anywhere (`FileTree.IsOutside.canonical?_eq_none`).
Nothing that can be found stands at it either, whatever links there are: a search that starts
elsewhere stays elsewhere (`FileTree.Lacks.isElsewhere_of_leads`).  So the path shares its key
with its own spellings only.

**Results.**
* `FileTree.IsOutside.components_visitKey_eq_iff`: which headers share the key of a header
  outside.
* `UnitStore.keyed`: a store of units outside is keyed.
-/

namespace HeaderBindings

/-- If one of two paths starts at the root, they have the same route only if they have the same
components. -/
theorem Path.route_eq_iff_same {p q : Path} (habsolute : p.isAbsolute = true) :
    p.route = q.route ↔ p.same q = true := by
  rw [same, decide_eq_true_eq]
  constructor
  · intro hroute
    have hroot : Component.root ∈ q.route := by
      rw [← hroute, route_eq, habsolute]
      simp
    have hother := isAbsolute_of_root_mem (List.mem_filter.1 hroot).1
    rwa [route_of_isAbsolute habsolute, route_of_isAbsolute hother] at hroute
  · intro hsame
    rw [route, route, hsame]

namespace FileTree

section Elsewhere

/-- Whether a location is the root or below a name of the root other than the given one. -/
def IsElsewhere (top : String) (location : Location) : Prop :=
  ∀ name ∈ location.head?, name ≠ top ∧ Path.IsStep (.name name)

/-- Whether the root has no entry of a name, and the working directory is not below it. -/
structure Lacks (tree : FileTree) (top : String) : Prop where
  entryAt?_eq_none : tree.entryAt? [top] = none
  working : IsElsewhere top tree.working

variable {tree : FileTree} {top : String} {directory location : Location} {path : Path}

theorem isElsewhere_root (top : String) : IsElsewhere top [] := by
  intro name hname
  cases hname

theorem IsElsewhere.dropLast (helsewhere : IsElsewhere top location) :
    IsElsewhere top location.dropLast := by
  intro name hname
  refine helsewhere name ?_
  match location with
  | [] | [_] => cases hname
  | first :: next :: rest => exact hname

/-- The segments of a way are not empty and have no slash. -/
theorem mem_waySegments {segment : String} (hmem : segment ∈ waySegments path) :
    segment ≠ "" ∧ '/' ∉ segment.toList := by
  obtain ⟨piece, hpiece, rfl⟩ := List.mem_map.1 hmem
  obtain ⟨hsegment, hfilled⟩ := List.mem_filter.1 hpiece
  rw [String.toList_ofList]
  exact ⟨by simpa using hfilled, Text.not_mem_of_mem_splitOn hsegment⟩

theorem IsName.isStep {segment : String} (hname : IsName segment)
    (hwritten : segment ≠ "" ∧ '/' ∉ segment.toList) : Path.IsStep (.name segment) := by
  obtain ⟨hhere, hup, _⟩ := hname
  refine ⟨hwritten.2, ?_⟩
  have hidle : ¬Path.isIdle segment.toList = true := by
    rw [Path.isIdle_iff]
    exact not_or.2 ⟨hwritten.1, hhere⟩
  have hparent : segment.toList ≠ ['.', '.'] := fun heq => hup (String.toList_inj.1 heq)
  simp [Path.stepOf, Path.Component.text, hidle, hparent]

/-- What stands in a directory elsewhere is elsewhere. -/
theorem Lacks.isElsewhere_concat (hlacks : tree.Lacks top) {segment : String} {entry : Entry}
    (hdirectory : IsElsewhere top directory) (hname : IsName segment)
    (hwritten : segment ≠ "" ∧ '/' ∉ segment.toList)
    (hentry : tree.entryAt? (directory ++ [segment]) = some entry) :
    IsElsewhere top (directory ++ [segment]) := by
  intro name hhead
  cases directory with
  | nil =>
      obtain rfl : segment = name := Option.some.inj hhead
      refine ⟨?_, hname.isStep hwritten⟩
      rintro rfl
      exact absurd (hlacks.entryAt?_eq_none.symm.trans hentry) (by simp)
  | cons first rest => exact hdirectory name hhead

/-- What can be found from a directory elsewhere is elsewhere. -/
theorem Lacks.isElsewhere_of_leads (hlacks : tree.Lacks top) {purpose : Purpose} {links : Nat}
    {slash : Bool} {segments : List String} {entry : Entry}
    (hleads : Leads tree purpose links slash directory segments (.taken location entry))
    (hdirectory : IsElsewhere top directory)
    (hsegments : ∀ segment ∈ segments, segment ≠ "" ∧ '/' ∉ segment.toList) :
    IsElsewhere top location := by
  generalize hplace : Place.taken location entry = place at hleads
  induction hleads with
  | arrive =>
      obtain ⟨rfl, _⟩ := Place.taken.inj hplace
      exact hdirectory
  | stay _ ih => exact ih hdirectory (fun other hmem => hsegments other (.tail _ hmem)) hplace
  | up _ ih =>
      exact ih hdirectory.dropLast (fun other hmem => hsegments other (.tail _ hmem)) hplace
  | free => cases hplace
  | file hname _ hentry =>
      obtain ⟨rfl, _⟩ := Place.taken.inj hplace
      exact hlacks.isElsewhere_concat hdirectory hname (hsegments _ List.mem_cons_self) hentry
  | enter hname _ hentry _ ih =>
      have hinside :=
        hlacks.isElsewhere_concat hdirectory hname (hsegments _ List.mem_cons_self) hentry
      exact ih hinside (fun other hmem => hsegments other (.tail _ hmem)) hplace
  | keepLink hname _ hentry =>
      obtain ⟨rfl, _⟩ := Place.taken.inj hplace
      exact hlacks.isElsewhere_concat hdirectory hname (hsegments _ List.mem_cons_self) hentry
  | @throughLink _ _ _ _ _ target _ _ _ _ _ _ ih =>
      -- A link leads on from the root or from where it stands.
      refine ih ?_ ?_ hplace
      · cases target.isAbsolute with
        | true => exact isElsewhere_root top
        | false => exact hdirectory
      · intro other hmem
        rcases List.mem_append.1 hmem with htarget | hrest
        · exact mem_waySegments htarget
        · exact hsegments other (.tail _ hrest)

/-- The path of a location starts with the first name of the location. -/
theorem exists_components_real {name : String} (hstep : Path.IsStep (.name name))
    (more : List String) :
    ∃ after, (Path.mk ("/" ++ "/".intercalate (name :: more))).components =
      .root :: .name name :: after := by
  have htext : ("/" ++ "/".intercalate (name :: more)).toList =
      [] ++ '/' :: Text.join ['/'] (name.toList :: more.map String.toList) := by
    rw [String.toList_append, String.toList_intercalate, Text.join_eq_intercalate]
    rfl
  have hpieces : ∃ later, Text.splitOn '/'
      (Text.join ['/'] (name.toList :: more.map String.toList)) = name.toList :: later := by
    cases more with
    | nil => exact ⟨[], Text.splitOn_of_not_mem hstep.1⟩
    | cons next more => exact ⟨_, Text.splitOn_join_cons hstep.1 _ _⟩
  have habsolute : (Path.mk ("/" ++ "/".intercalate (name :: more))).isAbsolute = true := by
    rw [Path.isAbsolute, htext]
    rfl
  obtain ⟨later, hlater⟩ := hpieces
  refine ⟨later.filterMap Path.stepOf, ?_⟩
  rw [Path.components, Path.lead, if_pos habsolute, Path.segments, htext,
    Text.splitOn_append_cons, hlater]
  exact congrArg _ (List.filterMap_cons_some hstep.2)

/-- The path of a location elsewhere does not start with the name. -/
theorem IsElsewhere.not_below (helsewhere : IsElsewhere top location) :
    ¬[.root, .name top] <+: (Path.mk ("/" ++ "/".intercalate location)).components := by
  cases location with
  | nil =>
      have hroot : (Path.mk ("/" ++ "/".intercalate [])).components = [.root] := by decide +kernel
      rw [hroot]
      intro hbelow
      simpa using hbelow.length_le
  | cons name more =>
      obtain ⟨hne, hstep⟩ := helsewhere name rfl
      obtain ⟨after, hcomponents⟩ := exists_components_real hstep more
      rw [hcomponents]
      simpa using hne.symm

end Elsewhere

section Outside

/-- Whether a path goes from the root to a name that is not there. -/
def IsOutside (tree : FileTree) (path : Path) : Prop :=
  ∃ top, [.root, .name top] <+: path.components ∧ tree.Lacks top

variable {tree : FileTree} {top : String} {path real : Path}

theorem exists_leads_of_canonical? (hreal : tree.canonical? path = some real) :
    ∃ location entry,
      Leads tree .look maxLinks (endsWithSlash path) (tree.startOf path) (waySegments path)
        (.taken location entry) ∧ real = ⟨"/" ++ "/".intercalate location⟩ := by
  unfold canonical? at hreal
  split at hreal
  · next location entry hplace =>
      exact ⟨location, entry, (place_eq_ok_iff.1 hplace).2, (Option.some.inj hreal).symm⟩
  · cases hreal

/-- Nothing that can be found stands outside. -/
theorem not_isOutside_of_canonical? (hreal : tree.canonical? path = some real) :
    ¬tree.IsOutside real := by
  rintro ⟨top, hbelow, hlacks⟩
  obtain ⟨location, entry, hleads, rfl⟩ := exists_leads_of_canonical? hreal
  have hstart : IsElsewhere top (tree.startOf path) := by
    unfold startOf
    split
    · exact isElsewhere_root top
    · exact hlacks.working
  exact (hlacks.isElsewhere_of_leads hleads hstart fun _ => mem_waySegments).not_below hbelow

/-- Segments that lead from the root to a name that is not there lead nowhere. -/
theorem follow_ne_taken (htop : tree.entryAt? [top] = none) {segments : List (List Char)}
    {rest : List Path.Component} (hsteps : segments.filterMap Path.stepOf = .name top :: rest)
    (links : Nat) (slash : Bool) (location : Location) (entry : Entry) :
    tree.follow .look links slash []
        ((segments.filter fun segment => segment ≠ []).map String.ofList) ≠
      .ok (.taken location entry) := by
  induction segments with
  | nil => cases hsteps
  | cons segment segments ih =>
      rw [List.filterMap_cons] at hsteps
      cases hstep : Path.stepOf segment with
      | none =>
          -- An idle segment before the name is passed over.
          rw [hstep] at hsteps
          have hidle := (Path.stepOf_eq_none_iff segment).1 hstep
          simp only [Path.isIdle, Bool.or_eq_true, decide_eq_true_eq] at hidle
          rcases hidle with rfl | rfl
          · simpa using ih hsteps
          · have hdot : String.ofList ['.'] = "." := rfl
            simpa [hdot, follow_cons] using ih hsteps
      | some component =>
          rw [hstep] at hsteps
          obtain ⟨rfl, _⟩ := List.cons.inj hsteps
          obtain rfl : top.toList = segment := Path.text_of_stepOf hstep
          have htelling : top ≠ "" ∧ top ≠ "." ∧ top ≠ ".." := by
            refine ⟨?_, ?_, ?_⟩ <;> rintro rfl <;> exact absurd hstep (by decide)
          obtain ⟨hfilled, hhere, hup⟩ := htelling
          have hway : ((top.toList :: segments).filter fun segment => segment ≠ []).map
              String.ofList =
                top :: (segments.filter fun segment => segment ≠ []).map String.ofList := by
            simp [hfilled]
          rw [hway, follow_cons, if_neg hhere, if_neg hup, if_neg (by simp), List.nil_append, htop]
          split
          · simp
          · dsimp only
            split <;> simp

theorem IsOutside.isAbsolute (houtside : tree.IsOutside path) : path.isAbsolute = true := by
  obtain ⟨_, hbelow, _⟩ := houtside
  exact Path.isAbsolute_of_root_mem (hbelow.subset List.mem_cons_self)

/-- A path to the outside leads nowhere. -/
theorem IsOutside.canonical?_eq_none (houtside : tree.IsOutside path) :
    tree.canonical? path = none := by
  have habsolute := houtside.isAbsolute
  obtain ⟨top, ⟨rest, hcomponents⟩, hlacks⟩ := houtside
  have hsteps : path.segments.filterMap Path.stepOf = .name top :: rest := by
    rw [Path.components, Path.lead, if_pos habsolute] at hcomponents
    exact (List.cons.inj hcomponents).2.symm
  rw [Option.eq_none_iff_forall_ne_some]
  intro real hreal
  obtain ⟨location, entry, hleads, _⟩ := exists_leads_of_canonical? hreal
  rw [startOf, if_pos habsolute] at hleads
  exact follow_ne_taken hlacks.entryAt?_eq_none hsteps _ _ location entry hleads.follow

/-- A path to the outside shares its key only with the paths that have its components. -/
theorem IsOutside.components_visitKey_eq_iff (houtside : tree.IsOutside path) (other : Path) :
    (visitKey tree path).components = (visitKey tree other).components ↔
      path.same other = true := by
  rw [components_visitKey_of_missing houtside.canonical?_eq_none]
  cases hother : tree.canonical? other with
  | none =>
      rw [components_visitKey_of_missing hother, Path.route_eq_iff_same houtside.isAbsolute]
  | some real =>
      rw [visitKey, hother, Option.getD_some, Path.route_of_isAbsolute houtside.isAbsolute]
      refine iff_of_false ?_ ?_
      · intro heq
        refine not_isOutside_of_canonical? hother ?_
        rwa [IsOutside, ← heq]
      · intro hsame
        rw [Path.same, decide_eq_true_eq] at hsame
        have hfound : tree.IsOutside other := by rwa [IsOutside, ← hsame]
        rw [hfound.canonical?_eq_none] at hother
        cases hother

end Outside

end FileTree

/-- A store whose units are outside of the tree goes by keys: there the key of a unit is shared
by the spellings of its path, and by these it is found. -/
theorem UnitStore.keyed {store : UnitStore} {tree : FileTree}
    (houtside : ∀ unit ∈ store.units, tree.IsOutside unit.path) (survey : Survey) :
    (survey.walkSetting tree store.toFrontend).Keyed where
  answers := by
    intro p q hkey
    change (visitKey tree p).components = (visitKey tree q).components at hkey
    have hunit : store.unit? p = store.unit? q := by
      refine List.find?_congr fun unit hmem => ?_
      rw [Bool.eq_iff_iff, ← (houtside unit hmem).components_visitKey_eq_iff p,
        ← (houtside unit hmem).components_visitKey_eq_iff q, hkey]
    simp only [Survey.walkSetting, toFrontend, hunit]
  own := by
    intro path unit hparse
    obtain ⟨hmem, hsame⟩ := of_toFrontend_parse hparse
    exact ((houtside unit hmem).components_visitKey_eq_iff path).2 hsame

end HeaderBindings
