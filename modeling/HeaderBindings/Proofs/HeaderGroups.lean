import HeaderBindings.Batch.Groups

/-!
# Grouping is a stable partition

The classes of a batch file are put one after the other into the first group of their
header.  Headers are compared component by component, so one header may be written in
several ways; the place of a header is that of the first class that has it under any of them.

**Invariant.**  Groups *arrange* the classes that were put into them (`Arranges`): they stand
in the order of the places of their headers, each holds the classes of its header in their
order and bears the header as its first class spells it, and no class is left out.  That no
two groups have the same header follows from their order (`Arranges.distinct`).

**Results.**
* `perm_classesIn`: grouping loses no class and adds none.
* `Arranges.addTo`: putting in one more class keeps the invariant.
* `arranges_ofClasses`: groups arrange the classes that they are made of.
* `BatchConfig.groups_are_stable_partition`: what the groups of a batch file are.
-/

namespace HeaderBindings
namespace HeaderGroup

section Places

/-- The place of the first class with a header. -/
def firstPlace (classes : List ClassEntry) (header : Path) : Nat :=
  classes.findIdx fun entry => header.same entry.header

theorem firstPlace_congr (classes : List ClassEntry) {p q : Path} (hsame : p.same q = true) :
    firstPlace classes p = firstPlace classes q := by
  rw [Path.same, decide_eq_true_eq] at hsame
  simp only [firstPlace, Path.same, hsame]

theorem firstPlace_lt {classes : List ClassEntry} {header : Path}
    (hfound : ∃ entry ∈ classes, header.same entry.header = true) :
    firstPlace classes header < classes.length :=
  List.findIdx_lt_length.2 hfound

/-- More classes behind the others do not move a header that is there. -/
theorem firstPlace_append {classes : List ClassEntry} {header : Path}
    (hfound : ∃ entry ∈ classes, header.same entry.header = true) (more : List ClassEntry) :
    firstPlace (classes ++ more) header = firstPlace classes header := by
  have hlt := firstPlace_lt hfound
  rw [firstPlace, List.findIdx_append]
  exact if_pos hlt

/-- A new header has the place behind all classes. -/
theorem firstPlace_concat {classes : List ClassEntry} {entry : ClassEntry}
    (hnew : ∀ other ∈ classes, entry.header.same other.header = false) :
    firstPlace (classes ++ [entry]) entry.header = classes.length := by
  have hnone : classes.findIdx (fun other => entry.header.same other.header) = classes.length :=
    List.findIdx_eq_length_of_false hnew
  rw [firstPlace, List.findIdx_append, hnone]
  simp [List.findIdx_cons, Path.same_refl]

end Places

section Adding

/-- A class goes to the end of the first group of its header, or into a new last group if there
is none. -/
theorem addTo_cases (groups : List HeaderGroup) (entry : ClassEntry) :
    (∃ before group after, groups = before ++ group :: after ∧
        (∀ other ∈ before, other.header.same entry.header = false) ∧
        group.header.same entry.header = true ∧
        addTo groups entry = before ++ ⟨group.header, group.classes ++ [entry]⟩ :: after) ∨
      (∀ group ∈ groups, group.header.same entry.header = false) ∧
        addTo groups entry = groups ++ [⟨entry.header, [entry]⟩] := by
  induction groups with
  | nil => exact Or.inr ⟨by simp, rfl⟩
  | cons head rest ih =>
      by_cases hhead : head.header.same entry.header = true
      · exact Or.inl ⟨[], head, rest, rfl, by simp, hhead, by simp [addTo, hhead]⟩
      · rw [Bool.not_eq_true] at hhead
        rcases ih with ⟨before, group, after, rfl, hbefore, hgroup, hadd⟩ | ⟨hnew, hadd⟩
        · refine Or.inl ⟨head :: before, group, after, rfl, ?_, hgroup, ?_⟩
          · simpa [hhead] using hbefore
          · simp [addTo, hhead, hadd]
        · refine Or.inr ⟨?_, ?_⟩
          · simpa [hhead] using hnew
          · simp [addTo, hhead, hadd]

/-- Grouping by header loses no class and adds none. -/
theorem perm_classesIn (classes : List ClassEntry) :
    (classesIn (ofClasses classes)).Perm classes := by
  have hfold : ∀ groups, (classesIn (classes.foldl addTo groups)).Perm
      (classesIn groups ++ classes) := by
    induction classes with
    | nil => simp
    | cons entry rest ih =>
        intro groups
        refine (ih (addTo groups entry)).trans ?_
        refine ((classesIn_addTo groups entry).append_right rest).trans ?_
        simp
  simpa [ofClasses, classesIn] using hfold []

end Adding

section Arranging

/-- The headers of some groups. -/
def headers (groups : List HeaderGroup) : List Path :=
  groups.map HeaderGroup.header

/-- Whether groups hold the classes of a list, sorted by header. -/
structure Arranges (classes : List ClassEntry) (groups : List HeaderGroup) : Prop where
  /-- The headers stand in the order in which they come up. -/
  ordered : (headers groups).Pairwise fun p q => firstPlace classes p < firstPlace classes q
  /-- A group holds the classes of its header in their order. -/
  members : ∀ group ∈ groups,
    group.classes = classes.filter fun entry => group.header.same entry.header
  /-- A group bears its header as its first class spells it. -/
  named : ∀ group ∈ groups, group.classes.head?.map ClassEntry.header = some group.header
  /-- The header of every class has a group. -/
  covered : ∀ entry ∈ classes, ∃ header ∈ headers groups, header.same entry.header = true

namespace Arranges

variable {classes : List ClassEntry} {groups : List HeaderGroup}

theorem filled (harranges : Arranges classes groups) {group : HeaderGroup}
    (hgroup : group ∈ groups) : group.classes ≠ [] := by
  intro hempty
  have hnamed := harranges.named group hgroup
  rw [hempty] at hnamed
  cases hnamed

/-- The header of a group comes up among the classes. -/
theorem found (harranges : Arranges classes groups) {header : Path}
    (hheader : header ∈ headers groups) :
    ∃ entry ∈ classes, header.same entry.header = true := by
  obtain ⟨group, hgroup, rfl⟩ := List.mem_map.1 hheader
  obtain ⟨entry, hentry⟩ := List.exists_mem_of_ne_nil _ (harranges.filled hgroup)
  rw [harranges.members group hgroup, List.mem_filter] at hentry
  exact ⟨entry, hentry⟩

/-- No two groups have the same header, because a header has one place. -/
theorem distinct (harranges : Arranges classes groups) :
    (headers groups).Pairwise fun p q => p.same q = false := by
  refine harranges.ordered.imp fun {p q} hlt => ?_
  rw [Bool.eq_false_iff]
  exact fun hsame => absurd (firstPlace_congr classes hsame) (Nat.ne_of_lt hlt)

/-- More classes behind the others leave the headers in order. -/
theorem ordered_append (harranges : Arranges classes groups) (more : List ClassEntry) :
    (headers groups).Pairwise fun p q =>
      firstPlace (classes ++ more) p < firstPlace (classes ++ more) q := by
  refine harranges.ordered.imp_of_mem fun {p q} hp hq hlt => ?_
  rwa [firstPlace_append (harranges.found hp), firstPlace_append (harranges.found hq)]

/-- A class of another header does not belong to a group. -/
theorem members_concat (harranges : Arranges classes groups) {group : HeaderGroup}
    (hgroup : group ∈ groups) {entry : ClassEntry}
    (hother : group.header.same entry.header = false) :
    group.classes = (classes ++ [entry]).filter fun one => group.header.same one.header := by
  rw [List.filter_append, ← harranges.members group hgroup]
  simp [hother]

/-- A class of a new header is a group of its own behind the others. -/
theorem concat_new (harranges : Arranges classes groups) {entry : ClassEntry}
    (hnew : ∀ group ∈ groups, group.header.same entry.header = false) :
    Arranges (classes ++ [entry]) (groups ++ [⟨entry.header, [entry]⟩]) := by
  have hheaders : headers (groups ++ [⟨entry.header, [entry]⟩]) =
      headers groups ++ [entry.header] := List.map_append
  have hunknown : ∀ other ∈ classes, entry.header.same other.header = false := by
    intro other hmem
    obtain ⟨header, hheader, hother⟩ := harranges.covered other hmem
    obtain ⟨group, hgroup, rfl⟩ := List.mem_map.1 hheader
    rw [Bool.eq_false_iff]
    intro hsame
    have hentry := Path.same_trans hother (Path.same_symm hsame)
    rw [hnew group hgroup] at hentry
    cases hentry
  constructor
  case ordered =>
    rw [hheaders]
    refine List.pairwise_append.2 ⟨harranges.ordered_append _, List.pairwise_singleton _ _, ?_⟩
    intro header hheader last hlast
    obtain rfl := List.mem_singleton.1 hlast
    rw [firstPlace_concat hunknown, firstPlace_append (harranges.found hheader)]
    exact firstPlace_lt (harranges.found hheader)
  case members =>
    intro group hgroup
    rcases List.mem_append.1 hgroup with hold | hlast
    · exact harranges.members_concat hold (hnew group hold)
    · obtain rfl := List.mem_singleton.1 hlast
      have hnone : classes.filter (fun other => entry.header.same other.header) = [] :=
        List.filter_eq_nil_iff.2 fun other hmem => by simp [hunknown other hmem]
      rw [List.filter_append, hnone]
      simp [Path.same_refl]
  case named =>
    intro group hgroup
    rcases List.mem_append.1 hgroup with hold | hlast
    · exact harranges.named group hold
    · obtain rfl := List.mem_singleton.1 hlast
      rfl
  case covered =>
    intro other hother
    rw [hheaders]
    rcases List.mem_append.1 hother with hold | hlast
    · obtain ⟨header, hheader, hsame⟩ := harranges.covered other hold
      exact ⟨header, List.mem_append_left _ hheader, hsame⟩
    · obtain rfl := List.mem_singleton.1 hlast
      exact ⟨other.header, by simp, Path.same_refl _⟩

/-- Besides the group of the header of a class there is no other. -/
theorem sole {before after : List HeaderGroup} {group : HeaderGroup}
    (harranges : Arranges classes (before ++ group :: after)) {entry : ClassEntry}
    (hsame : group.header.same entry.header = true) :
    ∀ other ∈ before ++ after, other.header.same entry.header = false := by
  have hpairs := List.pairwise_map.1 harranges.distinct
  rw [List.pairwise_append, List.pairwise_cons] at hpairs
  obtain ⟨-, ⟨hafter, -⟩, hbefore⟩ := hpairs
  intro other hmem
  rw [Bool.eq_false_iff]
  intro hentry
  -- Both groups would have the header of the class, and so that of each other.
  rcases List.mem_append.1 hmem with hfront | hback
  · have hne := hbefore other hfront group List.mem_cons_self
    rw [Path.same_trans hentry (Path.same_symm hsame)] at hne
    cases hne
  · have hne := hafter other hback
    rw [Path.same_trans hsame (Path.same_symm hentry)] at hne
    cases hne

/-- A class of a known header goes to the end of the group of this header. -/
theorem concat_known {before after : List HeaderGroup} {group : HeaderGroup}
    (harranges : Arranges classes (before ++ group :: after)) {entry : ClassEntry}
    (hsame : group.header.same entry.header = true) :
    Arranges (classes ++ [entry])
      (before ++ ⟨group.header, group.classes ++ [entry]⟩ :: after) := by
  have hgroup : group ∈ before ++ group :: after := by simp
  have hheaders : headers (before ++ ⟨group.header, group.classes ++ [entry]⟩ :: after) =
      headers (before ++ group :: after) := by
    simp [headers]
  -- Only one group changes; the others are as before and have nothing to do with the class.
  have hcases {one : HeaderGroup}
      (hone : one ∈ before ++ ⟨group.header, group.classes ++ [entry]⟩ :: after) :
      one = ⟨group.header, group.classes ++ [entry]⟩ ∨
        one ∈ before ++ group :: after ∧ one.header.same entry.header = false := by
    rcases List.mem_append.1 hone with hfront | hrest
    · exact Or.inr ⟨by simp [hfront], harranges.sole hsame one (List.mem_append_left _ hfront)⟩
    · rcases List.mem_cons.1 hrest with heq | hback
      · exact Or.inl heq
      · exact Or.inr ⟨by simp [hback], harranges.sole hsame one (List.mem_append_right _ hback)⟩
  constructor
  case ordered =>
    rw [hheaders]
    exact harranges.ordered_append [entry]
  case members =>
    intro one hone
    rcases hcases hone with rfl | ⟨hold, hentry⟩
    · rw [List.filter_append, ← harranges.members group hgroup]
      simp [hsame]
    · exact harranges.members_concat hold hentry
  case named =>
    intro one hone
    rcases hcases hone with rfl | ⟨hold, -⟩
    · obtain ⟨first, hfirst, hheader⟩ := Option.map_eq_some_iff.1 (harranges.named group hgroup)
      simp [List.head?_append, hfirst, hheader]
    · exact harranges.named one hold
  case covered =>
    intro other hmem
    rw [hheaders]
    rcases List.mem_append.1 hmem with hold | hlast
    · exact harranges.covered other hold
    · obtain rfl := List.mem_singleton.1 hlast
      exact ⟨group.header, List.mem_map_of_mem hgroup, hsame⟩

/-- Putting in one more class keeps groups in their arrangement. -/
theorem addTo (harranges : Arranges classes groups) (entry : ClassEntry) :
    Arranges (classes ++ [entry]) (addTo groups entry) := by
  rcases addTo_cases groups entry with ⟨before, group, after, rfl, -, hsame, hadd⟩ | ⟨hnew, hadd⟩
  · rw [hadd]
    exact harranges.concat_known hsame
  · rw [hadd]
    exact harranges.concat_new hnew

end Arranges

/-- Groups arrange the classes that they are made of. -/
theorem arranges_ofClasses (classes : List ClassEntry) :
    Arranges classes (ofClasses classes) := by
  -- By induction on the classes to come, for any groups that arrange those that are `done`.
  have hfold : ∀ done groups, Arranges done groups →
      Arranges (done ++ classes) (classes.foldl addTo groups) := by
    induction classes with
    | nil => simp
    | cons entry rest ih =>
        intro done groups harranges
        have hrest := ih (done ++ [entry]) (addTo groups entry) (harranges.addTo entry)
        rwa [List.append_assoc] at hrest
  exact hfold [] [] ⟨List.Pairwise.nil, by simp, by simp, by simp⟩

end Arranging

end HeaderGroup

namespace BatchConfig

section Partition

/-- The groups of a batch file are a stable partition of its classes.

No two groups have headers with the same components, and no group is empty.  The groups stand in
the order in which their headers come up, each under the spelling that comes first.  A group
holds exactly the classes whose header has the components of its own, in their order.  All groups
together hold every class as often as the batch file lists it. -/
theorem groups_are_stable_partition (config : BatchConfig) :
    ((HeaderGroup.headers config.groups).map Path.components).Nodup ∧
    (∀ group ∈ config.groups, group.classes ≠ []) ∧
    ((HeaderGroup.headers config.groups).Pairwise fun p q =>
      HeaderGroup.firstPlace config.classes p < HeaderGroup.firstPlace config.classes q) ∧
    (∀ group ∈ config.groups, group.classes.head?.map ClassEntry.header = some group.header) ∧
    (∀ group ∈ config.groups, group.classes =
      config.classes.filter fun entry => group.header.components = entry.header.components) ∧
    (config.groups.flatMap HeaderGroup.classes).Perm config.classes := by
  have harranges := HeaderGroup.arranges_ofClasses config.classes
  have hdistinct : ((HeaderGroup.headers config.groups).map Path.components).Nodup := by
    refine List.pairwise_map.2 (harranges.distinct.imp fun hsame => ?_)
    simpa [Path.same] using hsame
  exact ⟨hdistinct, fun group hgroup => harranges.filled hgroup, harranges.ordered,
    harranges.named, harranges.members, HeaderGroup.perm_classesIn config.classes⟩

/-- A batch file that spells two of its three headers in several ways. -/
def spelledConfig : BatchConfig where
  compiler := Compiler.defaultName
  isRecursive := true
  includes := []
  args := []
  outputDir := ⟨"out"⟩
  classes :=
    [⟨⟨"inc//a.h"⟩, "symbol", "S"⟩, ⟨⟨"b.h"⟩, "ex", "S"⟩, ⟨⟨"inc/./a.h"⟩, "basic", "T"⟩,
      ⟨⟨"./b.h"⟩, "numeric", "S"⟩, ⟨⟨"b.h/"⟩, "matrix", "S"⟩]

/-- Slashes and inner dots do not divide a group; a leading dot does. -/
theorem groups_are_stable_partition_spelled :
    (spelledConfig.groups.map fun group =>
        (group.header.text, group.classes.map ClassEntry.name)) =
      [("inc//a.h", ["symbol", "basic"]), ("b.h", ["ex", "matrix"]), ("./b.h", ["numeric"])] ∧
    ((HeaderGroup.headers spelledConfig.groups).map Path.components).Nodup ∧
    (spelledConfig.groups.flatMap HeaderGroup.classes).Perm spelledConfig.classes := by
  obtain ⟨hdistinct, -, -, -, -, hperm⟩ := groups_are_stable_partition spelledConfig
  exact ⟨by decide +kernel, hdistinct, hperm⟩

end Partition

end BatchConfig
end HeaderBindings
