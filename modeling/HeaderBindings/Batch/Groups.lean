import HeaderBindings.Batch.Config

/-!
# Classes by header

A header is walked once, so the classes of a batch file are grouped by their
header.  Two spellings of one path are one header; a group is known by the first
spelling.

**Results.**
* `classesIn_addTo`: adding a class to groups keeps all classes and adds it once.
-/

namespace HeaderBindings

/-- The classes of one header, in order. -/
structure HeaderGroup where
  header : Path
  classes : List ClassEntry
deriving DecidableEq

namespace HeaderGroup

/-- Puts a class into the group of its header, or into a new group at the end. -/
def addTo : List HeaderGroup → ClassEntry → List HeaderGroup
  | [], entry => [⟨entry.header, [entry]⟩]
  | group :: rest, entry =>
      if group.header.same entry.header then
        ⟨group.header, group.classes ++ [entry]⟩ :: rest
      else group :: addTo rest entry

/-- The groups of a list of classes, headers in the order in which they come up. -/
def ofClasses (classes : List ClassEntry) : List HeaderGroup :=
  classes.foldl addTo []

/-- All classes of some groups. -/
def classesIn (groups : List HeaderGroup) : List ClassEntry :=
  groups.flatMap HeaderGroup.classes

theorem classesIn_addTo (groups : List HeaderGroup) (entry : ClassEntry) :
    (classesIn (addTo groups entry)).Perm (classesIn groups ++ [entry]) := by
  induction groups with
  | nil =>
      simp [classesIn, addTo]
  | cons group rest ih =>
      simp only [addTo]
      split
      · simp only [classesIn, List.flatMap_cons, List.append_assoc]
        exact (List.perm_append_comm).append_left group.classes
      · simp only [classesIn, List.flatMap_cons, List.append_assoc] at ih ⊢
        exact ih.append_left group.classes

end HeaderGroup

/-- The classes of a batch file by header. -/
def BatchConfig.groups (config : BatchConfig) : List HeaderGroup :=
  HeaderGroup.ofClasses config.classes

end HeaderBindings
