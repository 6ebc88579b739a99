import HeaderBindings.Target.Naming

/-!
# The registry of classes

Class records stand in the order in which they were made, and an index finds a
record by its target name.  The index also remembers the qualified native name
that a record was made for: another class with the same target name is refused,
never merged.

**Results.**
* `findOrCreate_eq_error_iff`: a class is refused exactly when its target name is
  taken by another one.
* `records_length_modifyAt`: changing a record neither adds nor removes one.
-/

namespace HeaderBindings

/-- Where the record of a target name stands, and the class that it was made for. -/
structure Slot where
  position : Nat
  qualified : String
deriving DecidableEq

/-- Class records and the index by target name. -/
structure Registry where
  records : List ClassInterface := []
  index : List (String × Slot) := []
deriving DecidableEq

/-- Two different classes with the same target name. -/
structure Collision where
  target : String
  existing : String
  incoming : String
deriving DecidableEq

/-- What is said about a collision. -/
def Collision.message (collision : Collision) : String :=
  "target type name `" ++ collision.target ++ "` is already taken by `" ++ collision.existing ++
    "`, refusing to merge `" ++ collision.incoming ++ "` into it"

namespace Registry

/-- The registry with a record that has only its names, and the position of that record. -/
def create (registry : Registry) (target qualified nativeName : String) : Registry × Nat :=
  ({ records := registry.records ++ [ClassInterface.fresh target nativeName]
     index := registry.index ++ [(target, ⟨registry.records.length, qualified⟩)] },
    registry.records.length)

/-- The position of the record of a class, which is made if it is new. -/
def findOrCreate (registry : Registry) (parent : Parent) : Except Collision (Registry × Nat) :=
  let target := Target.typeName parent.type.kind parent.name
  match registry.index.lookup target with
  | none => .ok (registry.create target parent.qualified parent.name)
  | some slot =>
      if slot.qualified = parent.qualified then .ok (registry, slot.position)
      else .error ⟨target, slot.qualified, parent.qualified⟩

/-- The registry with the record at a position changed. -/
def modifyAt (registry : Registry) (position : Nat) (change : ClassInterface → ClassInterface) :
    Registry :=
  { registry with records := registry.records.modify position change }

/-- A record with one more method. -/
def withMethod (method : Method) (record : ClassInterface) : ClassInterface :=
  { record with
    classType := { record.classType with methods := record.classType.methods ++ [method] } }

/-- The registry with one more method in the record at a position. -/
def addMethod (registry : Registry) (position : Nat) (method : Method) : Registry :=
  registry.modifyAt position (withMethod method)

/-- The record with a given target name. -/
def interface? (registry : Registry) (target : String) : Option ClassInterface :=
  match registry.index.lookup target with
  | none => none
  | some slot => registry.records[slot.position]?

/-- The registry with the namespace of a record set, if there is such a record. -/
def setSpace? (registry : Registry) (target space : String) : Option Registry :=
  match registry.index.lookup target with
  | none => none
  | some slot =>
      some (registry.modifyAt slot.position fun record => { record with space := space })

/-- The position of the first record of a class with a given native name. -/
def positionOf? (registry : Registry) (nativeName : String) : Option Nat :=
  registry.records.findIdx? fun record => record.classType.nativeName = nativeName

/-- Whether there is a record of a class with a given native name. -/
def isExtracted (registry : Registry) (nativeName : String) : Bool :=
  registry.records.any fun record => record.classType.nativeName = nativeName

theorem findOrCreate_eq_error_iff {registry : Registry} {parent : Parent}
    {collision : Collision} :
    registry.findOrCreate parent = .error collision ↔
      ∃ slot,
        registry.index.lookup (Target.typeName parent.type.kind parent.name) = some slot ∧
          slot.qualified ≠ parent.qualified ∧
            collision =
              ⟨Target.typeName parent.type.kind parent.name, slot.qualified,
                parent.qualified⟩ := by
  unfold findOrCreate
  simp only
  split
  · next h => simp [h]
  · next slot h =>
      split
      · next hq => simp [h, hq]
      · next hq =>
          simp only [Except.error.injEq, h, Option.some.injEq, exists_eq_left', ne_eq, hq,
            not_false_eq_true, true_and]
          exact eq_comm

@[simp] theorem records_length_modifyAt (registry : Registry) (position : Nat)
    (change : ClassInterface → ClassInterface) :
    (registry.modifyAt position change).records.length = registry.records.length := by
  simp [modifyAt]

end Registry
end HeaderBindings
