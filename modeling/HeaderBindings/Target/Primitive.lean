import HeaderBindings.Native.Types

/-!
# Primitive types of the target

Native scalars have fixed-width counterparts in the target.  Character kinds are
not primitive.

**Results.**
* `primitiveName?_isSome_iff`: exactly the primitive kinds have a name.
* `exists_primitiveName`: the name of a primitive kind is one of the table, whatever the
  spelling is.
-/

namespace HeaderBindings
namespace Target

/-- The target names of the native scalar kinds. -/
def primitiveNames : List (TypeKind × String) :=
  [(.bool, "Bool"), (.uShort, "UInt16"), (.uInt, "UInt32"), (.uLong, "UInt64"),
    (.uLongLong, "UInt64"), (.uInt128, "UInt128"), (.short, "Int16"), (.int, "Int32"),
    (.long, "Int64"), (.longLong, "Int64"), (.int128, "Int128"), (.float, "Float"),
    (.double, "Float"), (.longDouble, "Float")]

/-- The target name of a scalar kind. -/
def primitiveName? (kind : TypeKind) : Option String :=
  primitiveNames.lookup kind

/-- Whether a kind is a scalar with a counterpart in the target. -/
def isPrimitive : TypeKind → Bool
  | .bool | .uShort | .uInt | .uLong | .uLongLong | .uInt128 | .short | .int | .long | .longLong
  | .int128 | .float | .double | .longDouble => true
  | _ => false

/-- What the name of a type without a counterpart starts with. -/
def unmappedMark : String := "UNMAPPED_PRIMITIVE_"

/-- The target name of a type taken as a primitive one.  A kind without a name gives a text
that is easy to find in the generated data. -/
def primitiveName (kind : TypeKind) (spelling : String) : String :=
  (primitiveName? kind).getD (unmappedMark ++ spelling)

/-- Whether a target name stands for a type without a counterpart. -/
def isUnmapped (target : String) : Bool :=
  unmappedMark.toList.isPrefixOf target.toList

theorem primitiveName?_isSome_iff (kind : TypeKind) :
    (primitiveName? kind).isSome = isPrimitive kind := by
  cases kind <;> rfl

theorem exists_primitiveName {kind : TypeKind} (hprimitive : isPrimitive kind = true) :
    ∃ entry ∈ primitiveNames, ∀ spelling, primitiveName kind spelling = entry.2 := by
  obtain ⟨name, hname⟩ := Option.isSome_iff_exists.1
    ((primitiveName?_isSome_iff kind).trans hprimitive)
  obtain ⟨before, after, hnames, _⟩ := List.lookup_eq_some_iff.1 hname
  refine ⟨(kind, name), ?_, fun spelling => ?_⟩
  · rw [hnames]
    simp
  · rw [primitiveName, hname]
    rfl

end Target
end HeaderBindings
