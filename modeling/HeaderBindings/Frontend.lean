import HeaderBindings.Native.Declarations

/-!
# Frontends

A frontend parses a header into a source unit, or says why it cannot.  It knows
finitely many headers: every header that one of its units includes is in its list
of names, which is what bounds a walk through its units.

A *unit store* is a frontend that was given its units beforehand, found by path.

**Results.**
* `UnitStore.unit?_register_same`: a registered unit is found under every spelling
  of its path.
* `UnitStore.of_toFrontend_parse`: what a store answers is a unit of this path.
-/

namespace HeaderBindings

/-- A parser of headers. -/
structure Frontend where
  parse : Path → Except String SourceUnit
  /-- Headers that the units include. -/
  names : List Path
  includes_mem_names :
    ∀ path unit, parse path = .ok unit → ∀ included ∈ unit.includes, included ∈ names

/-- Source units that were prepared beforehand; no two have the same path. -/
structure UnitStore where
  units : List SourceUnit := []

namespace UnitStore

/-- The unit of a path. -/
def unit? (store : UnitStore) (path : Path) : Option SourceUnit :=
  store.units.find? fun unit => unit.path.same path

/-- The store with one more unit, which takes the place of an older one with the same path. -/
def register (store : UnitStore) (unit : SourceUnit) : UnitStore :=
  ⟨store.units.filter (fun old => !old.path.same unit.path) ++ [unit]⟩

/-- The store of a list of units, registered in order. -/
def ofList (units : List SourceUnit) : UnitStore :=
  units.foldl register {}

/-- What a store says about a path that it has no unit for. -/
def missingUnit : String := "no such translation unit"

/-- The frontend that looks its units up in a store. -/
def toFrontend (store : UnitStore) : Frontend where
  parse path :=
    match store.unit? path with
    | some unit => .ok unit
    | none => .error missingUnit
  names := store.units.flatMap SourceUnit.includes
  includes_mem_names := by
    intro path unit h included hmem
    split at h
    · next found hf =>
        obtain rfl := Except.ok.inj h
        exact List.mem_flatMap.2 ⟨found, List.mem_of_find?_eq_some hf, hmem⟩
    · simp at h

theorem unit?_register_same (store : UnitStore) (unit : SourceUnit) {path : Path}
    (h : unit.path.same path = true) :
    (store.register unit).unit? path = some unit := by
  have hold : (store.units.filter fun old => !old.path.same unit.path).find?
      (fun old => old.path.same path) = none := by
    simp only [List.find?_eq_none, List.mem_filter, and_imp]
    intro old _ hne hsame
    have := Path.same_trans hsame (Path.same_symm h)
    simp [this] at hne
  simp [register, unit?, hold, h]

theorem of_toFrontend_parse {store : UnitStore} {path : Path} {unit : SourceUnit}
    (hparse : store.toFrontend.parse path = .ok unit) :
    unit ∈ store.units ∧ unit.path.same path = true := by
  simp only [toFrontend] at hparse
  split at hparse
  · next found hfound =>
      obtain rfl := Except.ok.inj hparse
      rw [unit?] at hfound
      exact ⟨List.mem_of_find?_eq_some hfound, by simpa using List.find?_some hfound⟩
  · simp at hparse

end UnitStore
end HeaderBindings
