import HeaderBindings.Proofs.CaseForms
import HeaderBindings.Proofs.Occurrences

/-!
# The target names of types

The target name of a type that is not primitive is made from the part of its spelling after
the last `::`, one character at a time: `_` is left out, and what stands at the start of a word
is put in upper case, everything else in lower case.

**Namespaces.**  A mark `::` may overlap the next one, as in `:::`.  The last one in
`space::base` is the one before `base` or one inside `base`, unless `base` begins with a colon
(`baseName_append_scope`).

**Characters.**  Cutting a name into words and capitalising each comes to the same as looking at
each character and the one before it (`pascalCase_eq_wordForms`).

**Results.**
* `Target.isAfterLast_baseName`: the part of a name that its target name is made from.
* `Target.namespaces_left_out`: namespaces do not matter, and what a target name is made of.
-/

namespace HeaderBindings
namespace Target

section Namespaces

theorem isAfterLast_baseName (name : List Char) :
    Text.IsAfterLast scopeMark name (baseName name) := by
  unfold baseName
  split
  · next hsides => exact Text.isAfterLast_of_splitLast? hsides
  · next hnone => exact Or.inl ⟨Text.splitLast?_eq_none_iff.1 hnone, rfl⟩

/-- A name without a mark is its own last part. -/
theorem baseName_of_not_mem {name : List Char} (hcolon : ':' ∉ name) : baseName name = name := by
  rcases isAfterLast_baseName name with ⟨_, heq⟩ | ⟨⟨before, heq⟩, _⟩
  · exact heq
  · refine absurd ?_ hcolon
    rw [heq]
    simp [scopeMark]

/-- What stands before a mark does not matter, unless the mark goes on behind it. -/
theorem baseName_append_scope (space : List Char) {base : List Char}
    (hbase : base.head? ≠ some ':') :
    baseName (space ++ scopeMark ++ base) = baseName base := by
  unfold baseName
  cases hsides : Text.splitLast? scopeMark base with
  | some sides => rw [Text.splitLast?_append hsides]
  | none =>
      have hlater : Text.isInside scopeMark (scopeMark.tail ++ base) = false := by
        have hinside := Text.splitLast?_eq_none_iff.1 hsides
        -- A mark that begins at the second colon needs a colon at the start of `base`.
        have hstart : scopeMark.isPrefixOf (':' :: base) = false := by
          cases base with
          | nil => rfl
          | cons c cs =>
              have hc : ':' ≠ c := fun heq => hbase (by rw [heq]; rfl)
              simp [scopeMark, List.isPrefixOf, hc]
        change Text.isInside scopeMark (':' :: base) = false
        rw [Text.isInside, hstart, hinside, Bool.false_or]
      rw [Text.splitLast?_marker (by decide) hlater]

/-- The name of a primitive type does not depend on its spelling. -/
theorem primitiveName_congr {kind : TypeKind} (hprimitive : isPrimitive kind = true)
    (spelling other : String) : primitiveName kind spelling = primitiveName kind other := by
  obtain ⟨entry, _, hname⟩ := exists_primitiveName hprimitive
  rw [hname, hname]

theorem typeName_append_scope (kind : TypeKind) (space : String) {base : String}
    (hbase : base.toList.head? ≠ some ':') :
    typeName kind (space ++ "::" ++ base) = typeName kind base := by
  unfold typeName
  split
  · next hprimitive => exact primitiveName_congr hprimitive _ _
  · have htext : (space ++ "::" ++ base).toList = space.toList ++ scopeMark ++ base.toList := by
      simp [scopeMark]
    rw [htext, baseName_append_scope space.toList hbase]

end Namespaces

section Words

/-- The form of a character that stands behind another one: upper case at the start of a word. -/
def formAfter (before c : Char) : List Char :=
  if before = '_' then Text.upper c else Text.lower c

/-- The characters of a name other than `_`, in order, each in the form that it has behind the one
before it.  What stands before the name is given. -/
def wordFormsAfter (before : Char) (name : List Char) : List Char :=
  (((before :: name).zip name).filter fun pair => pair.2 ≠ '_').flatMap fun pair =>
    formAfter pair.1 pair.2

/-- The characters of a name other than `_` in their forms, where the name starts a word. -/
def wordForms (name : List Char) : List Char :=
  wordFormsAfter '_' name

theorem wordFormsAfter_cons (before c : Char) (rest : List Char) :
    wordFormsAfter before (c :: rest) =
      (if c = '_' then [] else formAfter before c) ++ wordFormsAfter c rest := by
  by_cases hc : c = '_' <;> simp [wordFormsAfter, hc]

/-- Behind a character of a word, the rest of the word goes on in lower case; behind a `_` a new
word starts. -/
theorem exists_wordFormsAfter (name : List Char) :
    ∃ word words, Text.splitOn '_' name = word :: words ∧
      (∀ before, before ≠ '_' → wordFormsAfter before name =
        word.flatMap Text.lower ++ words.flatMap Text.capitalize) ∧
      wordFormsAfter '_' name = (word :: words).flatMap Text.capitalize := by
  induction name with
  | nil => exact ⟨[], [], rfl, fun _ _ => rfl, rfl⟩
  | cons c rest ih =>
      obtain ⟨word, words, hsplit, hinside, hstart⟩ := ih
      by_cases hc : c = '_'
      · subst hc
        refine ⟨[], word :: words, ?_, fun before hbefore => ?_, ?_⟩
        · simp [Text.splitOn, hsplit]
        all_goals simp [wordFormsAfter_cons, hstart, Text.capitalize]
      · refine ⟨c :: word, words, ?_, fun before hbefore => ?_, ?_⟩
        · simp [Text.splitOn, hsplit, hc]
        · simp [wordFormsAfter_cons, hc, hinside, formAfter, hbefore]
        · simp [wordFormsAfter_cons, hc, hinside, formAfter, Text.capitalize]

theorem pascalCase_eq_wordForms (name : List Char) : pascalCase name = wordForms name := by
  obtain ⟨word, words, hsplit, _, hstart⟩ := exists_wordFormsAfter name
  rw [pascalCase, hsplit, wordForms, hstart]

end Words

/-- **Namespaces do not matter.**  A type has the same target name with and without a namespace in
front of its spelling, unless what follows begins with a colon.  If the type is not primitive,
its target name has no `_` and consists of the characters of the part of the spelling after the
last `::`, in order, in upper case at the start of a word and in lower case elsewhere. -/
theorem namespaces_left_out (type : NativeType) :
    (∀ space base : String, base.toList.head? ≠ some ':' →
      typeName type.kind (space ++ "::" ++ base) = typeName type.kind base) ∧
    (isPrimitive type.kind = false → ∀ spelling : String,
      '_' ∉ (typeName type.kind spelling).toList ∧
      ∃ base, Text.IsAfterLast scopeMark spelling.toList base ∧
        (typeName type.kind spelling).toList = wordForms base) := by
  refine ⟨fun space base hbase => typeName_append_scope type.kind space hbase, ?_⟩
  intro hkind spelling
  have hname : (typeName type.kind spelling).toList = pascalCase (baseName spelling.toList) := by
    simp [typeName, hkind]
  refine ⟨?_, baseName spelling.toList, isAfterLast_baseName _, ?_⟩
  · rw [hname, mem_pascalCase_iff Text.isCaseless_underscore]
    simp
  · rw [hname, pascalCase_eq_wordForms]

/-- A namespace that ends with a colon, in front of a name with a namespace of its own and a letter
with a longer upper case form. -/
theorem namespaces_left_out_colons :
    typeName .record ("a:" ++ "::" ++ "b::ßA_b") = typeName .record "b::ßA_b" ∧
      '_' ∉ (typeName .record "b::ßA_b").toList ∧
      typeName .record "b::ßA_b" = "SSaB" := by
  obtain ⟨hspace, hforms⟩ := namespaces_left_out (NativeType.ofRecord "b::ßA_b")
  refine ⟨hspace "a:" "b::ßA_b" (by decide +kernel), (hforms rfl "b::ßA_b").1, by decide +kernel⟩

end Target
end HeaderBindings
