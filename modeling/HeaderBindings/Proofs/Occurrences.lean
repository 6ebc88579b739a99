import HeaderBindings.Text.Search

/-!
# Where a marker occurs

A text that is put together from pieces may hold a marker inside a piece or across a joint.
The lemmas here say when a joint is out of the question, and what the first and the last
occurrence of a marker are then.

**Joints.**  A marker does not cross a character that it does not have
(`isInside_append_cons`), so it does not arise from joining pieces with such a character
(`isInside_join`).  It does not begin in a text without its first character
(`isInside_append_of_head`), and it does not end in a text without its last one
(`isInside_append_of_last`).

**Results.**
* `splitLast?_eq_none_iff`, `splitFirst?_eq_none_iff`: a marker is found if it occurs.
* `splitLast?_marker`, `splitFirst?_marker`: the occurrence that is found.
* `isAfterLast_of_splitLast?`: what `splitLast?` gives is the rest after the last occurrence.
-/

namespace HeaderBindings
namespace Text

variable {marker : List Char}

section Prefixes

theorem isPrefixOf?_eq_none_iff {text : List Char} :
    marker.isPrefixOf? text = none ↔ marker.isPrefixOf text = false := by
  rw [Option.eq_none_iff_forall_ne_some, Bool.eq_false_iff, Ne, List.isPrefixOf_iff_prefix]
  simp only [ne_eq, isPrefixOf?_eq_some, List.IsPrefix, not_exists]
  exact forall_congr' fun after => not_congr eq_comm

/-- Whether a text starts with a marker is decided before any character that the marker does not
have. -/
theorem isPrefixOf_append_cons {separator : Char} (hseparator : separator ∉ marker)
    (before after : List Char) :
    marker.isPrefixOf (before ++ separator :: after) = marker.isPrefixOf before := by
  induction marker generalizing before with
  | nil => simp
  | cons first rest ih =>
      simp only [List.mem_cons, not_or] at hseparator
      cases before with
      | nil => simp [List.isPrefixOf, Ne.symm hseparator.1]
      | cons c cs => simp [List.isPrefixOf, ih hseparator.2]

/-- Whether a text starts with a marker does not depend on what follows without the marker's
last character. -/
theorem isPrefixOf_append_of_last {start after : List Char} {last : Char} (hlast : last ∉ after)
    (before : List Char) :
    (start ++ [last]).isPrefixOf (before ++ after) = (start ++ [last]).isPrefixOf before := by
  induction start generalizing before with
  | nil =>
      cases before with
      | nil =>
          cases after with
          | nil => rfl
          | cons c cs =>
              simp only [List.mem_cons, not_or] at hlast
              simp [List.isPrefixOf, hlast.1]
      | cons c cs => simp [List.isPrefixOf]
  | cons first rest ih =>
      cases before with
      | nil =>
          have hnone : ¬ (first :: rest ++ [last]) <+: after := by
            intro hleads
            exact hlast (hleads.subset (by simp))
          rw [List.nil_append, Bool.eq_false_iff.2 (mt List.isPrefixOf_iff_prefix.1 hnone)]
          rfl
      | cons c cs =>
          simp only [List.cons_append, List.isPrefixOf, ih]

end Prefixes

section Joints

theorem isInside_nil (hmarker : marker ≠ []) : isInside marker [] = false := by
  simpa [isInside] using hmarker

/-- A marker does not cross a character that it does not have. -/
theorem isInside_append_cons {separator : Char} (hmarker : marker ≠ [])
    (hseparator : separator ∉ marker) (before after : List Char) :
    isInside marker (before ++ separator :: after) =
      (isInside marker before || isInside marker after) := by
  have hleads := isPrefixOf_append_cons hseparator
  induction before with
  | nil =>
      have hempty : marker.isPrefixOf (separator :: after) = false := by
        rw [← List.nil_append (separator :: after), hleads]
        simpa [Bool.eq_false_iff, List.isPrefixOf_iff_prefix] using hmarker
      simp [isInside, hempty, hmarker]
  | cons c cs ih =>
      have hstart := hleads (c :: cs) after
      rw [List.cons_append] at hstart ⊢
      rw [isInside, isInside, hstart, ih, Bool.or_assoc]

/-- A marker is in none of the joints between pieces if it does not have the separator. -/
theorem isInside_join {separator : Char} (hmarker : marker ≠ [])
    (hseparator : separator ∉ marker) (pieces : List (List Char)) :
    isInside marker (join [separator] pieces) = pieces.any (isInside marker) := by
  induction pieces with
  | nil => exact isInside_nil hmarker
  | cons piece rest ih =>
      cases rest with
      | nil => simp [join]
      | cons next more =>
          have hjoin : join [separator] (piece :: next :: more) =
              piece ++ separator :: join [separator] (next :: more) := by
            simp [join]
          rw [hjoin, isInside_append_cons hmarker hseparator, ih]
          rfl

/-- A marker does not begin in a text without its first character. -/
theorem isInside_append_of_head {first : Char} {rest before : List Char}
    (hfirst : first ∉ before) (after : List Char) :
    isInside (first :: rest) (before ++ after) = isInside (first :: rest) after := by
  induction before with
  | nil => rfl
  | cons c cs ih =>
      simp only [List.mem_cons, not_or] at hfirst
      simp [isInside, List.isPrefixOf, hfirst.1, ih hfirst.2]

/-- A marker does not end in a text without its last character. -/
theorem isInside_append_of_last {start after : List Char} {last : Char} (hlast : last ∉ after)
    (before : List Char) :
    isInside (start ++ [last]) (before ++ after) = isInside (start ++ [last]) before := by
  induction before with
  | nil =>
      -- Nothing of the marker fits into a text without its last character.
      have hnone : isInside (start ++ [last]) after = false := by
        rw [Bool.eq_false_iff, Ne, isInside_iff]
        rintro ⟨before, rest, rfl⟩
        simp at hlast
      simp [hnone, isInside]
  | cons c cs ih =>
      have hstart : (start ++ [last]).isPrefixOf (c :: (cs ++ after)) =
          (start ++ [last]).isPrefixOf (c :: cs) :=
        isPrefixOf_append_of_last hlast (c :: cs)
      rw [List.cons_append, isInside, isInside, hstart, ih]

end Joints

section First

theorem splitFirst?_eq_none_iff {text : List Char} :
    splitFirst? marker text = none ↔ isInside marker text = false := by
  induction text with
  | nil => simp [splitFirst?, isInside]
  | cons c rest ih =>
      cases hleads : marker.isPrefixOf? (c :: rest) with
      | some after =>
          have hinside : marker.isPrefixOf (c :: rest) = true :=
            List.isPrefixOf_iff_prefix.2 ⟨after, (isPrefixOf?_eq_some.1 hleads).symm⟩
          simp [splitFirst?, isInside, hleads, hinside]
      | none => simp [splitFirst?, isInside, hleads, isPrefixOf?_eq_none_iff.1 hleads, ih]

/-- A marker that does not repeat its first character is found where it stands, if it is not
inside what comes before. -/
theorem splitFirst?_marker {first : Char} {rest before : List Char} (hfirst : first ∉ rest)
    (hbefore : isInside (first :: rest) before = false) (after : List Char) :
    splitFirst? (first :: rest) (before ++ (first :: rest) ++ after) = some (before, after) := by
  induction before with
  | nil =>
      have hfound : (first :: rest).isPrefixOf? (first :: (rest ++ after)) = some after :=
        isPrefixOf?_eq_some.2 rfl
      simp [splitFirst?, hfound]
  | cons c cs ih =>
      rw [isInside, Bool.or_eq_false_iff] at hbefore
      have hnone : (first :: rest).isPrefixOf? (c :: (cs ++ (first :: rest) ++ after)) = none := by
        rw [isPrefixOf?_eq_none_iff, Bool.eq_false_iff, Ne, List.isPrefixOf_iff_prefix]
        rintro ⟨beyond, heq⟩
        rw [List.append_assoc, ← List.cons_append, List.append_eq_append_iff] at heq
        rcases heq with ⟨middle, htext, _⟩ | ⟨middle, hmarker, htail⟩
        · -- The marker would be at the start of what comes before.
          rw [htext] at hbefore
          exact absurd hbefore.1 (by simp [List.isPrefixOf_iff_prefix])
        · -- The marker would have its first character again where it stands.
          cases middle with
          | nil =>
              rw [List.append_nil] at hmarker
              rw [← hmarker] at hbefore
              exact absurd hbefore.1 (by simp)
          | cons m ms =>
              obtain ⟨rfl, -⟩ := List.cons.inj htail
              obtain ⟨-, rfl⟩ := List.cons.inj hmarker
              simp at hfirst
      rw [List.cons_append, List.cons_append, splitFirst?, hnone, ih hbefore.2]
      rfl

end First

section Last

theorem splitLast?_eq_none_iff {text : List Char} :
    splitLast? marker text = none ↔ isInside marker text = false := by
  induction text with
  | nil => simp [splitLast?, isInside]
  | cons c rest ih =>
      cases hlater : splitLast? marker rest with
      | some sides =>
          have hinside := mt ih.2 (by simp [hlater])
          simp [splitLast?, isInside, hlater, hinside]
      | none => simp [splitLast?, isInside, hlater, ih.1 hlater, isPrefixOf?_eq_none_iff]

/-- The last occurrence in a text stays the last one when something is put in front. -/
theorem splitLast?_append {text : List Char} {sides : List Char × List Char}
    (hsides : splitLast? marker text = some sides) (before : List Char) :
    splitLast? marker (before ++ text) = some (before ++ sides.1, sides.2) := by
  induction before with
  | nil => simp [hsides]
  | cons c cs ih => simp [splitLast?, ih]

/-- A marker is found where it stands, if it does not begin again behind its first character. -/
theorem splitLast?_marker {after : List Char} (hmarker : marker ≠ [])
    (hlater : isInside marker (marker.tail ++ after) = false) (before : List Char) :
    splitLast? marker (before ++ marker ++ after) = some (before, after) := by
  have hhere : splitLast? marker (marker ++ after) = some ([], after) := by
    cases marker with
    | nil => exact absurd rfl hmarker
    | cons first rest =>
        have hfound : (first :: rest).isPrefixOf? (first :: (rest ++ after)) = some after :=
          isPrefixOf?_eq_some.2 rfl
        rw [List.tail_cons] at hlater
        simp [splitLast?, splitLast?_eq_none_iff.2 hlater, hfound]
  rw [List.append_assoc, splitLast?_append hhere before, List.append_nil]

/-- The part of a text after the last occurrence of a marker, which is the shortest one after any
occurrence; the whole text where there is none. -/
def IsAfterLast (marker text after : List Char) : Prop :=
  (isInside marker text = false ∧ after = text) ∨
    (∃ before, text = before ++ marker ++ after) ∧
      ∀ before other, text = before ++ marker ++ other → after.length ≤ other.length

theorem isAfterLast_of_splitLast? {text before after : List Char}
    (hsides : splitLast? marker text = some (before, after)) : IsAfterLast marker text after := by
  refine Or.inr ⟨⟨before, splitLast?_eq_some hsides⟩, ?_⟩
  rintro front other rfl
  -- The search also finds an occurrence in what starts with the other one.
  cases hlast : splitLast? marker (marker ++ other) with
  | none =>
      rw [splitLast?_eq_none_iff, Bool.eq_false_iff, Ne, isInside_iff] at hlast
      exact absurd ⟨[], other, rfl⟩ hlast
  | some sides =>
      rw [List.append_assoc, splitLast?_append hlast front, Option.some.injEq,
        Prod.mk.injEq] at hsides
      have hlength := congrArg List.length (splitLast?_eq_some hlast)
      simp only [List.length_append] at hlength
      rw [← hsides.2]
      omega

end Last

end Text
end HeaderBindings
