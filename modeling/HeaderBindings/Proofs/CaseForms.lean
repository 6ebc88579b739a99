import HeaderBindings.Target.Naming

/-!
# Characters without letter case

Most characters have nothing to do with letter case: no entry of the two case tables leads from
them or to them.  Such a character is found in a capitalised word, and in a name in one word,
exactly where the word or the name has it.

**Tables.**  A table *avoids* some ranges of codes if no code of them has a form or is part of
one (`AvoidsCodes`).  A range and a run of a table are compared by their ends, so that this is
decided from the table alone.

**Results.**
* `AvoidsCodes.mem_caseForm_iff`: a character with such a code is the form of itself only.
* `Target.mem_pascalCase_iff`: a character without letter case in a name in one word.
* `Text.isCaseless_of_separator`: the slash and `_` are such characters.
-/

namespace HeaderBindings

section Tables

/-- The code of a character that is not NUL. -/
theorem eq_toNat_of_ofNat_eq {code : Nat} {c : Char} (hc : c ≠ '\x00')
    (h : Char.ofNat code = c) : code = c.toNat := by
  have hcode := congrArg Char.toNat h
  by_cases hvalid : code.isValidChar
  · rw [Char.ofNat, dif_pos hvalid] at hcode
    exact hcode
  · rw [Char.ofNat, dif_neg hvalid] at h
    exact absurd h.symm hc

/-- The codes from the first to the last of a range. -/
structure CodeRange where
  first : Nat
  last : Nat

/-- A table of case forms in which the codes of some ranges neither have a form nor are part of
one. -/
structure AvoidsCodes (ranges : List CodeRange) (special : List (Nat × List Nat))
    (runs : List Text.CaseRun) : Prop where
  special_source : ∀ entry ∈ special, ∀ range ∈ ranges,
    entry.1 < range.first ∨ range.last < entry.1
  special_form : ∀ entry ∈ special, ∀ code ∈ entry.2, ∀ range ∈ ranges,
    code < range.first ∨ range.last < code
  run_source : ∀ run ∈ runs, ∀ range ∈ ranges,
    run.last < range.first ∨ range.last < run.first
  run_form : ∀ run ∈ runs, ∀ range ∈ ranges,
    (run.last + run.shift : Int) < range.first ∨ (range.last : Int) < run.first + run.shift

/-- A character with such a code is in the form of no character but itself. -/
theorem AvoidsCodes.mem_caseForm_iff {ranges : List CodeRange}
    {special : List (Nat × List Nat)} {runs : List Text.CaseRun}
    (havoids : AvoidsCodes ranges special runs) {mark : Char} {range : CodeRange}
    (hrange : range ∈ ranges) (hfirst : range.first ≤ mark.toNat)
    (hlast : mark.toNat ≤ range.last) (hnul : mark ≠ '\x00') (c : Char) :
    mark ∈ Text.caseForm special runs c ↔ c = mark := by
  unfold Text.caseForm Text.moveBy
  cases hlookup : special.lookup c.toNat with
  | some form =>
      have hentry : (c.toNat, form) ∈ special := by
        obtain ⟨before, after, hspecial, _⟩ := List.lookup_eq_some_iff.1 hlookup
        simp [hspecial]
      refine iff_of_false ?_ ?_
      · intro hmem
        obtain ⟨code, hcode, hsame⟩ := List.mem_map.1 hmem
        rw [eq_toNat_of_ofNat_eq hnul hsame] at hcode
        have hform := havoids.special_form _ hentry _ hcode range hrange
        omega
      · rintro rfl
        have hsource := havoids.special_source _ hentry range hrange
        simp only at hsource
        omega
  | none =>
      cases hfind : runs.find? fun run => run.covers c.toNat with
      | none =>
          simp only [Option.map_none, List.mem_singleton]
          exact eq_comm
      | some run =>
          have hrun := List.mem_of_find?_eq_some hfind
          have hcovers := List.find?_some hfind
          simp only [Text.CaseRun.covers, Bool.and_eq_true, decide_eq_true_eq] at hcovers
          refine iff_of_false ?_ ?_
          · intro hmem
            simp only [Option.map_some, List.mem_singleton] at hmem
            have hcode := eq_toNat_of_ofNat_eq hnul hmem.symm
            have hform := havoids.run_form run hrun range hrange
            have hpositive : mark.toNat ≠ 0 := fun hzero => hnul (Char.toNat_inj.1 hzero)
            omega
          · rintro rfl
            have hsource := havoids.run_source run hrun range hrange
            omega

end Tables

namespace Text

section Caseless

/-- Whether a character is in the upper or lower case form of no character but itself. -/
structure IsCaseless (mark : Char) : Prop where
  mem_upper_iff : ∀ c, mark ∈ upper c ↔ c = mark
  mem_lower_iff : ∀ c, mark ∈ lower c ↔ c = mark

theorem isCaseless_of_avoidsCodes {ranges : List CodeRange}
    (hupper : AvoidsCodes ranges upperSpecial upperRuns)
    (hlower : AvoidsCodes ranges lowerSpecial lowerRuns) {mark : Char} (hnul : mark ≠ '\x00')
    (hmark : ∃ range ∈ ranges, range.first ≤ mark.toNat ∧ mark.toNat ≤ range.last) :
    IsCaseless mark := by
  obtain ⟨range, hrange, hfirst, hlast⟩ := hmark
  exact
    { mem_upper_iff := hupper.mem_caseForm_iff hrange hfirst hlast hnul
      mem_lower_iff := hlower.mem_caseForm_iff hrange hfirst hlast hnul }

/-- What paths and names are cut at has no letter case. -/
theorem isCaseless_of_separator {mark : Char} (hmark : mark = '/' ∨ mark = '_') :
    IsCaseless mark := by
  have hupper : AvoidsCodes [⟨0x2F, 0x2F⟩, ⟨0x5F, 0x5F⟩] upperSpecial upperRuns := by
    constructor <;> decide +kernel
  have hlower : AvoidsCodes [⟨0x2F, 0x2F⟩, ⟨0x5F, 0x5F⟩] lowerSpecial lowerRuns := by
    constructor <;> decide +kernel
  rcases hmark with rfl | rfl
  · exact isCaseless_of_avoidsCodes hupper hlower (by decide) (by decide)
  · exact isCaseless_of_avoidsCodes hupper hlower (by decide) (by decide)

theorem isCaseless_slash : IsCaseless '/' := isCaseless_of_separator (Or.inl rfl)

theorem isCaseless_underscore : IsCaseless '_' := isCaseless_of_separator (Or.inr rfl)

/-- Capitalising a word neither makes nor loses a character without letter case. -/
theorem IsCaseless.mem_capitalize_iff {mark : Char} (hmark : IsCaseless mark)
    (word : List Char) : mark ∈ capitalize word ↔ mark ∈ word := by
  cases word with
  | nil => rfl
  | cons first rest =>
      simp only [capitalize, List.mem_append, List.mem_flatMap, hmark.mem_upper_iff,
        hmark.mem_lower_iff, exists_eq_right, List.mem_cons]
      exact or_congr_left eq_comm

end Caseless

end Text

/-- A name in one word has the characters without letter case that the name has, except `_`. -/
theorem Target.mem_pascalCase_iff {mark : Char} (hmark : Text.IsCaseless mark)
    (name : List Char) : mark ∈ pascalCase name ↔ mark ∈ name ∧ mark ≠ '_' := by
  have hwords : mark ∈ pascalCase name ↔ mark ∈ (Text.splitOn '_' name).flatten := by
    simp only [pascalCase, List.mem_flatMap, List.mem_flatten, hmark.mem_capitalize_iff]
  rw [hwords, Text.flatten_splitOn, List.mem_filter, decide_eq_true_iff]

end HeaderBindings
