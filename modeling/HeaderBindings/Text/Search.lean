/-!
# Searching and splitting text

Text is handled as a list of characters.  A *marker* is a piece of text that is
looked for inside another one.

**Results.**
* `splitFirst?_eq_some`: what `splitFirst?` returns are the two sides of an
  occurrence of the marker.
* `splitLast?_eq_some`: the same for `splitLast?`.
* `isInside_iff`: a marker is inside a text exactly when the text is something
  around it.
* `splitOn_join`: joining the pieces of a text gives the text back.
* `splitOn_join_of_not_mem`: pieces without the separator are found again in what they are
  joined to.
* `flatten_splitOn`: the pieces of a text are the text without the separators.
* `join_eq_intercalate`: pieces are joined as lists are.
-/

namespace HeaderBindings
namespace Text

section Markers

/-- The two sides of the first occurrence of a marker. -/
def splitFirst? (marker : List Char) : List Char → Option (List Char × List Char)
  | [] => if marker.isEmpty then some ([], []) else none
  | c :: rest =>
      match marker.isPrefixOf? (c :: rest) with
      | some after => some ([], after)
      | none => (splitFirst? marker rest).map fun sides => (c :: sides.1, sides.2)

/-- The two sides of the last occurrence of a marker. -/
def splitLast? (marker : List Char) : List Char → Option (List Char × List Char)
  | [] => if marker.isEmpty then some ([], []) else none
  | c :: rest =>
      match splitLast? marker rest with
      | some sides => some (c :: sides.1, sides.2)
      | none => (marker.isPrefixOf? (c :: rest)).map fun after => ([], after)

/-- Whether a marker occurs in a text. -/
def isInside (marker : List Char) : List Char → Bool
  | [] => marker.isEmpty
  | c :: rest => marker.isPrefixOf (c :: rest) || isInside marker rest

theorem isPrefixOf?_eq_some {marker text after : List Char} :
    marker.isPrefixOf? text = some after ↔ text = marker ++ after := by
  induction marker generalizing text with
  | nil =>
      change some text = some after ↔ text = after
      simp
  | cons m ms ih =>
      cases text with
      | nil =>
          change none = some after ↔ [] = m :: (ms ++ after)
          simp
      | cons c cs =>
          have hstep : (m :: ms).isPrefixOf? (c :: cs) =
              if m == c then ms.isPrefixOf? cs else none := rfl
          by_cases h : m = c
          · subst h
            simp [hstep, ih]
          · simp [hstep, h, Ne.symm h]

theorem splitFirst?_eq_some {marker text before after : List Char}
    (h : splitFirst? marker text = some (before, after)) :
    text = before ++ marker ++ after := by
  induction text generalizing before with
  | nil =>
      unfold splitFirst? at h
      split at h
      · simp_all
      · simp at h
  | cons c rest ih =>
      unfold splitFirst? at h
      split at h
      · next sides hs =>
          simp only [Option.some.injEq, Prod.mk.injEq] at h
          obtain ⟨rfl, rfl⟩ := h
          simpa using isPrefixOf?_eq_some.1 hs
      · obtain ⟨sides, hs, he⟩ := Option.map_eq_some_iff.1 h
        simp only [Prod.mk.injEq] at he
        obtain ⟨rfl, rfl⟩ := he
        simp [ih hs]

theorem splitLast?_eq_some {marker text before after : List Char}
    (h : splitLast? marker text = some (before, after)) :
    text = before ++ marker ++ after := by
  induction text generalizing before with
  | nil =>
      unfold splitLast? at h
      split at h
      · simp_all
      · simp at h
  | cons c rest ih =>
      unfold splitLast? at h
      split at h
      · next sides hs =>
          simp only [Option.some.injEq, Prod.mk.injEq] at h
          obtain ⟨rfl, rfl⟩ := h
          simp [ih hs]
      · obtain ⟨rest', hs, he⟩ := Option.map_eq_some_iff.1 h
        simp only [Prod.mk.injEq] at he
        obtain ⟨rfl, rfl⟩ := he
        simpa using isPrefixOf?_eq_some.1 hs

theorem isInside_iff {marker text : List Char} :
    isInside marker text = true ↔ ∃ before after, text = before ++ marker ++ after := by
  induction text with
  | nil => simp [isInside, List.isEmpty_iff]
  | cons c rest ih =>
      simp only [isInside, Bool.or_eq_true, List.isPrefixOf_iff_prefix, ih]
      constructor
      · rintro (⟨after, h⟩ | ⟨before, after, h⟩)
        · exact ⟨[], after, by simp [h]⟩
        · exact ⟨c :: before, after, by simp [h]⟩
      · rintro ⟨before, after, h⟩
        cases before with
        | nil => exact Or.inl ⟨after, by simpa using h.symm⟩
        | cons b bs =>
            simp only [List.cons_append, List.cons.injEq] at h
            exact Or.inr ⟨bs, after, h.2⟩

end Markers

section Pieces

/-- The pieces of a text between the occurrences of a separator, empty ones included. -/
def splitOn (separator : Char) : List Char → List (List Char)
  | [] => [[]]
  | c :: rest =>
      if c = separator then [] :: splitOn separator rest
      else
        match splitOn separator rest with
        | [] => [[c]]
        | piece :: pieces => (c :: piece) :: pieces

/-- Pieces put together with a separator text between them. -/
def join (separator : List Char) : List (List Char) → List Char
  | [] => []
  | [piece] => piece
  | piece :: next :: pieces => piece ++ separator ++ join separator (next :: pieces)

theorem splitOn_ne_nil (separator : Char) (text : List Char) : splitOn separator text ≠ [] := by
  cases text with
  | nil => simp [splitOn]
  | cons c rest =>
      unfold splitOn
      split
      · simp
      · split <;> simp

theorem splitOn_join (separator : Char) (text : List Char) :
    join [separator] (splitOn separator text) = text := by
  induction text with
  | nil => rfl
  | cons c rest ih =>
      unfold splitOn
      split
      · next h =>
          subst h
          cases hs : splitOn c rest with
          | nil => exact absurd hs (splitOn_ne_nil c rest)
          | cons piece pieces => simp [join, ← hs, ih]
      · cases hs : splitOn separator rest with
        | nil => exact absurd hs (splitOn_ne_nil separator rest)
        | cons piece pieces =>
            rw [hs] at ih
            cases pieces with
            | nil => simpa [join] using ih
            | cons next more => simpa [join] using ih

/-- A text with a separator is split at the separator. -/
theorem splitOn_append_cons (separator : Char) (before after : List Char) :
    splitOn separator (before ++ separator :: after) =
      splitOn separator before ++ splitOn separator after := by
  induction before with
  | nil => simp [splitOn]
  | cons c before ih =>
      rw [List.cons_append, splitOn, splitOn, ih]
      split
      · rfl
      · cases hpieces : splitOn separator before with
        | nil => exact absurd hpieces (splitOn_ne_nil separator before)
        | cons piece pieces => rfl

/-- A text without the separator is one piece. -/
theorem splitOn_of_not_mem {separator : Char} {text : List Char} (h : separator ∉ text) :
    splitOn separator text = [text] := by
  induction text with
  | nil => rfl
  | cons c text ih =>
      rw [List.mem_cons, not_or] at h
      rw [splitOn, if_neg (Ne.symm h.1), ih h.2]

/-- A first piece without the separator is found again. -/
theorem splitOn_join_cons {separator : Char} {piece : List Char} (hclear : separator ∉ piece)
    (next : List Char) (pieces : List (List Char)) :
    splitOn separator (join [separator] (piece :: next :: pieces)) =
      piece :: splitOn separator (join [separator] (next :: pieces)) := by
  rw [join, List.append_assoc, List.singleton_append, splitOn_append_cons,
    splitOn_of_not_mem hclear]
  rfl

theorem splitOn_join_of_not_mem {separator : Char} {pieces : List (List Char)}
    (hpieces : pieces ≠ []) (hclear : ∀ piece ∈ pieces, separator ∉ piece) :
    splitOn separator (join [separator] pieces) = pieces := by
  induction pieces with
  | nil => exact absurd rfl hpieces
  | cons piece pieces ih =>
      have hpiece := hclear piece List.mem_cons_self
      cases pieces with
      | nil => exact splitOn_of_not_mem hpiece
      | cons next more =>
          have hlater := ih (by simp) fun later hlater =>
            hclear later (List.mem_cons_of_mem piece hlater)
          rw [splitOn_join_cons hpiece, hlater]

theorem flatten_splitOn (separator : Char) (text : List Char) :
    (splitOn separator text).flatten = text.filter fun c => c ≠ separator := by
  induction text with
  | nil => rfl
  | cons c rest ih =>
      unfold splitOn
      split
      · next h => simpa [h] using ih
      · next h =>
          cases hs : splitOn separator rest with
          | nil => exact absurd hs (splitOn_ne_nil separator rest)
          | cons piece pieces =>
              rw [hs] at ih
              simpa [h] using ih

theorem not_mem_of_mem_splitOn {separator : Char} {text piece : List Char}
    (hpiece : piece ∈ splitOn separator text) : separator ∉ piece := by
  intro hmem
  have hflat : separator ∈ (splitOn separator text).flatten :=
    List.mem_flatten.2 ⟨piece, hpiece, hmem⟩
  rw [flatten_splitOn] at hflat
  simp at hflat

theorem join_eq_intercalate (separator : List Char) (pieces : List (List Char)) :
    join separator pieces = separator.intercalate pieces := by
  induction pieces with
  | nil => rfl
  | cons piece rest ih =>
      cases rest with
      | nil => simp [join]
      | cons next more => rw [join, ih, List.intercalate_cons_cons]

/-- Pieces with the separator before each of them. -/
theorem flatMap_cons_eq_join (separator : Char) {pieces : List (List Char)}
    (hpieces : pieces ≠ []) :
    (pieces.flatMap fun piece => separator :: piece) = separator :: join [separator] pieces := by
  induction pieces with
  | nil => exact absurd rfl hpieces
  | cons piece pieces ih =>
      cases pieces with
      | nil => simp [join]
      | cons next more =>
          rw [List.flatMap_cons, ih (by simp)]
          simp [join]

/-- A line without the carriage return that may end it. -/
def dropReturn (line : List Char) : List Char :=
  if line.getLast? = some '\r' then line.dropLast else line

/-- The lines of a text: each ends at a line feed or at the end of the text, and a text that
ends with a line feed has no empty line after it. -/
def lines (text : List Char) : List (List Char) :=
  let pieces := splitOn '\n' text
  if pieces.getLast? = some [] then pieces.dropLast.map dropReturn
  else pieces.dropLast.map dropReturn ++ pieces.getLast?.toList

end Pieces

end Text
end HeaderBindings
