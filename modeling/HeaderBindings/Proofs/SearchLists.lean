import HeaderBindings.Proofs.Occurrences
import HeaderBindings.SearchList
import Mathlib.Data.List.Basic
import Mathlib.Data.List.TakeWhile

/-!
# Search lists are read back

A compiler prints its include directories one on a line between two markers, among text of all
sorts.  What is read from its output are the directories that it printed.

**Printed lists.**  A `Directory` is a name that can be told from what stands around it, and a
`Line` has one or none, with white space on its two sides.  A carriage return before the end of
a line is such white space.

**Method.**  Neither marker can stand across the end of a line, nor reach into white space, so
neither occurs in printed lines (`isInside_printed`); that settles the part of the output that
is looked at.  The lines of a text without the white space around them and without empty ones
are put together from those of its parts (`contents_append_feed`).

**Results.**
* `SearchList.listed_of_end`, `SearchList.listed_of_no_end`: the part between the markers.
* `SearchList.contents_printed`: the directories in printed lines.
* `SearchList.directories_recovered`: what is read are the directories that were printed.
-/

namespace HeaderBindings

namespace Text

section Trimming

/-- White space inside a line. -/
def IsMargin (text : List Char) : Prop :=
  ∀ c ∈ text, isBlank c = true ∧ c ≠ '\n'

theorem IsMargin.not_mem {margin : List Char} (hmargin : IsMargin margin) {c : Char}
    (hdark : isBlank c = false) : c ∉ margin := by
  intro hmem
  exact absurd (hmargin c hmem).1 (by simp [hdark])

theorem IsMargin.feed_not_mem {margin : List Char} (hmargin : IsMargin margin) : '\n' ∉ margin :=
  fun hmem => (hmargin _ hmem).2 rfl

instance (text : List Char) : Decidable (IsMargin text) :=
  decidable_of_iff ((text.all fun c => isBlank c && c ≠ '\n') = true) (by simp [IsMargin])

/-- A piece of text that neither begins nor ends with white space. -/
structure IsTight (text : List Char) : Prop where
  nonempty : text ≠ []
  head_dark : ∀ c ∈ text.head?, isBlank c = false
  last_dark : ∀ c ∈ text.getLast?, isBlank c = false

theorem isTight_iff {text : List Char} :
    IsTight text ↔
      text ≠ [] ∧ (text.head?.all fun c => !isBlank c) = true ∧
        (text.getLast?.all fun c => !isBlank c) = true := by
  simp only [Option.all_eq_true, Bool.not_eq_true']
  exact ⟨fun h => ⟨h.nonempty, h.head_dark, h.last_dark⟩, fun h => ⟨h.1, h.2.1, h.2.2⟩⟩

instance (text : List Char) : Decidable (IsTight text) :=
  decidable_of_iff _ isTight_iff.symm

theorem dropWhile_isBlank_append {blanks name : List Char}
    (hblanks : ∀ c ∈ blanks, isBlank c = true) (hname : ∀ c ∈ name.head?, isBlank c = false) :
    (blanks ++ name).dropWhile isBlank = name := by
  rw [List.dropWhile_append_of_pos hblanks]
  cases name with
  | nil => rfl
  | cons c cs =>
      have hdark : isBlank c = false := hname c rfl
      rw [List.dropWhile_cons_of_neg (by simp [hdark])]

theorem trimRight_append {name blanks : List Char} (hname : ∀ c ∈ name.getLast?, isBlank c = false)
    (hblanks : ∀ c ∈ blanks, isBlank c = true) : trimRight (name ++ blanks) = name := by
  rw [trimRight, List.reverse_append, dropWhile_isBlank_append, List.reverse_reverse]
  · simpa using hblanks
  · simpa using hname

/-- White space on the two sides of a name is taken off. -/
theorem trim_tight {left name right : List Char} (hleft : IsMargin left) (hright : IsMargin right)
    (hname : IsTight name) : trim (left ++ name ++ right) = name := by
  have hstart : ∀ c ∈ (name ++ right).head?, isBlank c = false := by
    rw [List.head?_append_of_ne_nil name hname.nonempty]
    exact hname.head_dark
  rw [trim, List.append_assoc, dropWhile_isBlank_append (fun c hc => (hleft c hc).1) hstart,
    trimRight_append hname.last_dark fun c hc => (hright c hc).1]

theorem trim_blank {text : List Char} (hblank : ∀ c ∈ text, isBlank c = true) : trim text = [] := by
  rw [trim, List.dropWhile_eq_nil_iff.2 hblank]
  rfl

/-- White space at the end of a text makes no difference to what is left of it. -/
theorem trim_append_blank (text : List Char) {c : Char} (hblank : isBlank c = true) :
    trim (text ++ [c]) = trim text := by
  rw [trim, trim, List.dropWhile_append]
  split
  · next hempty =>
      rw [List.isEmpty_iff.1 hempty, List.dropWhile_cons_of_pos hblank]
      rfl
  · rw [trimRight, List.reverse_append, List.reverse_singleton, List.singleton_append,
      List.dropWhile_cons_of_pos hblank, ← trimRight]

theorem trim_dropReturn (line : List Char) : trim (dropReturn line) = trim line := by
  unfold dropReturn
  split
  · next hlast =>
      obtain ⟨start, rfl⟩ := List.getLast?_eq_some_iff.1 hlast
      rw [List.dropLast_concat, trim_append_blank start (by decide)]
  · rfl

end Trimming

section Contents

/-- The lines of a text without the white space around them, except for those that are empty
then. -/
def contents (text : List Char) : List (List Char) :=
  ((lines text).map trim).filter fun line => line ≠ []

/-- How a line ends makes no difference to what is in it, nor does a line feed at the end of the
text. -/
theorem contents_eq_splitOn (text : List Char) :
    contents text = ((splitOn '\n' text).map trim).filter fun line => line ≠ [] := by
  have hsplit := (List.dropLast_concat_getLast (splitOn_ne_nil '\n' text)).symm
  have hreturn : trim ∘ dropReturn = trim := funext trim_dropReturn
  unfold contents lines
  generalize (splitOn '\n' text).getLast (splitOn_ne_nil '\n' text) = last at hsplit
  simp only
  rw [hsplit, List.dropLast_concat, List.getLast?_concat]
  split
  · next hempty =>
      obtain rfl := Option.some.inj hempty
      simp [hreturn, trim, trimRight]
  · simp [hreturn]

/-- What is in a text is in the part before a line feed or in the part after it. -/
theorem contents_append_feed (before after : List Char) :
    contents (before ++ '\n' :: after) = contents before ++ contents after := by
  simp only [contents_eq_splitOn, splitOn_append_cons, List.map_append, List.filter_append]

theorem contents_of_line {line : List Char} (hfeed : '\n' ∉ line) :
    contents line = if trim line = [] then [] else [trim line] := by
  rw [contents_eq_splitOn, splitOn_of_not_mem hfeed]
  split <;> simp [*]

end Contents

end Text

namespace SearchList

section Printing

/-- A directory with a name that can be told from what is printed around it. -/
structure Directory where
  name : String
  tight : Text.IsTight name.toList
  one_line : '\n' ∉ name.toList
  no_start : Text.isInside startMarker name.toList = false
  no_end : Text.isInside endMarker name.toList = false

/-- The path that is read for a directory. -/
def Directory.path (directory : Directory) : Path :=
  ⟨directory.name⟩

/-- A line of a printed list: a directory, or none, with white space on its two sides. -/
structure Line where
  left : List Char := []
  directory : Option Directory := none
  right : List Char := []
  left_margin : Text.IsMargin left := by decide
  right_margin : Text.IsMargin right := by decide

/-- The line with nothing in it. -/
def Line.empty : Line where

/-- What stands in a line between the white space. -/
def Line.content (line : Line) : List Char :=
  match line.directory with
  | some directory => directory.name.toList
  | none => []

/-- A line as it is printed, without its end. -/
def Line.text (line : Line) : List Char :=
  line.left ++ line.content ++ line.right

/-- Printed lines. -/
def printed (lines : List Line) : List Char :=
  lines.flatMap fun line => line.text ++ ['\n']

/-- The directories of some lines, in order. -/
def directoriesOf (lines : List Line) : List Directory :=
  lines.filterMap Line.directory

theorem printed_cons (line : Line) (lines : List Line) :
    printed (line :: lines) = line.text ++ '\n' :: printed lines := by
  simp [printed]

theorem Line.feed_not_mem (line : Line) : '\n' ∉ line.text := by
  have hcontent : '\n' ∉ line.content := by
    unfold content
    split
    · next directory _ => exact directory.one_line
    · simp
  simp [text, hcontent, line.left_margin.feed_not_mem, line.right_margin.feed_not_mem]

end Printing

section Contents

/-- A line has its directory in it, and nothing else. -/
theorem Line.contents_text (line : Line) :
    Text.contents line.text = line.directory.toList.map fun directory => directory.name.toList := by
  rw [Text.contents_of_line line.feed_not_mem]
  cases hdirectory : line.directory with
  | none =>
      have hblank : ∀ c ∈ line.text, Text.isBlank c = true := by
        intro c hc
        simp only [text, content, hdirectory, List.append_nil, List.mem_append] at hc
        exact hc.elim (fun hleft => (line.left_margin c hleft).1)
          fun hright => (line.right_margin c hright).1
      simp [Text.trim_blank hblank]
  | some directory =>
      have htrim : Text.trim line.text = directory.name.toList := by
        rw [text, content, hdirectory]
        exact Text.trim_tight line.left_margin line.right_margin directory.tight
      simp only [htrim, if_neg directory.tight.nonempty]
      rfl

/-- The directories in printed lines, the last of which need not be ended. -/
theorem contents_printed (lines : List Line) (last : Line) :
    Text.contents (printed lines ++ last.text) =
      (directoriesOf (lines ++ [last])).map fun directory => directory.name.toList := by
  induction lines with
  | nil =>
      rw [printed, List.flatMap_nil, List.nil_append, last.contents_text]
      cases hlast : last.directory <;> simp [directoriesOf, hlast]
  | cons line lines ih =>
      rw [printed_cons, List.append_assoc, List.cons_append, Text.contents_append_feed, ih,
        line.contents_text]
      cases hline : line.directory <;> simp [directoriesOf, hline]

end Contents

section Markers

variable {marker : List Char}

/-- A marker that begins and ends with something does not reach into white space. -/
theorem isInside_text (hmarker : Text.IsTight marker) (line : Line) :
    Text.isInside marker line.text = Text.isInside marker line.content := by
  have hright : Text.isInside marker line.text =
      Text.isInside marker (line.left ++ line.content) := by
    rw [Line.text, ← List.dropLast_concat_getLast hmarker.nonempty]
    refine Text.isInside_append_of_last (line.right_margin.not_mem ?_) _
    exact hmarker.last_dark _ (List.getLast_mem_getLast? hmarker.nonempty)
  rw [hright]
  obtain ⟨first, rest, rfl⟩ := List.exists_cons_of_ne_nil hmarker.nonempty
  exact Text.isInside_append_of_head (line.left_margin.not_mem (hmarker.head_dark first rfl)) _

/-- A marker without a line feed that is in no directory is not in printed lines. -/
theorem isInside_printed (hmarker : Text.IsTight marker) (hfeed : '\n' ∉ marker)
    (hclear : ∀ directory : Directory, Text.isInside marker directory.name.toList = false)
    (lines : List Line) (last : Line) :
    Text.isInside marker (printed lines ++ last.text) = false := by
  have hline (line : Line) : Text.isInside marker line.text = false := by
    rw [isInside_text hmarker, Line.content]
    split
    · next directory _ => exact hclear directory
    · exact Text.isInside_nil hmarker.nonempty
  induction lines with
  | nil => exact hline last
  | cons line lines ih =>
      rw [printed_cons, List.append_assoc, List.cons_append,
        Text.isInside_append_cons hmarker.nonempty hfeed, hline, ih, Bool.false_or]

/-- The same with the line feed after the start marker. -/
theorem isInside_feed_printed (hmarker : Text.IsTight marker) (hfeed : '\n' ∉ marker)
    (hclear : ∀ directory : Directory, Text.isInside marker directory.name.toList = false)
    (lines : List Line) (last : Line) :
    Text.isInside marker ('\n' :: (printed lines ++ last.text)) = false := by
  rw [← List.nil_append ('\n' :: _), Text.isInside_append_cons hmarker.nonempty hfeed,
    Text.isInside_nil hmarker.nonempty, isInside_printed hmarker hfeed hclear, Bool.false_or]

theorem isTight_startMarker : Text.IsTight startMarker := by
  decide +kernel

theorem isTight_endMarker : Text.IsTight endMarker := by
  decide +kernel

end Markers

section Listed

theorem startMarker_eq : startMarker = '#' :: startMarker.tail := by
  decide +kernel

theorem endMarker_eq : endMarker = 'E' :: endMarker.tail := by
  decide +kernel

/-- A start marker does not begin in a text without a `#`. -/
theorem isInside_startMarker_append {before : List Char} (hbefore : '#' ∉ before)
    (after : List Char) :
    Text.isInside startMarker (before ++ after) = Text.isInside startMarker after := by
  rw [startMarker_eq]
  exact Text.isInside_append_of_head hbefore after

/-- What follows a start marker is found, if there is no start marker in it. -/
theorem splitLast?_startMarker {after : List Char}
    (hafter : Text.isInside startMarker after = false) (preamble : List Char) :
    Text.splitLast? startMarker (preamble ++ startMarker ++ after) = some (preamble, after) := by
  refine Text.splitLast?_marker isTight_startMarker.nonempty ?_ preamble
  rw [isInside_startMarker_append (by decide +kernel), hafter]

/-- A list is found between the markers, wherever they stand in the text before it. -/
theorem listed_of_end {list trailer : List Char}
    (hstart : Text.isInside startMarker list = false)
    (hend : Text.isInside endMarker list = false)
    (htrailer : Text.isInside startMarker trailer = false) (preamble : List Char) :
    listed (preamble ++ startMarker ++ (list ++ endMarker ++ trailer)) = some list := by
  -- A start marker has no `E` in it, so it does not cross into the end marker, which has no `#`.
  have hafter : Text.isInside startMarker (list ++ endMarker ++ trailer) = false := by
    rw [endMarker_eq, List.append_assoc, List.cons_append,
      Text.isInside_append_cons isTight_startMarker.nonempty (by decide +kernel), hstart,
      Bool.false_or, isInside_startMarker_append (by decide +kernel), htrailer]
  have hfirst : Text.splitFirst? endMarker (list ++ endMarker ++ trailer) =
      some (list, trailer) := by
    rw [endMarker_eq] at hend ⊢
    exact Text.splitFirst?_marker (by decide +kernel) hend trailer
  rw [listed, splitLast?_startMarker hafter]
  simp only [hfirst]

/-- A list without an end marker goes on to the end. -/
theorem listed_of_no_end {list : List Char} (hstart : Text.isInside startMarker list = false)
    (hend : Text.isInside endMarker list = false) (preamble : List Char) :
    listed (preamble ++ startMarker ++ list) = some list := by
  rw [listed, splitLast?_startMarker hstart]
  simp only [Text.splitFirst?_eq_none_iff.2 hend]

end Listed

section Reading

/-- The paths that are read if the part between the markers is known. -/
theorem parse_of_listed {output list : List Char} (hlisted : listed output = some list)
    {lines : List Line} {last : Line} (hlist : list = '\n' :: (printed lines ++ last.text)) :
    parse (String.ofList output) = (directoriesOf (lines ++ [last])).map Directory.path := by
  have hcontents : directories output =
      (directoriesOf (lines ++ [last])).map fun directory => directory.name.toList := by
    have hread : directories output = Text.contents list := by
      simp only [directories, hlisted]
      rfl
    rw [hread, hlist, ← List.nil_append ('\n' :: _), Text.contents_append_feed, contents_printed]
    rfl
  rw [parse, String.toList_ofList, hcontents, List.map_map]
  refine List.map_congr_left fun directory _ => ?_
  simp [Directory.path]

/-- **Printed directories are read back.**  Take any text before the start marker, any lines with
directories of which none holds a marker, and any text without a start marker after the end
marker.  What is read are the directories of the lines, in order.  It makes no difference if the
end marker and what follows are missing, or if the last line is not ended then. -/
theorem directories_recovered (preamble trailer : List Char) (lines : List Line) (last : Line)
    (htrailer : Text.isInside startMarker trailer = false) :
    parse (String.ofList
        (preamble ++ startMarker ++ ('\n' :: printed lines ++ endMarker ++ trailer))) =
      (directoriesOf lines).map Directory.path ∧
    parse (String.ofList (preamble ++ startMarker ++ '\n' :: printed lines)) =
      (directoriesOf lines).map Directory.path ∧
    parse (String.ofList (preamble ++ startMarker ++ '\n' :: (printed lines ++ last.text))) =
      (directoriesOf (lines ++ [last])).map Directory.path := by
  have hstart := isInside_feed_printed isTight_startMarker (by decide +kernel)
    (fun directory => directory.no_start) lines
  have hend := isInside_feed_printed isTight_endMarker (by decide +kernel)
    (fun directory => directory.no_end) lines
  -- Lines that are all ended are followed by an empty one.
  have hlines : printed lines = printed lines ++ Line.empty.text := by
    simp [Line.text, Line.content, Line.empty]
  have hsame : directoriesOf lines = directoriesOf (lines ++ [Line.empty]) := by
    simp [directoriesOf, Line.empty]
  refine ⟨?_, ?_, parse_of_listed (listed_of_no_end (hstart last) (hend last) preamble) rfl⟩
  · rw [hlines, hsame]
    exact parse_of_listed (listed_of_end (hstart _) (hend _) htrailer preamble) rfl
  · rw [hlines, hsame]
    exact parse_of_listed (listed_of_no_end (hstart _) (hend _) preamble) rfl

/-- A directory whose name is almost an end marker. -/
def trickyDirectory : Directory where
  name := "/opt/End of search list"
  tight := by decide +kernel
  one_line := by decide +kernel
  no_start := by decide +kernel
  no_end := by decide +kernel

/-- Lines that end in several ways, one of them blank. -/
def trickyLines : List Line :=
  [{ left := [' '], directory := some trickyDirectory, right := ['\t', '\r'] },
    { left := ['\u00a0', '\r'] }]

/-- An output with an earlier list and with end markers on both sides of the list that counts. -/
theorem directories_recovered_tricky :
    let preamble := startMarker ++ "\n /old\nEnd of search list.\n".toList
    let trailer := "\n# 1 \"<stdin>\"\nEnd of search list.\n".toList
    Text.isInside startMarker trailer = false ∧
      parse (String.ofList
        (preamble ++ startMarker ++ ('\n' :: printed trickyLines ++ endMarker ++ trailer))) =
          [⟨"/opt/End of search list"⟩] := by
  intro preamble trailer
  have htrailer : Text.isInside startMarker trailer = false := by decide +kernel
  exact ⟨htrailer, (directories_recovered preamble trailer trickyLines .empty htrailer).1⟩

end Reading

end SearchList
end HeaderBindings
