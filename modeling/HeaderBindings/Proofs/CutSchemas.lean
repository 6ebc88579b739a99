import HeaderBindings.Proofs.SchemaRoundTrip

/-!
# Schemas that were cut off

A schema file may be cut off while it is written.  What is left of it is never read as
a class: unless only the line feed at the end is missing, reading reports that the text
ends too early, and it reports nothing else first.

**Method.**  `BreaksOff reader json` says that a reader of some data meets the end of
the text on every cut of it, at every level of nesting and behind every gap.  A cut of
two texts is a cut of the first one, or all of the first one and a cut of the second
one (`IsCut.append`).  So each kind of data is taken apart as it is written: in the
first case its part breaks off, and in the second case the part is read as a whole,
which `Reads` says, and the rest breaks off.

**Results.**
* `stringBody_cut`: a quoted text breaks off at every character, also inside an escape.
* `breaksOff_list`, `breaksOff_record`: lists and tables break off if their parts do.
* `cut_schema_refused`: what becomes of a schema that was cut off.
-/

namespace HeaderBindings
namespace Reader

open Json

section Cuts

/-- Whether a text is what is left of another one that had more. -/
def IsCut (kept text : List Char) : Prop :=
  ∃ lost, lost ≠ [] ∧ text = kept ++ lost

theorem not_isCut_nil (kept : List Char) : ¬IsCut kept [] := by
  rintro ⟨lost, hlost, htext⟩
  exact hlost (List.append_eq_nil_iff.1 htext.symm).2

/-- A cut of two texts is a cut of the first one, or all of it and a cut of the second one. -/
theorem IsCut.append {kept first second : List Char} (hcut : IsCut kept (first ++ second)) :
    IsCut kept first ∨ ∃ more, kept = first ++ more ∧ IsCut more second := by
  obtain ⟨lost, hlost, htext⟩ := hcut
  rcases List.append_eq_append_iff.1 htext with ⟨more, hkept, hsecond⟩ | ⟨part, hfirst, hpart⟩
  · exact Or.inr ⟨more, hkept, lost, hlost, hsecond⟩
  · cases part with
    | nil => exact Or.inr ⟨[], by simpa using hfirst.symm, lost, hlost, by simpa using hpart.symm⟩
    | cons c part => exact Or.inl ⟨c :: part, by simp, hfirst⟩

theorem IsCut.cons {kept text : List Char} {c : Char} (hcut : IsCut kept (c :: text)) :
    kept = [] ∨ ∃ more, kept = c :: more ∧ IsCut more text := by
  cases kept with
  | nil => exact Or.inl rfl
  | cons d more =>
      obtain ⟨lost, hlost, htext⟩ := hcut
      rw [List.cons_append] at htext
      obtain ⟨rfl, htail⟩ := List.cons.inj htext
      exact Or.inr ⟨more, rfl, lost, hlost, htail⟩

theorem IsCut.singleton {kept : List Char} {c : Char} (hcut : IsCut kept [c]) : kept = [] := by
  rcases hcut.cons with hnil | ⟨more, -, hmore⟩
  · exact hnil
  · exact absurd hmore (not_isCut_nil more)

theorem skipGap_eq_nil {gap : List Char} (hgap : IsGap gap) : skipGap gap = [] := by
  have hall : (gap ++ []).dropWhile isGap = [] := List.dropWhile_append_of_pos hgap
  rwa [List.append_nil] at hall

/-- A text behind a gap is cut off in the gap, or after its first character. -/
theorem IsCut.behind {kept gap text : List Char} {c : Char} (hgap : IsGap gap)
    (hc : isGap c = false) (hcut : IsCut kept (gap ++ c :: text)) :
    skipGap kept = [] ∨ ∃ more, skipGap kept = c :: more ∧ IsCut more text := by
  rcases hcut.append with ⟨lost, -, hpart⟩ | ⟨more, rfl, hmore⟩
  · refine Or.inl (skipGap_eq_nil fun d hd => hgap d ?_)
    rw [hpart]
    exact List.mem_append_left _ hd
  · rcases hmore.cons with rfl | ⟨after, rfl, hafter⟩
    · rw [List.append_nil]
      exact Or.inl (skipGap_eq_nil hgap)
    · exact Or.inr ⟨after, skipGap_append hgap hc after, hafter⟩

end Cuts

section Characters

theorem stringBody_nil : stringBody [] = .error .endOfText := by
  rw [stringBody]

/-- A fault in an escape is the fault of the text. -/
theorem stringBody_of_fault {text : List Char} {fault : ReadFault}
    (h : escaped text = .error fault) : stringBody ('\\' :: text) = .error fault := by
  rw [stringBody]
  simp only [Char.reduceEq, ↓reduceIte]
  split
  · next other hother =>
      rw [h] at hother
      obtain rfl := Except.error.inj hother
      rfl
  · next value after hvalue =>
      rw [h] at hvalue
      simp at hvalue

theorem utf8Size_hexDigit {value : Nat} (h : value < 16) : (hexDigit value).utf8Size = 1 := by
  interval_cases value <;> decide

/-- Fewer than four digits in base 16 are no code unit, but the beginning of one. -/
theorem escaped_cut_digits {number : Nat} (h : number < 256) {kept : List Char}
    (hcut : IsCut kept ['0', '0', hexDigit (number / 16), hexDigit (number % 16)]) :
    escaped ('u' :: kept) = .error .endOfText := by
  have hhigh : (hexDigit (number / 16)).utf8Size = 1 := utf8Size_hexDigit (by omega)
  have hzero : '0'.utf8Size = 1 := by decide
  have hnone : letterEscape? 'u' = none := rfl
  have hbytes : bytesOfFour kept < 4 := by
    rcases hcut.cons with rfl | ⟨one, rfl, hone⟩
    · simp [bytesOfFour]
    rcases hone.cons with rfl | ⟨two, rfl, htwo⟩
    · simp [bytesOfFour, hzero]
    rcases htwo.cons with rfl | ⟨three, rfl, hthree⟩
    · simp [bytesOfFour, hzero]
    obtain rfl := hthree.singleton
    simp [bytesOfFour, hzero, hhigh]
  simp [escaped, hnone, unicodeEscape, codeUnit, hbytes]

/-- An escape breaks off wherever it is cut. -/
theorem stringBody_cut_escape {c : Char} {kept : List Char} (hcut : IsCut kept (escape c)) :
    stringBody kept = .error .endOfText := by
  -- The escape of a quote, a backslash or a named control has one letter.
  have hletter : ∀ letter : Char, IsCut kept ['\\', letter] →
      stringBody kept = .error .endOfText := by
    intro letter hshort
    rcases hshort.cons with rfl | ⟨more, rfl, hmore⟩
    · exact stringBody_nil
    · obtain rfl := hmore.singleton
      exact stringBody_of_fault rfl
  unfold escape at hcut
  split_ifs at hcut with _ _ _ _ _ _ _ hcontrol
  · exact hletter _ hcut
  · exact hletter _ hcut
  · exact hletter _ hcut
  · exact hletter _ hcut
  · exact hletter _ hcut
  · exact hletter _ hcut
  · exact hletter _ hcut
  · rcases hcut.cons with rfl | ⟨one, rfl, hone⟩
    · exact stringBody_nil
    rcases hone.cons with rfl | ⟨two, rfl, htwo⟩
    · exact stringBody_of_fault rfl
    · exact stringBody_of_fault (escaped_cut_digits (by omega) htwo)
  · obtain rfl := hcut.singleton
    exact stringBody_nil

/-- A quoted text breaks off wherever it is cut. -/
theorem stringBody_cut {value kept : List Char}
    (hcut : IsCut kept (value.flatMap escape ++ ['"'])) :
    stringBody kept = .error .endOfText := by
  induction value generalizing kept with
  | nil =>
      obtain rfl := hcut.singleton
      exact stringBody_nil
  | cons c value ih =>
      rw [List.flatMap_cons, List.append_assoc] at hcut
      rcases hcut.append with hfirst | ⟨more, rfl, hmore⟩
      · exact stringBody_cut_escape hfirst
      · rw [stringBody_escape, ih hmore]
        rfl

end Characters

section Data

variable {α : Type}

/-- Whether a reader meets the end of the text on every cut of the text of some data. -/
def BreaksOff (reader : Reader α) (json : Json) : Prop :=
  ∀ level gap kept, IsGap gap → IsCut kept (gap ++ renderAt level json) →
    reader.run kept = .error .endOfText

theorem readText_cut {value : String} {gap kept : List Char} (hgap : IsGap gap)
    (hcut : IsCut kept (gap ++ quote value)) : readText kept = .error .endOfText := by
  unfold readText
  rcases hcut.behind hgap (show isGap '"' = false from rfl) with hnil | ⟨more, hskip, hmore⟩
  · rw [hnil]
  · rw [hskip]
    simp [stringBody_cut hmore, Except.map]

theorem breaksOff_text (value : String) : BreaksOff text (.text value) := by
  intro level gap kept hgap hcut
  rw [renderAt] at hcut
  exact readText_cut hgap hcut

theorem breaksOff_choice (choose : String → Option α) (name : String) :
    BreaksOff (choice choose) (.text name) := by
  intro level gap kept hgap hcut
  rw [renderAt] at hcut
  change readChoice choose kept = _
  unfold readChoice
  rcases hcut.behind hgap (show isGap '"' = false from rfl) with hnil | ⟨more, hskip, hmore⟩
  · rw [hnil]
  · have hquote : IsCut ('"' :: more) ([] ++ quote name) := by
      obtain ⟨lost, hlost, hrest⟩ := hmore
      exact ⟨lost, hlost, by simp [quote, ← hrest]⟩
    rw [hskip]
    simp [readVariant, readText_cut isGap_nil hquote]

end Data

section Items

variable {α : Type} {item : Reader α} {toJson : α → Json}

theorem readItems_of_fault {isFirst : Bool} {text : List Char} {fault : ReadFault}
    (hnext : nextItem isFirst text = .error fault) :
    readItems item isFirst text = .error fault := by
  rw [readItems]
  split
  · next hfault =>
      rw [hnext] at hfault
      obtain rfl := Except.error.inj hfault
      rfl
  · next hnone => simp [hnext] at hnone
  · next hsome => simp [hnext] at hsome

/-- Items break off if the next one does, or if it is read and the items after it break off. -/
theorem readItems_cut_next {isFirst : Bool} {level : Nat} {value : α}
    {text start rest : List Char} (hreads : Reads item (toJson value) value)
    (hbreaks : BreaksOff item (toJson value))
    (hnext : nextItem isFirst text = .ok (some start))
    (hcut : IsCut start (renderAt level (toJson value) ++ rest))
    (hrest : ∀ left, IsCut left rest → readItems item false left = .error .endOfText) :
    readItems item isFirst text = .error .endOfText := by
  rw [readItems]
  split
  · next hfault => simp [hnext] at hfault
  · next hnone => simp [hnext] at hnone
  · next found hsome =>
      rw [hnext] at hsome
      obtain rfl := Option.some.inj (Except.ok.inj hsome)
      rcases hcut.append with hitem | ⟨left, rfl, hleft⟩
      · have hrun := hbreaks level [] start isGap_nil hitem
        split
        · next hfault =>
            rw [hrun] at hfault
            obtain rfl := Except.error.inj hfault
            rfl
        · next hread => simp [hrun] at hread
      · have hrun := hreads level [] left isGap_nil
        rw [List.nil_append] at hrun
        split
        · next hfault => simp [hrun] at hfault
        · next hread =>
            rw [hrun] at hread
            obtain ⟨rfl, rfl⟩ := Prod.mk.inj (Except.ok.inj hread)
            rw [hrest left hleft]
            rfl

/-- The end of a list is missed if it is cut off. -/
theorem readItems_cut_end {isFirst : Bool} {gap kept : List Char} (hgap : IsGap gap)
    (hcut : IsCut kept (gap ++ [']'])) :
    readItems item isFirst kept = .error .endOfText := by
  refine readItems_of_fault ?_
  unfold nextItem
  rcases hcut.behind hgap (show isGap ']' = false from rfl) with hnil | ⟨more, -, hmore⟩
  · rw [hnil]
  · exact absurd hmore (not_isCut_nil more)

/-- What stands before an item is passed over, or breaks off. -/
theorem nextItem_cut_first {level : Nat} {json : Json} {gap kept rest : List Char}
    (hgap : IsGap gap) (hcut : IsCut kept (gap ++ (renderAt level json ++ rest))) :
    nextItem true kept = .error .endOfText ∨
      ∃ start, nextItem true kept = .ok (some start) ∧
        IsCut start (renderAt level json ++ rest) := by
  obtain ⟨c, more, hrender, hc, hend⟩ := exists_renderAt_eq_cons level json
  rw [hrender, List.cons_append] at hcut ⊢
  unfold nextItem
  rcases hcut.behind hgap hc with hnil | ⟨after, hskip, lost, hlost, hafter⟩
  · exact Or.inl (by rw [hnil])
  · rw [hskip]
    exact Or.inr ⟨c :: after, by simp [hend], lost, hlost, by simp [← hafter]⟩

/-- A comma and what stands before the next item are passed over, or break off. -/
theorem nextItem_cut_comma {level : Nat} {json : Json} {gap kept rest : List Char}
    (hgap : IsGap gap) (hcut : IsCut kept (',' :: gap ++ (renderAt level json ++ rest))) :
    nextItem false kept = .error .endOfText ∨
      ∃ start, nextItem false kept = .ok (some start) ∧
        IsCut start (renderAt level json ++ rest) := by
  obtain ⟨c, more, hrender, hc, hend⟩ := exists_renderAt_eq_cons level json
  rw [hrender, List.cons_append] at hcut ⊢
  unfold nextItem
  rcases IsCut.behind isGap_nil (show isGap ',' = false from rfl) hcut with
    hnil | ⟨after, hskip, hafter⟩
  · exact Or.inl (by rw [hnil])
  · rw [hskip]
    simp only [Char.reduceEq, Bool.false_eq_true, ↓reduceIte]
    rcases hafter.behind hgap hc with hnil | ⟨left, hskip', lost, hlost, hleft⟩
    · exact Or.inl (by rw [hnil])
    · rw [hskip']
      exact Or.inr ⟨c :: left, by simp [hend], lost, hlost, by simp [← hleft]⟩

/-- The items of a list after its first one break off wherever they are cut. -/
theorem readItems_cut {level : Nat} {gap kept : List Char} {values : List α}
    (hreads : ∀ value, Reads item (toJson value) value)
    (hbreaks : ∀ value, BreaksOff item (toJson value)) (hgap : IsGap gap)
    (hcut : IsCut kept (renderItems level (values.map toJson) ++ (gap ++ [']']))) :
    readItems item false kept = .error .endOfText := by
  induction values generalizing kept with
  | nil =>
      rw [List.map_nil, renderItems, List.nil_append] at hcut
      exact readItems_cut_end hgap hcut
  | cons value values ih =>
      rw [List.map_cons, renderItems, List.append_assoc, List.append_assoc] at hcut
      rcases nextItem_cut_comma (isGap_newline level) hcut with hfault | ⟨start, hnext, hstart⟩
      · exact readItems_of_fault hfault
      · exact readItems_cut_next (hreads value) (hbreaks value) hnext hstart fun left => ih

/-- A list breaks off if its items do. -/
theorem breaksOff_list (hreads : ∀ value, Reads item (toJson value) value)
    (hbreaks : ∀ value, BreaksOff item (toJson value)) (values : List α) :
    BreaksOff (list item) (.list (values.map toJson)) := by
  intro level gap kept hgap hcut
  change readList item kept = _
  unfold readList
  cases values with
  | nil =>
      rw [List.map_nil, renderAt] at hcut
      rcases hcut.behind hgap (show isGap '[' = false from rfl) with hnil | ⟨more, hskip, hmore⟩
      · rw [hnil]
      · rw [hskip]
        exact readItems_cut_end isGap_nil hmore
  | cons value values =>
      rw [List.map_cons, renderAt] at hcut
      have htext : gap ++ ('[' :: newline (level + 1) ++ renderAt (level + 1) (toJson value) ++
            renderItems (level + 1) (values.map toJson) ++ newline level ++ [']']) =
          gap ++ '[' :: (newline (level + 1) ++ (renderAt (level + 1) (toJson value) ++
            (renderItems (level + 1) (values.map toJson) ++ (newline level ++ [']'])))) := by
        simp
      rw [htext] at hcut
      rcases hcut.behind hgap (show isGap '[' = false from rfl) with hnil | ⟨more, hskip, hmore⟩
      · rw [hnil]
      · rw [hskip]
        change readItems item true more = _
        rcases nextItem_cut_first (isGap_newline (level + 1)) hmore with
          hfault | ⟨start, hnext, hstart⟩
        · exact readItems_of_fault hfault
        · exact readItems_cut_next (hreads value) (hbreaks value) hnext hstart fun left =>
            readItems_cut hreads hbreaks (isGap_newline level)

end Items

section Tables

variable {σ α : Type} {fields : List (RecordField σ)}

/-- Whether the fields of a table can be read one after the other, and each of them breaks off
with its data. -/
inductive Breaks (fields : List (RecordField σ)) : σ → List (String × Json) → Prop
  | done {state : σ} : Breaks fields state []
  | next {state : σ} {name : String} {json : Json} {table : List (String × Json)}
      {field : RecordField σ} {change : σ → σ} :
      fields.find? (fun field => field.name = name) = some field →
      field.isSet state = false →
      Reads field.read json change →
      BreaksOff field.read json →
      Breaks fields (change state) table →
      Breaks fields state ((name, json) :: table)

theorem breaksOff_fieldOf {name : String} {isSet : σ → Bool} {reader : Reader α} {json : Json}
    {put : α → σ → σ} (h : BreaksOff reader json) :
    BreaksOff (fieldOf name isSet reader put).read json := by
  intro level gap kept hgap hcut
  simp only [fieldOf, h level gap kept hgap hcut, Except.map]

theorem readFields_of_fault {isFirst : Bool} {state : σ} {text : List Char} {fault : ReadFault}
    (hnext : nextField isFirst text = .error fault) :
    readFields fields isFirst state text = .error fault := by
  rw [readFields]
  split
  · next hfault =>
      rw [hnext] at hfault
      obtain rfl := Except.error.inj hfault
      rfl
  · next hnone => simp [hnext] at hnone
  · next hsome => simp [hnext] at hsome

/-- The value of a field breaks off, or it is read and the text after it is cut. -/
theorem readField_cut {field : RecordField σ} {name : String} {state : σ} {json : Json}
    {change : σ → σ} {level : Nat} {kept rest : List Char}
    (hfind : fields.find? (fun field => field.name = name) = some field)
    (hset : field.isSet state = false) (hreads : Reads field.read json change)
    (hbreaks : BreaksOff field.read json)
    (hcut : IsCut kept (':' :: ([' '] ++ renderAt level json ++ rest))) :
    readField fields name state kept = .error .endOfText ∨
      ∃ left, readField fields name state kept = .ok (change state, left) ∧
        IsCut left rest := by
  simp only [readField, hfind, hset, Bool.false_eq_true, ↓reduceIte]
  unfold colon
  rcases IsCut.behind isGap_nil (show isGap ':' = false from rfl) hcut with
    hnil | ⟨more, hskip, hmore⟩
  · exact Or.inl (by rw [hnil])
  · rw [hskip]
    simp only [↓reduceIte]
    rcases hmore.append with hvalue | ⟨left, rfl, hleft⟩
    · left
      rw [hbreaks level [' '] more isGap_blank hvalue]
      rfl
    · right
      refine ⟨left, ?_, hleft⟩
      rw [hreads level [' '] left isGap_blank]
      rfl

/-- Fields break off if the next one does, or if it is read and the fields after it break
off. -/
theorem readFields_cut_next {isFirst : Bool} {field : RecordField σ} {name : String}
    {state : σ} {json : Json} {change : σ → σ} {level : Nat} {text start rest : List Char}
    (hfind : fields.find? (fun field => field.name = name) = some field)
    (hset : field.isSet state = false) (hreads : Reads field.read json change)
    (hbreaks : BreaksOff field.read json)
    (hnext : nextField isFirst text = .ok (some start))
    (hcut : IsCut start (quote name ++ ':' :: ([' '] ++ renderAt level json ++ rest)))
    (hrest : ∀ left, IsCut left rest →
      readFields fields false (change state) left = .error .endOfText) :
    readFields fields isFirst state text = .error .endOfText := by
  rcases hcut.append with hname | ⟨more, rfl, hmore⟩
  · have htext : readText start = .error .endOfText := readText_cut isGap_nil hname
    rw [readFields]
    split
    · next hfault => simp [hnext] at hfault
    · next hnone => simp [hnext] at hnone
    · next found hsome =>
        rw [hnext] at hsome
        obtain rfl := Option.some.inj (Except.ok.inj hsome)
        split
        · next hfault =>
            rw [htext] at hfault
            obtain rfl := Except.error.inj hfault
            rfl
        · next hread => simp [htext] at hread
  · rcases readField_cut hfind hset hreads hbreaks hmore with hfault | ⟨left, hfield, hleft⟩
    · have htext : readText (quote name ++ more) = .ok (name, more) :=
        readText_quote name isGap_nil more
      rw [readFields]
      split
      · next hnone => simp [hnext] at hnone
      · next hnone => simp [hnext] at hnone
      · next found hsome =>
          rw [hnext] at hsome
          obtain rfl := Option.some.inj (Except.ok.inj hsome)
          split
          · next hother => simp [htext] at hother
          · next hread =>
              rw [htext] at hread
              obtain ⟨rfl, rfl⟩ := Prod.mk.inj (Except.ok.inj hread)
              split
              · next hother =>
                  rw [hfault] at hother
                  obtain rfl := Except.error.inj hother
                  rfl
              · next hchanged => simp [hfault] at hchanged
    · rw [readFields_next hnext hfield]
      exact hrest left hleft

/-- The end of a table is missed if it is cut off. -/
theorem readFields_cut_end {isFirst : Bool} {state : σ} {gap kept : List Char}
    (hgap : IsGap gap) (hcut : IsCut kept (gap ++ ['\x7d'])) :
    readFields fields isFirst state kept = .error .endOfText := by
  refine readFields_of_fault ?_
  unfold nextField
  rcases hcut.behind hgap (show isGap '\x7d' = false from rfl) with hnil | ⟨more, -, hmore⟩
  · rw [hnil]
  · exact absurd hmore (not_isCut_nil more)

/-- What stands before the first field is passed over, or breaks off. -/
theorem nextField_cut_first {name : String} {gap kept rest : List Char} (hgap : IsGap gap)
    (hcut : IsCut kept (gap ++ (quote name ++ rest))) :
    nextField true kept = .error .endOfText ∨
      ∃ start, nextField true kept = .ok (some start) ∧ IsCut start (quote name ++ rest) := by
  unfold nextField
  rcases hcut.behind hgap (show isGap '"' = false from rfl) with
    hnil | ⟨after, hskip, lost, hlost, hafter⟩
  · exact Or.inl (by rw [hnil])
  · rw [hskip]
    exact Or.inr ⟨'"' :: after, by simp, lost, hlost, by simp [quote, ← hafter]⟩

/-- A comma and what stands before the next field are passed over, or break off. -/
theorem nextField_cut_comma {name : String} {gap kept rest : List Char} (hgap : IsGap gap)
    (hcut : IsCut kept (',' :: gap ++ (quote name ++ rest))) :
    nextField false kept = .error .endOfText ∨
      ∃ start, nextField false kept = .ok (some start) ∧ IsCut start (quote name ++ rest) := by
  unfold nextField
  rcases IsCut.behind isGap_nil (show isGap ',' = false from rfl) hcut with
    hnil | ⟨after, hskip, hafter⟩
  · exact Or.inl (by rw [hnil])
  · rw [hskip]
    simp only [Char.reduceEq, Bool.false_eq_true, ↓reduceIte]
    rcases hafter.behind hgap (show isGap '"' = false from rfl) with
      hnil | ⟨left, hskip', lost, hlost, hleft⟩
    · exact Or.inl (by rw [hnil])
    · rw [hskip']
      exact Or.inr ⟨'"' :: left, by simp, lost, hlost, by simp [quote, ← hleft]⟩

/-- The fields of a table after its first one break off wherever they are cut. -/
theorem readFields_cut {state : σ} {table : List (String × Json)} {level : Nat}
    {gap kept : List Char} (hbreaks : Breaks fields state table) (hgap : IsGap gap)
    (hcut : IsCut kept (renderFields level table ++ (gap ++ ['\x7d']))) :
    readFields fields false state kept = .error .endOfText := by
  induction hbreaks generalizing kept with
  | done =>
      rw [renderFields, List.nil_append] at hcut
      exact readFields_cut_end hgap hcut
  | @next state name json table field change hfind hset hread hbreak hlater ih =>
      rw [renderFields] at hcut
      have htext : ',' :: newline level ++ quote name ++ [':', ' '] ++ renderAt level json ++
            renderFields level table ++ (gap ++ ['\x7d']) =
          ',' :: newline level ++ (quote name ++ ':' :: ([' '] ++ renderAt level json ++
            (renderFields level table ++ (gap ++ ['\x7d'])))) := by
        simp
      rw [htext] at hcut
      rcases nextField_cut_comma (isGap_newline level) hcut with hfault | ⟨start, hnext, hstart⟩
      · exact readFields_of_fault hfault
      · exact readFields_cut_next hfind hset hread hbreak hnext hstart fun left => ih

/-- A record breaks off if its fields do. -/
theorem breaksOff_record {start : σ} {build : σ → Option α} {table : List (String × Json)}
    (hbreaks : Breaks fields start table) :
    BreaksOff (record fields start build) (.table table) := by
  intro level gap kept hgap hcut
  change readRecord fields start build kept = _
  unfold readRecord
  cases hbreaks with
  | done =>
      rw [renderAt] at hcut
      rcases hcut.behind hgap (show isGap '\x7b' = false from rfl) with
        hnil | ⟨more, hskip, hmore⟩
      · rw [hnil]
      · rw [hskip]
        simp only [Char.reduceEq, ↓reduceIte]
        rw [readFields_cut_end isGap_nil hmore]
  | @next _ name json table field change hfind hset hread hbreak hlater =>
      rw [renderAt] at hcut
      have htext : gap ++ ('\x7b' :: newline (level + 1) ++ quote name ++ [':', ' '] ++
            renderAt (level + 1) json ++ renderFields (level + 1) table ++ newline level ++
            ['\x7d']) =
          gap ++ '\x7b' :: (newline (level + 1) ++ (quote name ++
            ':' :: ([' '] ++ renderAt (level + 1) json ++
              (renderFields (level + 1) table ++ (newline level ++ ['\x7d']))))) := by
        simp
      rw [htext] at hcut
      rcases hcut.behind hgap (show isGap '\x7b' = false from rfl) with
        hnil | ⟨more, hskip, hrest⟩
      · rw [hnil]
      · rw [hskip]
        simp only [Char.reduceEq, ↓reduceIte]
        rcases nextField_cut_first (isGap_newline (level + 1)) hrest with
          hfault | ⟨begin, hnext, hbegin⟩
        · rw [readFields_of_fault hfault]
        · rw [readFields_cut_next hfind hset hread hbreak hnext hbegin fun left =>
            readFields_cut hlater (isGap_newline level)]

/-- Data is read also where no more than a gap stands behind it. -/
theorem Reads.readAll_gap {reader : Reader α} {json : Json} {value : α}
    (h : Reads reader json value) {gap : List Char} (hgap : IsGap gap) :
    Reader.readAll reader (renderAt 0 json ++ gap) = .ok value := by
  have hrun := h 0 [] gap isGap_nil
  rw [List.nil_append] at hrun
  rw [Reader.readAll, hrun]
  simp [skipGap_eq_nil hgap]

theorem BreaksOff.readAll {reader : Reader α} {json : Json} (h : BreaksOff reader json)
    {kept : List Char} (hcut : IsCut kept (renderAt 0 json)) :
    Reader.readAll reader kept = .error .endOfText := by
  rw [Reader.readAll, h 0 [] kept isGap_nil hcut]

theorem exists_renderAt_table (level : Nat) (table : List (String × Json)) :
    ∃ front, renderAt level (.table table) = front ++ ['\x7d'] := by
  cases table with
  | nil =>
      rw [renderAt]
      exact ⟨['\x7b'], rfl⟩
  | cons entry table =>
      rw [renderAt]
      exact ⟨_, rfl⟩

/-- A table with a line feed lost a brace if and only if the table itself was cut off. -/
theorem brace_mem_iff_isCut {table : List (String × Json)} {kept lost : List Char}
    (htext : renderAt 0 (.table table) ++ ['\n'] = kept ++ lost) :
    '\x7d' ∈ lost ↔ IsCut kept (renderAt 0 (.table table)) := by
  constructor
  · intro hbrace
    have hcut : IsCut kept (renderAt 0 (.table table) ++ ['\n']) :=
      ⟨lost, List.ne_nil_of_mem hbrace, htext⟩
    rcases hcut.append with htable | ⟨more, rfl, hmore⟩
    · exact htable
    · obtain rfl := hmore.singleton
      rw [List.append_nil] at htext
      obtain rfl := List.append_cancel_left htext
      simp at hbrace
  · rintro ⟨part, hpart, hrender⟩
    obtain ⟨front, hfront⟩ := exists_renderAt_table 0 table
    have hlost : lost = part ++ ['\n'] := by
      rw [hrender, List.append_assoc] at htext
      exact (List.append_cancel_left htext).symm
    -- What was lost of the table is not empty, so it ends with the last brace.
    rcases List.eq_nil_or_concat part with rfl | ⟨init, last, rfl⟩
    · exact absurd rfl hpart
    · rw [hfront, List.concat_eq_append, ← List.append_assoc] at hrender
      obtain ⟨-, hlast⟩ := List.append_inj' hrender rfl
      simp [hlost, ← hlast]

end Tables

end Reader

section Schemas

open Reader

theorem breaks_textFields3 {first second third : String} (hsecond : first ≠ second)
    (hthird : first ≠ third) (hlast : second ≠ third) (a b c : String) :
    Breaks (textFields3 first second third) (none, none, none)
      [(first, .text a), (second, .text b), (third, .text c)] := by
  have hfirst : (textFields3 first second third).find? (fun field => field.name = first) =
      (textFields3 first second third).head? := by
    simp [textFields3, fieldOf]
  have hmiddle : (textFields3 first second third).find? (fun field => field.name = second) =
      (textFields3 first second third).tail.head? := by
    simp [textFields3, fieldOf, hsecond]
  have hend : (textFields3 first second third).find? (fun field => field.name = third) =
      (textFields3 first second third).tail.tail.head? := by
    simp [textFields3, fieldOf, hthird, hlast]
  exact .next hfirst rfl (reads_fieldOf (reads_text a)) (breaksOff_fieldOf (breaksOff_text a))
    (.next hmiddle rfl (reads_fieldOf (reads_text b)) (breaksOff_fieldOf (breaksOff_text b))
      (.next hend rfl (reads_fieldOf (reads_text c)) (breaksOff_fieldOf (breaksOff_text c))
        .done))

theorem ParamType.breaksOff (type : ParamType) : BreaksOff ParamType.reader type.toJson :=
  breaksOff_record
    (breaks_textFields3 (by decide) (by decide) (by decide) type.target type.native
      type.fromTarget)

theorem ReturnType.breaksOff (type : ReturnType) : BreaksOff ReturnType.reader type.toJson :=
  breaksOff_record
    (breaks_textFields3 (by decide) (by decide) (by decide) type.target type.native
      type.toTarget)

theorem MethodParam.breaksOff (param : MethodParam) :
    BreaksOff MethodParam.reader param.toJson :=
  breaksOff_record
    (.next rfl rfl (reads_fieldOf (reads_text param.name))
        (breaksOff_fieldOf (breaksOff_text param.name))
      (.next rfl rfl (reads_fieldOf param.type.reads)
        (breaksOff_fieldOf param.type.breaksOff) .done))

theorem Method.breaksOff (method : Method) : BreaksOff Method.reader method.toJson :=
  breaksOff_record
    (.next rfl rfl (reads_fieldOf (reads_choice (MethodKind.ofName?_render method.kind)))
        (breaksOff_fieldOf (breaksOff_choice _ method.kind.render))
      (.next rfl rfl (reads_fieldOf (reads_text method.targetName))
          (breaksOff_fieldOf (breaksOff_text method.targetName))
        (.next rfl rfl (reads_fieldOf (reads_text method.nativeName))
            (breaksOff_fieldOf (breaksOff_text method.nativeName))
          (.next rfl rfl (reads_fieldOf (reads_list MethodParam.reads method.params))
              (breaksOff_fieldOf
                (breaksOff_list MethodParam.reads MethodParam.breaksOff method.params))
            (.next rfl rfl (reads_fieldOf method.returnType.reads)
              (breaksOff_fieldOf method.returnType.breaksOff) .done)))))

theorem ClassType.breaksOff (type : ClassType) : BreaksOff ClassType.reader type.toJson :=
  breaksOff_record
    (.next rfl rfl (reads_fieldOf (reads_text type.targetName))
        (breaksOff_fieldOf (breaksOff_text type.targetName))
      (.next rfl rfl (reads_fieldOf (reads_text type.nativeName))
          (breaksOff_fieldOf (breaksOff_text type.nativeName))
        (.next rfl rfl (reads_fieldOf (reads_list Method.reads type.methods))
          (breaksOff_fieldOf (breaksOff_list Method.reads Method.breaksOff type.methods))
          .done)))

theorem Dependency.breaksOff (dependency : Dependency) :
    BreaksOff Dependency.reader dependency.toJson :=
  breaksOff_record
    (.next rfl rfl (reads_fieldOf (reads_text dependency.native))
        (breaksOff_fieldOf (breaksOff_text dependency.native))
      (.next rfl rfl (reads_fieldOf (reads_text dependency.target))
        (breaksOff_fieldOf (breaksOff_text dependency.target)) .done))

/-- The schema of a class breaks off wherever it is cut. -/
theorem ClassInterface.breaksOff (interface : ClassInterface) :
    BreaksOff ClassInterface.reader interface.toJson :=
  breaksOff_record
    (.next rfl rfl (reads_fieldOf (reads_text interface.space))
        (breaksOff_fieldOf (breaksOff_text interface.space))
      (.next rfl rfl (reads_fieldOf (reads_list Dependency.reads interface.dependencies))
          (breaksOff_fieldOf
            (breaksOff_list Dependency.reads Dependency.breaksOff interface.dependencies))
        (.next rfl rfl (reads_fieldOf interface.classType.reads)
          (breaksOff_fieldOf interface.classType.breaksOff) .done)))

/-- What is left of the text of a schema is read as its class as long as no brace is lost. -/
theorem ClassInterface.ofSchemaText_cut (interface : ClassInterface) {kept lost : String}
    (htext : interface.schemaText = kept ++ lost) :
    ClassInterface.ofSchemaText kept =
      if '\x7d' ∈ lost.toList then .error .endOfText else .ok interface := by
  have hlist : Json.renderAt 0 interface.toJson ++ ['\n'] = kept.toList ++ lost.toList := by
    have hchars := congrArg String.toList htext
    simpa [ClassInterface.schemaText, Json.render] using hchars
  have hbrace : '\x7d' ∈ lost.toList ↔
      IsCut kept.toList (Json.renderAt 0 interface.toJson) := brace_mem_iff_isCut hlist
  split
  · next hlost => exact interface.breaksOff.readAll (hbrace.1 hlost)
  · next hlost =>
      by_cases hnone : lost.toList = []
      · rw [hnone, List.append_nil] at hlist
        rw [ClassInterface.ofSchemaText, ← hlist]
        exact interface.reads.readAll_gap (isGap_newline 0)
      · have hcut : IsCut kept.toList (Json.renderAt 0 interface.toJson ++ ['\n']) :=
          ⟨lost.toList, hnone, hlist⟩
        rcases hcut.append with htable | ⟨more, hkept, hmore⟩
        · exact absurd (hbrace.2 htable) hlost
        · obtain rfl := hmore.singleton
          rw [ClassInterface.ofSchemaText, hkept]
          exact interface.reads.readAll_gap isGap_nil

end Schemas

section Files

/-- A schema that was cut off anywhere before its last brace is refused because it ends too
early, as text and in a file.  Without the line feed behind that brace it is still read as its
class. -/
theorem cut_schema_refused (interface : ClassInterface) (kept lost : String)
    (htext : interface.schemaText = kept ++ lost) :
    (ClassInterface.ofSchemaText kept =
        if '\x7d' ∈ lost.toList then .error .endOfText else .ok interface) ∧
      ∀ (tree : FileTree) (path : Path), tree.readText path = .ok kept →
        SchemaFile.read tree path =
          if '\x7d' ∈ lost.toList then .error (.schema .endOfText) else .ok interface := by
  have hkept := interface.ofSchemaText_cut htext
  refine ⟨hkept, ?_⟩
  intro tree path hread
  unfold SchemaFile.read
  by_cases hlost : '\x7d' ∈ lost.toList
  · simp [hread, hkept, hlost]
  · simp [hread, hkept, hlost]

/-- The schema of the odd interface is refused if it is cut off inside the escape of a control
character. -/
theorem cut_schema_refused_odd :
    ∃ kept lost, oddInterface.schemaText = kept ++ lost ∧
      kept = "\x7b\n  \"namespace\": \"a\\\"b\\\\c/\\n\\t\\r\\u00" ∧
      '\x7d' ∈ lost.toList ∧ ClassInterface.ofSchemaText kept = .error .endOfText := by
  let chars := Json.renderAt 0 oddInterface.toJson ++ ['\n']
  have htext : oddInterface.schemaText =
      String.ofList (chars.take 36) ++ String.ofList (chars.drop 36) := by
    rw [← String.ofList_append, List.take_append_drop, String.ofList_append]
    rfl
  have hkept : String.ofList (chars.take 36) =
      "\x7b\n  \"namespace\": \"a\\\"b\\\\c/\\n\\t\\r\\u00" := by
    apply String.toList_inj.1
    rw [String.toList_ofList]
    decide +kernel
  have hlost : '\x7d' ∈ (String.ofList (chars.drop 36)).toList := by
    rw [String.toList_ofList]
    decide +kernel
  have hread := (cut_schema_refused oddInterface _ _ htext).1
  rw [if_pos hlost] at hread
  exact ⟨_, _, htext, hkept, hlost, hread⟩

end Files
end HeaderBindings
