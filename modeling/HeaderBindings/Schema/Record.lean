import HeaderBindings.Schema.Skip

/-!
# Reading texts, lists and records

A record is written as a table of named fields in any order, where unknown fields
are skipped, or as a list of its fields in their order.  A choice is written as a
text, or as a table with the text as its only key and `null` as its value.

Every reader here carries the proof that it takes at least one character.
-/

namespace HeaderBindings
namespace Reader

section Texts

/-- Reads a text. -/
def readText (text : List Char) : Except ReadFault (String × List Char) :=
  match skipGap text with
  | [] => .error .endOfText
  | c :: rest =>
      if c = '"' then (stringBody rest).map fun (value, left) => (String.ofList value, left)
      else .error (wrongType (c :: rest))

theorem readText_lt {text rest : List Char} {value : String}
    (h : readText text = .ok (value, rest)) : rest.length < text.length := by
  unfold readText at h
  split at h
  · simp at h
  · next c first hg =>
      have h1 := cons_length_le_of_skipGap hg
      split at h
      · cases hb : stringBody first with
        | error fault => simp [hb, Except.map] at h
        | ok result =>
            simp only [hb, Except.map, Except.ok.injEq, Prod.mk.injEq] at h
            obtain ⟨_, rfl⟩ := h
            have h2 := stringBody_lt hb
            omega
      · simp at h

/-- The reader of a text. -/
def text : Reader String where
  run := readText
  shrinks _ _ _ h := readText_lt h

end Texts

section Choices

variable {α : Type}

/-- Reads the name of a choice. -/
def readVariant (choose : String → Option α) (text : List Char) :
    Except ReadFault (α × List Char) :=
  match readText text with
  | .error fault => .error fault
  | .ok (name, rest) =>
      match choose name with
      | some value => .ok (value, rest)
      | none => .error (.shape (.unknownVariant name))

/-- Text after a colon. -/
def colon (text : List Char) : Except ReadFault (List Char) :=
  match skipGap text with
  | [] => .error .endOfText
  | c :: rest => if c = ':' then .ok rest else .error .malformed

/-- Text after a `null`. -/
def null (text : List Char) : Except ReadFault (List Char) :=
  match skipGap text with
  | [] => .error .endOfText
  | c :: rest =>
      if c = 'n' then word ['u', 'l', 'l'] rest else .error (wrongType (c :: rest))

/-- Reads a choice. -/
def readChoice (choose : String → Option α) (text : List Char) :
    Except ReadFault (α × List Char) :=
  match skipGap text with
  | [] => .error .endOfText
  | c :: rest =>
      if c = '"' then readVariant choose (c :: rest)
      else if c = '\x7b' then
        match readVariant choose rest with
        | .error fault => .error fault
        | .ok (value, rest) =>
            match colon rest with
            | .error fault => .error fault
            | .ok rest =>
                match null rest with
                | .error fault => .error fault
                | .ok rest =>
                    match skipGap rest with
                    | [] => .error .endOfText
                    | d :: left => if d = '\x7d' then .ok (value, left) else .error .malformed
      else .error .malformed

theorem readVariant_lt {choose : String → Option α} {text rest : List Char} {value : α}
    (h : readVariant choose text = .ok (value, rest)) : rest.length < text.length := by
  unfold readVariant at h
  split at h
  · simp at h
  · next name left hr =>
      split at h
      · obtain ⟨_, rfl⟩ := Prod.mk.inj (Except.ok.inj h)
        exact readText_lt hr
      · simp at h

theorem colon_lt {text rest : List Char} (h : colon text = .ok rest) :
    rest.length < text.length := by
  unfold colon at h
  split at h
  · simp at h
  · next c left hg =>
      have := cons_length_le_of_skipGap hg
      split at h
      · obtain rfl := Except.ok.inj h
        omega
      · simp at h

theorem null_lt {text rest : List Char} (h : null text = .ok rest) :
    rest.length < text.length := by
  unfold null at h
  split at h
  · simp at h
  · next c left hg =>
      have := cons_length_le_of_skipGap hg
      split at h
      · have := word_le h
        omega
      · simp at h

theorem readChoice_lt {choose : String → Option α} {text rest : List Char} {value : α}
    (h : readChoice choose text = .ok (value, rest)) : rest.length < text.length := by
  unfold readChoice at h
  split at h
  · simp at h
  · next c first hg =>
      have h1 := cons_length_le_of_skipGap hg
      split at h
      · have := readVariant_lt h
        simp only [List.length_cons] at this
        omega
      split at h
      · split at h
        · simp at h
        · next found second hv =>
            have h2 := readVariant_lt hv
            split at h
            · simp at h
            · next third hc =>
                have h3 := colon_lt hc
                split at h
                · simp at h
                · next fourth hn =>
                    have h4 := null_lt hn
                    split at h
                    · simp at h
                    · next d left hd =>
                        have h5 := cons_length_le_of_skipGap hd
                        split at h
                        · obtain ⟨_, rfl⟩ := Prod.mk.inj (Except.ok.inj h)
                          omega
                        · simp at h
      · simp at h

/-- The reader of a choice. -/
def choice (choose : String → Option α) : Reader α where
  run := readChoice choose
  shrinks _ _ _ h := readChoice_lt h

end Choices

section Items

/-- What stands before the next item of a list: the text of the item, or `none` at the end of
the list, which is left in place.  `isFirst` says that no item was read yet. -/
def nextItem (isFirst : Bool) (text : List Char) : Except ReadFault (Option (List Char)) :=
  match skipGap text with
  | [] => .error .endOfText
  | c :: rest =>
      if c = ']' then .ok none
      else if isFirst then .ok (some (c :: rest))
      else if c = ',' then
        match skipGap rest with
        | [] => .error .endOfText
        | d :: left => if d = ']' then .error .malformed else .ok (some (d :: left))
      else .error .malformed

theorem nextItem_le {isFirst : Bool} {text rest : List Char}
    (h : nextItem isFirst text = .ok (some rest)) : rest.length ≤ text.length := by
  unfold nextItem at h
  split at h
  · simp at h
  · next c first hg =>
      have h1 := cons_length_le_of_skipGap hg
      split at h
      · simp at h
      split at h
      · simp only [Except.ok.injEq, Option.some.injEq] at h
        subst h
        simpa using h1
      split at h
      · split at h
        · simp at h
        · next d left hd =>
            have h2 := cons_length_le_of_skipGap hd
            split at h
            · simp at h
            · simp only [Except.ok.injEq, Option.some.injEq] at h
              subst h
              simp only [List.length_cons]
              omega
      · simp at h

/-- Text after the end of a list. -/
def endOfItems (text : List Char) : Except ReadFault (List Char) :=
  match skipGap text with
  | [] => .error .endOfText
  | c :: rest => if c = ']' then .ok rest else .error .malformed

theorem endOfItems_lt {text rest : List Char} (h : endOfItems text = .ok rest) :
    rest.length < text.length := by
  unfold endOfItems at h
  split at h
  · simp at h
  · next c left hg =>
      have := cons_length_le_of_skipGap hg
      split at h
      · obtain rfl := Except.ok.inj h
        omega
      · simp at h

variable {α : Type}

/-- Reads items up to the end of their list. -/
def readItems (item : Reader α) (isFirst : Bool) (text : List Char) :
    Except ReadFault (List α × List Char) :=
  match _ : nextItem isFirst text with
  | .error fault => .error fault
  | .ok none => (endOfItems text).map fun rest => ([], rest)
  | .ok (some start) =>
      match _ : item.run start with
      | .error fault => .error fault
      | .ok (value, rest) =>
          (readItems item false rest).map fun (values, left) => (value :: values, left)
termination_by text.length
decreasing_by
  have := nextItem_le ‹_›
  have := item.shrinks _ _ _ ‹_›
  omega

theorem readItems_lt {item : Reader α} {isFirst : Bool} {text rest : List Char}
    {values : List α} (h : readItems item isFirst text = .ok (values, rest)) :
    rest.length < text.length := by
  fun_induction readItems item isFirst text generalizing values with
  | case1 => simp at h
  | case2 isFirst text _ =>
      cases he : endOfItems text with
      | error fault => simp [he, Except.map] at h
      | ok left =>
          simp only [he, Except.map, Except.ok.injEq, Prod.mk.injEq] at h
          obtain ⟨_, rfl⟩ := h
          exact endOfItems_lt he
  | case3 => simp at h
  | case4 isFirst text start hn value after hi ih =>
      cases he : readItems item false after with
      | error fault => simp [he, Except.map] at h
      | ok result =>
          simp only [he, Except.map, Except.ok.injEq, Prod.mk.injEq] at h
          obtain ⟨_, rfl⟩ := h
          have h1 := nextItem_le hn
          have h2 := item.shrinks _ _ _ hi
          have h3 := ih he
          omega

/-- Reads a list. -/
def readList (item : Reader α) (text : List Char) : Except ReadFault (List α × List Char) :=
  match skipGap text with
  | [] => .error .endOfText
  | c :: rest =>
      if c = '[' then readItems item true rest else .error (wrongType (c :: rest))

theorem readList_lt {item : Reader α} {text rest : List Char} {values : List α}
    (h : readList item text = .ok (values, rest)) : rest.length < text.length := by
  unfold readList at h
  split at h
  · simp at h
  · next c left hg =>
      have := cons_length_le_of_skipGap hg
      split at h
      · have := readItems_lt h
        omega
      · simp at h

/-- The reader of a list. -/
def list (item : Reader α) : Reader (List α) where
  run := readList item
  shrinks _ _ _ h := readList_lt h

end Items

section Records

/-- A field of a record that is being read into a state. -/
structure RecordField (σ : Type) where
  name : String
  /-- Whether the field was read already. -/
  isSet : σ → Bool
  /-- Reads the value and gives the change of the state. -/
  read : Reader (σ → σ)

variable {σ α : Type}

/-- A field whose value is kept by `put` once it is read. -/
def fieldOf (name : String) (isSet : σ → Bool) (value : Reader α) (put : α → σ → σ) :
    RecordField σ where
  name := name
  isSet := isSet
  read :=
    { run := fun text => (value.run text).map fun (found, rest) => (put found, rest)
      shrinks := by
        intro text change rest h
        cases hv : value.run text with
        | error fault => simp [hv, Except.map] at h
        | ok result =>
            simp only [hv, Except.map, Except.ok.injEq, Prod.mk.injEq] at h
            obtain ⟨_, rfl⟩ := h
            exact value.shrinks _ _ _ hv }

/-- The text of the next field, from its name on, or `none` at the end of the table, which is
left in place. -/
def nextField (isFirst : Bool) (text : List Char) : Except ReadFault (Option (List Char)) :=
  match skipGap text with
  | [] => .error .endOfText
  | c :: rest =>
      if c = '\x7d' then .ok none
      else if isFirst then
        if c = '"' then .ok (some (c :: rest)) else .error .malformed
      else if c = ',' then
        match skipGap rest with
        | [] => .error .endOfText
        | d :: left => if d = '"' then .ok (some (d :: left)) else .error .malformed
      else .error .malformed

theorem nextField_le {isFirst : Bool} {text rest : List Char}
    (h : nextField isFirst text = .ok (some rest)) : rest.length ≤ text.length := by
  unfold nextField at h
  split at h
  · simp at h
  · next c first hg =>
      have h1 := cons_length_le_of_skipGap hg
      split at h
      · simp at h
      split at h
      · split at h
        · simp only [Except.ok.injEq, Option.some.injEq] at h
          subst h
          simpa using h1
        · simp at h
      split at h
      · split at h
        · simp at h
        · next d left hd =>
            have h2 := cons_length_le_of_skipGap hd
            split at h
            · simp only [Except.ok.injEq, Option.some.injEq] at h
              subst h
              simp only [List.length_cons]
              omega
            · simp at h
      · simp at h

/-- Reads the value of the field with a given name, after a colon; the value of an unknown field
is skipped. -/
def readField (fields : List (RecordField σ)) (name : String) (state : σ) (text : List Char) :
    Except ReadFault (σ × List Char) :=
  match fields.find? fun field => field.name = name with
  | none =>
      match colon text with
      | .error fault => .error fault
      | .ok rest => (skipValue rest).map fun left => (state, left)
  | some field =>
      if field.isSet state then .error (.shape (.duplicateField name))
      else
        match colon text with
        | .error fault => .error fault
        | .ok rest => (field.read.run rest).map fun (change, left) => (change state, left)

theorem readField_lt {fields : List (RecordField σ)} {name : String} {state result : σ}
    {text rest : List Char} (h : readField fields name state text = .ok (result, rest)) :
    rest.length < text.length := by
  unfold readField at h
  split at h
  · split at h
    · simp at h
    · next after hc =>
        have h1 := colon_lt hc
        cases hs : skipValue after with
        | error fault => simp [hs, Except.map] at h
        | ok left =>
            simp only [hs, Except.map, Except.ok.injEq, Prod.mk.injEq] at h
            obtain ⟨_, rfl⟩ := h
            exact Nat.lt_trans (skipValue_lt hs) h1
  · next field _ =>
      split at h
      · simp at h
      · split at h
        · simp at h
        · next after hc =>
            have h1 := colon_lt hc
            cases hs : field.read.run after with
            | error fault => simp [hs, Except.map] at h
            | ok found =>
                simp only [hs, Except.map, Except.ok.injEq, Prod.mk.injEq] at h
                obtain ⟨_, rfl⟩ := h
                exact Nat.lt_trans (field.read.shrinks _ _ _ hs) h1

/-- Reads the fields of a table up to its end. -/
def readFields (fields : List (RecordField σ)) (isFirst : Bool) (state : σ) (text : List Char) :
    Except ReadFault (σ × List Char) :=
  match _ : nextField isFirst text with
  | .error fault => .error fault
  | .ok none => .ok (state, (skipGap text).drop 1)
  | .ok (some start) =>
      match _ : readText start with
      | .error fault => .error fault
      | .ok (name, rest) =>
          match _ : readField fields name state rest with
          | .error fault => .error fault
          | .ok (changed, left) => readFields fields false changed left
termination_by text.length
decreasing_by
  have := nextField_le ‹_›
  have := readText_lt ‹_›
  have := readField_lt ‹_›
  omega

/-- Reads the fields of a list that stands for a record; `count` fields were read before. -/
def readPositions (count : Nat) (state : σ) (text : List Char) :
    List (RecordField σ) → Except ReadFault (σ × List Char)
  | [] => (endOfItems text).map fun rest => (state, rest)
  | field :: fields =>
      match nextItem (count = 0) text with
      | .error fault => .error fault
      | .ok none => .error (.shape (.invalidLength count))
      | .ok (some start) =>
          match field.read.run start with
          | .error fault => .error fault
          | .ok (change, rest) => readPositions (count + 1) (change state) rest fields

theorem readFields_le {fields : List (RecordField σ)} {isFirst : Bool} {state result : σ}
    {text rest : List Char} (h : readFields fields isFirst state text = .ok (result, rest)) :
    rest.length ≤ text.length := by
  fun_induction readFields fields isFirst state text with
  | case1 => simp at h
  | case2 isFirst state text _ =>
      obtain ⟨_, rfl⟩ := Prod.mk.inj (Except.ok.inj h)
      have := skipGap_le text
      simp only [List.length_drop]
      omega
  | case3 => simp at h
  | case4 => simp at h
  | case5 isFirst state text start hn name after hr changed left hf ih =>
      have h1 := nextField_le hn
      have h2 := readText_lt hr
      have h3 := readField_lt hf
      have h4 := ih h
      omega

theorem readPositions_lt {count : Nat} {state result : σ} {text rest : List Char}
    {fields : List (RecordField σ)}
    (h : readPositions count state text fields = .ok (result, rest)) :
    rest.length < text.length := by
  induction fields generalizing count state text with
  | nil =>
      cases he : endOfItems text with
      | error fault => simp [readPositions, he, Except.map] at h
      | ok left =>
          simp only [readPositions, he, Except.map, Except.ok.injEq, Prod.mk.injEq] at h
          obtain ⟨_, rfl⟩ := h
          exact endOfItems_lt he
  | cons field fields ih =>
      simp only [readPositions] at h
      split at h
      · simp at h
      · simp at h
      · next start hn =>
          have h1 := nextItem_le hn
          split at h
          · simp at h
          · next change after hr =>
              have h2 := field.read.shrinks _ _ _ hr
              have h3 := ih h
              omega

/-- The value of a record whose fields were read into a state.  The first missing field in the
order of the record is reported. -/
def finish (fields : List (RecordField σ)) (build : σ → Option α) (state : σ) :
    Except ReadFault α :=
  match fields.find? fun field => !field.isSet state with
  | some field => .error (.shape (.missingField field.name))
  | none =>
      match build state with
      | some value => .ok value
      | none => .error .malformed

/-- Reads a record. -/
def readRecord (fields : List (RecordField σ)) (start : σ) (build : σ → Option α)
    (text : List Char) : Except ReadFault (α × List Char) :=
  match skipGap text with
  | [] => .error .endOfText
  | c :: rest =>
      if c = '[' then
        match readPositions 0 start rest fields with
        | .error fault => .error fault
        | .ok (state, left) => (finish fields build state).map fun value => (value, left)
      else if c = '\x7b' then
        match readFields fields true start rest with
        | .error fault => .error fault
        | .ok (state, left) => (finish fields build state).map fun value => (value, left)
      else .error (wrongType (c :: rest))

theorem readRecord_lt {fields : List (RecordField σ)} {start : σ} {build : σ → Option α}
    {text rest : List Char} {value : α}
    (h : readRecord fields start build text = .ok (value, rest)) :
    rest.length < text.length := by
  unfold readRecord at h
  split at h
  · simp at h
  · next c first hg =>
      have h1 := cons_length_le_of_skipGap hg
      split at h
      · split at h
        · simp at h
        · next state left hr =>
            have h2 := readPositions_lt hr
            cases hf : finish fields build state with
            | error fault => simp [hf, Except.map] at h
            | ok found =>
                simp only [hf, Except.map, Except.ok.injEq, Prod.mk.injEq] at h
                obtain ⟨_, rfl⟩ := h
                omega
      split at h
      · split at h
        · simp at h
        · next state left hr =>
            have h2 := readFields_le hr
            cases hf : finish fields build state with
            | error fault => simp [hf, Except.map] at h
            | ok found =>
                simp only [hf, Except.map, Except.ok.injEq, Prod.mk.injEq] at h
                obtain ⟨_, rfl⟩ := h
                omega
      · simp at h

/-- The reader of a record. -/
def record (fields : List (RecordField σ)) (start : σ) (build : σ → Option α) : Reader α where
  run := readRecord fields start build
  shrinks _ _ _ h := readRecord_lt h

end Records

section Whole

variable {α : Type}

/-- Reads a whole text, after which nothing but a gap may follow. -/
def readAll (reader : Reader α) (text : List Char) : Except ReadFault α :=
  match reader.run text with
  | .error fault => .error fault
  | .ok (value, rest) => if skipGap rest = [] then .ok value else .error .malformed

end Whole

end Reader
end HeaderBindings
