import HeaderBindings.Schema.Number

/-!
# Values that are not asked for

A value of a wrong type is read to its end before its type is reported, so that a
value that is no JSON is reported as such.

The value of an unknown field is skipped.  It may be nested to any depth, and its
texts may hold halves of surrogate pairs.

**Results.**
* `skipValue_lt`: skipping a value takes at least one character.
-/

namespace HeaderBindings
namespace Reader

section WrongType

/-- The fault of a value that was read although another type was asked for. -/
def faultOfRead {α : Type} : Except ReadFault α → ReadFault
  | .error fault => fault
  | .ok _ => .shape .invalidType

/-- The same for a number, which may be too large. -/
def faultOfNumeral : Except ReadFault (Numeral × List Char) → ReadFault
  | .error fault => fault
  | .ok (numeral, _) => if numeral.isTooLarge then .malformed else .shape .invalidType

/-- The fault of a value at the front of a text that is of a wrong type. -/
def wrongType : List Char → ReadFault
  | [] => .endOfText
  | c :: rest =>
      if c = 'n' then faultOfRead (word ['u', 'l', 'l'] rest)
      else if c = 't' then faultOfRead (word ['r', 'u', 'e'] rest)
      else if c = 'f' then faultOfRead (word ['a', 'l', 's', 'e'] rest)
      else if c = '"' then faultOfRead (stringBody rest)
      else if c = '[' || c = '\x7b' then .shape .invalidType
      else if c = '-' then faultOfNumeral (numeral .endOfText rest)
      else if isDecimal c then faultOfNumeral (numeral .endOfText (c :: rest))
      else .malformed

end WrongType

section Scalars

/-- Text after an escape, whose backslash is gone already. -/
def skipEscape : List Char → Except ReadFault (List Char)
  | [] => .error .endOfText
  | c :: rest =>
      if (letterEscape? c).isSome then .ok rest
      else if c = 'u' then (codeUnit rest).map Prod.snd
      else .error .malformed

theorem skipEscape_lt {text rest : List Char} (h : skipEscape text = .ok rest) :
    rest.length < text.length := by
  cases text with
  | nil => simp [skipEscape] at h
  | cons c cs =>
      simp only [skipEscape] at h
      split at h
      · obtain rfl := Except.ok.inj h
        simp
      · split at h
        · cases hu : codeUnit cs with
          | error fault => simp [hu, Except.map] at h
          | ok result =>
              simp only [hu, Except.map, Except.ok.injEq] at h
              subst h
              exact Nat.lt_succ_of_lt (codeUnit_lt hu)
        · simp at h

/-- Text after a quoted text, whose first quote is gone already. -/
def skipString (text : List Char) : Except ReadFault (List Char) :=
  match text with
  | [] => .error .endOfText
  | c :: rest =>
      if c = '"' then .ok rest
      else if c = '\\' then
        match _ : skipEscape rest with
        | .error fault => .error fault
        | .ok after => skipString after
      else if c.toNat < 0x20 then .error .malformed
      else skipString rest
termination_by text.length
decreasing_by
  · next h =>
      have := skipEscape_lt h
      simp only [List.length_cons]
      omega
  · simp

theorem skipString_lt {text rest : List Char} (h : skipString text = .ok rest) :
    rest.length < text.length := by
  fun_induction skipString text with
  | case1 => simp at h
  | case2 => simp_all
  | case3 => simp at h
  | case4 rest after he _ ih =>
      have h1 := ih h
      have h2 := skipEscape_lt he
      simp only [List.length_cons]
      omega
  | case5 => simp at h
  | case6 _ _ _ _ _ ih => exact Nat.lt_succ_of_lt (ih h)

/-- Text after a value that is neither a list nor a table. -/
def skipScalar : List Char → Except ReadFault (List Char)
  | [] => .error .endOfText
  | c :: rest =>
      if c = 'n' then word ['u', 'l', 'l'] rest
      else if c = 't' then word ['r', 'u', 'e'] rest
      else if c = 'f' then word ['a', 'l', 's', 'e'] rest
      else if c = '"' then skipString rest
      else if c = '-' then (numeral .malformed rest).map Prod.snd
      else if isDecimal c then (numeral .malformed (c :: rest)).map Prod.snd
      else .error .malformed

theorem skipScalar_lt {text rest : List Char} (h : skipScalar text = .ok rest) :
    rest.length < text.length := by
  cases text with
  | nil => simp [skipScalar] at h
  | cons c cs =>
      simp only [skipScalar] at h
      split at h
      · exact Nat.lt_succ_of_le (word_le h)
      split at h
      · exact Nat.lt_succ_of_le (word_le h)
      split at h
      · exact Nat.lt_succ_of_le (word_le h)
      split at h
      · exact Nat.lt_succ_of_lt (skipString_lt h)
      split at h
      · cases hn : numeral .malformed cs with
        | error fault => simp [hn, Except.map] at h
        | ok result =>
            simp only [hn, Except.map, Except.ok.injEq] at h
            subst h
            exact Nat.lt_succ_of_lt (numeral_lt hn)
      split at h
      · cases hn : numeral .malformed (c :: cs) with
        | error fault => simp [hn, Except.map] at h
        | ok result =>
            simp only [hn, Except.map, Except.ok.injEq] at h
            subst h
            exact numeral_lt hn
      · simp at h

end Scalars

section Nesting

/-- What a value is nested in. -/
inductive Frame where
  | list
  | table
deriving DecidableEq

/-- The character that ends a list or table. -/
def Frame.close : Frame → Char
  | .list => ']'
  | .table => '\x7d'

/-- Text before the next value in a list or table: in a table a key and a colon are skipped. -/
def Frame.skipKey : Frame → List Char → Except ReadFault (List Char)
  | .list, text => .ok text
  | .table, text =>
      match skipGap text with
      | [] => .error .endOfText
      | c :: rest =>
          if c = '"' then
            match skipString rest with
            | .error fault => .error fault
            | .ok after =>
                match skipGap after with
                | [] => .error .endOfText
                | d :: left => if d = ':' then .ok left else .error .malformed
          else .error .malformed

theorem cons_length_le_of_skipGap {text rest : List Char} {c : Char}
    (h : skipGap text = c :: rest) : rest.length + 1 ≤ text.length := by
  have := skipGap_le text
  rw [h] at this
  simpa using this

theorem Frame.skipKey_le {frame : Frame} {text rest : List Char}
    (h : frame.skipKey text = .ok rest) : rest.length ≤ text.length := by
  cases frame with
  | list =>
      obtain rfl := Except.ok.inj h
      exact Nat.le_refl _
  | table =>
      simp only [Frame.skipKey] at h
      split at h
      · simp at h
      · next c first hg =>
          have h1 := cons_length_le_of_skipGap hg
          split at h
          · split at h
            · simp at h
            · next after hs =>
                have h2 := skipString_lt hs
                split at h
                · simp at h
                · next d left hd =>
                    have h3 := cons_length_le_of_skipGap hd
                    split at h
                    · obtain rfl := Except.ok.inj h
                      omega
                    · simp at h
          · simp at h

/-- What comes next while a value is skipped. -/
inductive Turn where
  /-- A value. -/
  | value
  /-- The first value of the innermost list or table, or its end. -/
  | opened
  /-- A comma, or the end of the innermost list or table. -/
  | after
deriving DecidableEq

/-- A turn that may give way to another one without taking a character ranks higher. -/
def Turn.rank : Turn → Nat
  | .opened => 1
  | .value | .after => 0

/-- Text after the value that is being skipped; `stack` holds what it is nested in. -/
def skipFrom (turn : Turn) (stack : List Frame) (text : List Char) :
    Except ReadFault (List Char) :=
  match turn, stack with
  | .value, stack =>
      match _ : skipGap text with
      | [] => .error .endOfText
      | c :: rest =>
          if c = '[' then skipFrom .opened (.list :: stack) rest
          else if c = '\x7b' then skipFrom .opened (.table :: stack) rest
          else
            match _ : skipScalar (c :: rest) with
            | .error fault => .error fault
            | .ok left => skipFrom .after stack left
  | _, [] => .ok text
  | .opened, frame :: frames =>
      match _ : skipGap text with
      | [] => .error .endOfText
      | c :: rest =>
          if c = frame.close then skipFrom .after frames rest
          else
            match _ : frame.skipKey (c :: rest) with
            | .error fault => .error fault
            | .ok left => skipFrom .value (frame :: frames) left
  | .after, frame :: frames =>
      match _ : skipGap text with
      | [] => .error .endOfText
      | c :: rest =>
          if c = frame.close then skipFrom .after frames rest
          else if c = ',' then
            match _ : frame.skipKey rest with
            | .error fault => .error fault
            | .ok left => skipFrom .value (frame :: frames) left
          else .error .malformed
termination_by 2 * text.length + turn.rank
decreasing_by
  all_goals simp only [Turn.rank]
  all_goals have := cons_length_le_of_skipGap ‹_›
  · omega
  · omega
  · have := skipScalar_lt ‹_›
    simp only [List.length_cons] at this
    omega
  · omega
  · have := Frame.skipKey_le ‹_›
    simp only [List.length_cons] at this
    omega
  · omega
  · have := Frame.skipKey_le ‹_›
    omega

/-- Text after a value. -/
def skipValue (text : List Char) : Except ReadFault (List Char) :=
  skipFrom .value [] text

theorem skipFrom_le {turn : Turn} {stack : List Frame} {text rest : List Char}
    (h : skipFrom turn stack text = .ok rest) :
    rest.length ≤ text.length ∧ (turn = .value → rest.length < text.length) := by
  fun_induction skipFrom turn stack text with
  | case1 => simp at h
  | case2 _ _ _ hg ih =>
      have := cons_length_le_of_skipGap hg
      have := (ih h).1
      omega
  | case3 _ _ _ hg _ ih =>
      have := cons_length_le_of_skipGap hg
      have := (ih h).1
      omega
  | case4 => simp at h
  | case5 _ _ _ _ hg _ _ _ hs ih =>
      have := cons_length_le_of_skipGap hg
      have := skipScalar_lt hs
      have := (ih h).1
      simp only [List.length_cons] at *
      omega
  | case6 => simp_all
  | case7 => simp at h
  | case8 _ _ _ _ hg ih =>
      have := cons_length_le_of_skipGap hg
      have := (ih h).1
      exact ⟨by omega, by simp⟩
  | case9 => simp at h
  | case10 _ _ _ _ _ hg _ _ hk ih =>
      have := cons_length_le_of_skipGap hg
      have := Frame.skipKey_le hk
      have := (ih h).1
      simp only [List.length_cons] at *
      exact ⟨by omega, by simp⟩
  | case11 => simp at h
  | case12 _ _ _ _ hg ih =>
      have := cons_length_le_of_skipGap hg
      have := (ih h).1
      exact ⟨by omega, by simp⟩
  | case13 => simp at h
  | case14 _ _ _ _ _ hk hg _ ih =>
      have := cons_length_le_of_skipGap hg
      have := Frame.skipKey_le hk
      have := (ih h).1
      exact ⟨by omega, by simp⟩
  | case15 => simp at h

theorem skipValue_lt {text rest : List Char} (h : skipValue text = .ok rest) :
    rest.length < text.length :=
  (skipFrom_le h).2 rfl

end Nesting

end Reader
end HeaderBindings
