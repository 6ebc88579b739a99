/-!
# Reading JSON text from the front

Text is read from the front, and the first problem counts.  There are three kinds
of problems: the text ends too early, it is not JSON, or it is JSON of a shape
that is not asked for.

A *reader* gives a value and the text that is left.  It comes with the proof that
it takes at least one character, so that readers can be repeated.

**Results.**
* `escaped_lt`, `stringBody_lt`: what is left after an escape or a text is shorter.
-/

namespace HeaderBindings

/-- How data can differ from what is asked for. -/
inductive ShapeFault where
  | missingField (name : String)
  | duplicateField (name : String)
  | unknownVariant (name : String)
  | invalidType
  /-- A list in place of a record has only this many items. -/
  | invalidLength (count : Nat)
deriving DecidableEq

/-- Why text cannot be read. -/
inductive ReadFault where
  | endOfText
  | malformed
  | shape (fault : ShapeFault)
deriving DecidableEq

/-- A reader of values. -/
structure Reader (α : Type) where
  run : List Char → Except ReadFault (α × List Char)
  shrinks : ∀ text value rest, run text = .ok (value, rest) → rest.length < text.length

namespace Reader

section Blanks

/-- Whether a character may stand between the parts of JSON text. -/
def isGap (c : Char) : Bool :=
  c = ' ' || c = '\n' || c = '\t' || c = '\r'

/-- Text without the gap at its front. -/
def skipGap (text : List Char) : List Char := text.dropWhile isGap

theorem skipGap_le (text : List Char) : (skipGap text).length ≤ text.length :=
  (List.dropWhile_suffix isGap).length_le

/-- Text after a fixed word. -/
def word : List Char → List Char → Except ReadFault (List Char)
  | [], text => .ok text
  | _ :: _, [] => .error .endOfText
  | expected :: more, c :: rest => if c = expected then word more rest else .error .malformed

theorem word_le {expected text rest : List Char} (h : word expected text = .ok rest) :
    rest.length ≤ text.length := by
  induction expected generalizing text with
  | nil =>
      obtain rfl := Except.ok.inj h
      exact Nat.le_refl _
  | cons e es ih =>
      cases text with
      | nil => simp [word] at h
      | cons c cs =>
          by_cases hc : c = e
          · simp only [word, hc, ↓reduceIte] at h
            exact Nat.le_succ_of_le (ih h)
          · simp [word, hc] at h

end Blanks

section Strings

/-- The value of a digit in base 16. -/
def hexValue? (c : Char) : Option Nat :=
  if '0' ≤ c ∧ c ≤ '9' then some (c.toNat - '0'.toNat)
  else if 'a' ≤ c ∧ c ≤ 'f' then some (c.toNat - 'a'.toNat + 10)
  else if 'A' ≤ c ∧ c ≤ 'F' then some (c.toNat - 'A'.toNat + 10)
  else none

/-- The number of bytes of the first four characters. -/
def bytesOfFour (text : List Char) : Nat :=
  (text.take 4).foldr (fun c count => c.utf8Size + count) 0

/-- The code unit of four digits in base 16.  Fewer than four bytes are an early end, whatever
they are. -/
def codeUnit (text : List Char) : Except ReadFault (Nat × List Char) :=
  if bytesOfFour text < 4 then .error .endOfText
  else
    match text with
    | a :: b :: c :: d :: rest =>
        match hexValue? a, hexValue? b, hexValue? c, hexValue? d with
        | some w, some x, some y, some z => .ok (4096 * w + 256 * x + 16 * y + z, rest)
        | _, _, _, _ => .error .malformed
    | _ => .error .malformed

/-- Whether a code unit is the first half of a pair. -/
def isLeading (unit : Nat) : Bool := 0xD800 ≤ unit && unit ≤ 0xDBFF

/-- Whether a code unit is the second half of a pair. -/
def isTrailing (unit : Nat) : Bool := 0xDC00 ≤ unit && unit ≤ 0xDFFF

/-- The second half of a pair, with its escape. -/
def trailingUnit (text : List Char) : Except ReadFault (Nat × List Char) :=
  match word ['\\', 'u'] text with
  | .error fault => .error fault
  | .ok rest =>
      match codeUnit rest with
      | .error fault => .error fault
      | .ok (unit, rest) => if isTrailing unit then .ok (unit, rest) else .error .malformed

/-- The character of an escape by code units. -/
def unicodeEscape (text : List Char) : Except ReadFault (Char × List Char) :=
  match codeUnit text with
  | .error fault => .error fault
  | .ok (unit, rest) =>
      if isTrailing unit then .error .malformed
      else if isLeading unit then
        match trailingUnit rest with
        | .error fault => .error fault
        | .ok (second, rest) =>
            .ok (Char.ofNat (0x10000 + 0x400 * (unit - 0xD800) + (second - 0xDC00)), rest)
      else .ok (Char.ofNat unit, rest)

/-- The characters with an escape of one letter. -/
def letterEscape? : Char → Option Char
  | '"' => some '"'
  | '\\' => some '\\'
  | '/' => some '/'
  | 'b' => some '\x08'
  | 'f' => some '\x0c'
  | 'n' => some '\n'
  | 'r' => some '\r'
  | 't' => some '\t'
  | _ => none

/-- The character of an escape, after its backslash. -/
def escaped : List Char → Except ReadFault (Char × List Char)
  | [] => .error .endOfText
  | c :: rest =>
      match letterEscape? c with
      | some value => .ok (value, rest)
      | none => if c = 'u' then unicodeEscape rest else .error .malformed

theorem codeUnit_lt {text rest : List Char} {unit : Nat} (h : codeUnit text = .ok (unit, rest)) :
    rest.length < text.length := by
  unfold codeUnit at h
  split at h
  · simp at h
  · split at h
    · split at h
      · obtain ⟨rfl, rfl⟩ := Prod.mk.inj (Except.ok.inj h)
        simp only [List.length_cons]
        omega
      · simp at h
    · simp at h

theorem trailingUnit_lt {text rest : List Char} {unit : Nat}
    (h : trailingUnit text = .ok (unit, rest)) : rest.length < text.length := by
  unfold trailingUnit at h
  split at h
  · simp at h
  · next after hw =>
      split at h
      · simp at h
      · next first left hu =>
          split at h
          · obtain ⟨rfl, rfl⟩ := Prod.mk.inj (Except.ok.inj h)
            exact Nat.lt_of_lt_of_le (codeUnit_lt hu) (word_le hw)
          · simp at h

theorem unicodeEscape_lt {text rest : List Char} {value : Char}
    (h : unicodeEscape text = .ok (value, rest)) : rest.length < text.length := by
  unfold unicodeEscape at h
  split at h
  · simp at h
  · next unit after hu =>
      split at h
      · simp at h
      · split at h
        · split at h
          · simp at h
          · next second left ht =>
              obtain ⟨rfl, rfl⟩ := Prod.mk.inj (Except.ok.inj h)
              exact Nat.lt_trans (trailingUnit_lt ht) (codeUnit_lt hu)
        · obtain ⟨rfl, rfl⟩ := Prod.mk.inj (Except.ok.inj h)
          exact codeUnit_lt hu

theorem escaped_lt {text rest : List Char} {value : Char}
    (h : escaped text = .ok (value, rest)) : rest.length < text.length := by
  cases text with
  | nil => simp [escaped] at h
  | cons c cs =>
      simp only [escaped] at h
      split at h
      · obtain ⟨rfl, rfl⟩ := Prod.mk.inj (Except.ok.inj h)
        simp
      · split at h
        · exact Nat.lt_succ_of_lt (unicodeEscape_lt h)
        · simp at h

/-- The characters of a quoted text after its first quote, and what follows the last one. -/
def stringBody (text : List Char) : Except ReadFault (List Char × List Char) :=
  match text with
  | [] => .error .endOfText
  | c :: rest =>
      if c = '"' then .ok ([], rest)
      else if c = '\\' then
        match _ : escaped rest with
        | .error fault => .error fault
        | .ok (value, after) =>
            match stringBody after with
            | .error fault => .error fault
            | .ok (values, left) => .ok (value :: values, left)
      else if c.toNat < 0x20 then .error .malformed
      else
        match stringBody rest with
        | .error fault => .error fault
        | .ok (values, left) => .ok (c :: values, left)
termination_by text.length
decreasing_by
  · next h =>
      have := escaped_lt h
      simp only [List.length_cons]
      omega
  · simp

theorem stringBody_lt {text values rest : List Char} (h : stringBody text = .ok (values, rest)) :
    rest.length < text.length := by
  fun_induction stringBody text generalizing values with
  | case1 => simp at h
  | case2 rest => simp_all
  | case3 => simp at h
  | case4 => simp at h
  | case5 rest value after he inner left hb _ ih =>
      obtain ⟨rfl, rfl⟩ := Prod.mk.inj (Except.ok.inj h)
      have h1 := ih hb
      have h2 := escaped_lt he
      simp only [List.length_cons]
      omega
  | case6 => simp at h
  | case7 => simp at h
  | case8 c rest _ _ _ inner left hb ih =>
      obtain ⟨rfl, rfl⟩ := Prod.mk.inj (Except.ok.inj h)
      exact Nat.lt_succ_of_lt (ih hb)

end Strings

end Reader
end HeaderBindings
