import HeaderBindings.Pattern.Expr
import HeaderBindings.Text.Blank
import HeaderBindings.Text.Search

/-!
# Flags and escapes of patterns

Flags decide how the parts of a pattern are read: whether case counts, what a line
is, whether sets are sets of characters or of bytes, and whether blanks in the
pattern itself are skipped.

An escape is a backslash with what follows it.  It stands for one character, for a
set of characters, or for a condition on a place.
-/

namespace HeaderBindings
namespace Pattern

/-- How the parts of a pattern are read. -/
structure Flags where
  ignoresCase : Bool
  /-- `^` and `$` also hold at the ends of lines. -/
  seesLines : Bool
  /-- `.` also matches a line feed. -/
  dotTakesAll : Bool
  /-- `?` after a repetition makes it greedy, and not the other way round. -/
  swapsGreed : Bool
  isUnicode : Bool
  /-- A carriage return also ends a line. -/
  knowsReturn : Bool
  /-- Blanks and comments in the pattern do not count. -/
  skipsBlanks : Bool
deriving DecidableEq

namespace Flags

/-- The flags at the front of a pattern. -/
def initial : Flags := ⟨false, false, false, false, true, false, false⟩

/-- Flags with the one of a given letter set; `none` if there is no such letter. -/
def set? (flags : Flags) (letter : Char) (value : Bool) : Option Flags :=
  match letter with
  | 'i' => some { flags with ignoresCase := value }
  | 'm' => some { flags with seesLines := value }
  | 's' => some { flags with dotTakesAll := value }
  | 'U' => some { flags with swapsGreed := value }
  | 'u' => some { flags with isUnicode := value }
  | 'R' => some { flags with knowsReturn := value }
  | 'x' => some { flags with skipsBlanks := value }
  | _ => none

/-- A set with the other cases of its letters, if case does not count. -/
def fold (flags : Flags) (set : CharSet) : CharSet :=
  if flags.ignoresCase then
    if flags.isUnicode then set.withCases else set.withAsciiCases
  else set

/-- The highest member that a set may have. -/
def limit (flags : Flags) : Nat := if flags.isUnicode then CharSet.highest else 0xFF

/-- A set, or its complement. -/
def sign (flags : Flags) (isNegated : Bool) (set : CharSet) : CharSet :=
  if isNegated then set.complement flags.limit else set

/-- A set of bytes must not reach beyond the characters that are single bytes. -/
def checked (flags : Flags) (set : CharSet) : Option CharSet :=
  if flags.isUnicode || set.isAscii then some set else none

end Flags

section Gaps

/-- Text without the blanks and comments at its front. -/
def dropComments : Bool → List Char → List Char
  | _, [] => []
  | true, c :: rest => dropComments (c ≠ '\n') rest
  | false, c :: rest =>
      if Text.isBlank c then dropComments false rest
      else if c = '#' then dropComments true rest
      else c :: rest

theorem dropComments_le (inside : Bool) (text : List Char) :
    (dropComments inside text).length ≤ text.length := by
  induction text generalizing inside with
  | nil =>
      simp [dropComments]
  | cons c rest ih =>
      have hfalse := ih false
      have htrue := ih true
      cases inside with
      | true =>
          have hrest := ih (decide (c ≠ '\n'))
          simp only [dropComments, List.length_cons]
          omega
      | false =>
          simp only [dropComments, List.length_cons]
          split
          · omega
          · split
            · omega
            · exact Nat.le_refl _

/-- Text without what the flags say to skip. -/
def Flags.skip (flags : Flags) (text : List Char) : List Char :=
  if flags.skipsBlanks then dropComments false text else text

theorem Flags.skip_le (flags : Flags) (text : List Char) :
    (flags.skip text).length ≤ text.length := by
  unfold Flags.skip
  split
  · exact dropComments_le false text
  · exact Nat.le_refl _

end Gaps

/-- What an escape, or a plain character, stands for. -/
inductive Atom where
  /-- A character; `isByte` if it was given as a byte of two hexadecimal digits. -/
  | literal (code : Nat) (isByte : Bool)
  /-- A named set of the character database. -/
  | property (set : CharSet) (isNegated : Bool)
  /-- A set that has one form for characters and one for bytes. -/
  | shorthand (set asciiSet : CharSet) (isNegated : Bool)
  | look (condition : Look)

namespace Atom

/-- The expression for an atom that stands alone. -/
def expr? (flags : Flags) : Atom → Option Expr
  | .literal code isByte =>
      if flags.isUnicode then some (.chars (flags.fold (CharSet.single code)))
      else if isByte && code > 0x7F then none
      else if code > 0x7F then some (.chars (CharSet.single code))
      else some (.chars (flags.fold (CharSet.single code)))
  | .property set isNegated =>
      if flags.isUnicode then some (.chars (flags.sign isNegated (flags.fold set))) else none
  | .shorthand set asciiSet isNegated =>
      if flags.isUnicode then some (.chars (flags.sign isNegated set))
      else (flags.checked (flags.sign isNegated asciiSet)).map .chars
  | .look condition => some (.look condition)

/-- The code of an atom that can be an end of a range. -/
def code? (flags : Flags) : Atom → Option Nat
  | .literal code isByte =>
      if flags.isUnicode || isByte || code ≤ 0x7F then some code else none
  | _ => none

/-- The members that an atom adds to a bracketed set. -/
def members? (flags : Flags) : Atom → Option CharSet
  | .literal code isByte => ((Atom.literal code isByte).code? flags).map CharSet.single
  | .property set isNegated =>
      if flags.isUnicode then some (flags.sign isNegated (flags.fold set)) else none
  | .shorthand set asciiSet isNegated =>
      if flags.isUnicode then some (flags.sign isNegated set)
      else flags.checked (flags.sign isNegated asciiSet)
  | .look _ => none

end Atom

namespace Escape

section Numbers

/-- The value of a hexadecimal digit. -/
def hexDigit? (c : Char) : Option Nat :=
  if '0' ≤ c && c ≤ '9' then some (c.toNat - '0'.toNat)
  else if 'a' ≤ c && c ≤ 'f' then some (c.toNat - 'a'.toNat + 10)
  else if 'A' ≤ c && c ≤ 'F' then some (c.toNat - 'A'.toNat + 10)
  else none

/-- The value of hexadecimal digits. -/
def hexValue? (digits : List Char) : Option Nat :=
  digits.foldl (fun value c => do
    let sum ← value
    let digit ← hexDigit? c
    return sum * 16 + digit) (some 0)

/-- A code point that is a character. -/
def scalar? (code : Nat) : Option Nat :=
  if code < 0xD800 || (0xDFFF < code && code ≤ CharSet.highest) then some code else none

/-- The next characters of a text, blanks between them skipped, as many as asked for. -/
def takeChars (flags : Flags) : Nat → List Char → Option (List Char × List Char)
  | 0, text => some ([], text)
  | _ + 1, [] => none
  | count + 1, c :: rest =>
      (takeChars flags count (flags.skip rest)).map fun (taken, left) => (c :: taken, left)

/-- The text up to a closing brace, blanks in it skipped, and what follows the brace. -/
def untilBrace (flags : Flags) (text : List Char) : Option (List Char × List Char) :=
  match _h : flags.skip text with
  | [] => none
  | c :: rest =>
      if c = '}' then some ([], rest)
      else (untilBrace flags rest).map fun (taken, left) => (c :: taken, left)
termination_by text.length
decreasing_by
  have := flags.skip_le text
  simp only [_h, List.length_cons] at this
  omega

/-- A character given by its code, with `count` digits or any number of digits in braces. -/
def hex? (flags : Flags) (count : Nat) (text : List Char) : Option (Atom × List Char) := do
  match flags.skip text with
  | '{' :: rest =>
      let (digits, left) ← untilBrace flags rest
      if digits.isEmpty then none
      else
        let code ← (hexValue? digits).bind scalar?
        return (.literal code false, flags.skip left)
  | other =>
      let (digits, left) ← takeChars flags count other
      let code ← (hexValue? digits).bind scalar?
      return (.literal code (count == 2), left)

end Numbers

section Sets

/-- The set of a name in braces: a property, or a property and its value. -/
def braced? (isNegated : Bool) (name : List Char) : Option Atom :=
  match Text.splitFirst? ['!', '='] name with
  | some (property, value) =>
      (valueSet? property value).map fun ranges => .property (CharSet.ofRanges ranges) !isNegated
  | none =>
      let parts :=
        match Text.splitFirst? [':'] name with
        | some parts => some parts
        | none => Text.splitFirst? ['='] name
      match parts with
      | some (property, value) =>
          (valueSet? property value).map fun ranges =>
            .property (CharSet.ofRanges ranges) isNegated
      | none =>
          (namedSet? name).map fun ranges => .property (CharSet.ofRanges ranges) isNegated

/-- A set named by one letter or by a name in braces. -/
def property? (flags : Flags) (isNegated : Bool) (text : List Char) :
    Option (Atom × List Char) := do
  match flags.skip text with
  | [] => none
  | '{' :: rest =>
      let (name, left) ← untilBrace flags rest
      let atom ← braced? isNegated name
      return (atom, left)
  | c :: rest =>
      if c = '\\' then none
      else
        let ranges ← namedSet? [c]
        return (.property (CharSet.ofRanges ranges) isNegated, flags.skip rest)

end Sets

section Words

/-- Whether a character can be part of the name of a condition on words. -/
def isNamePart (c : Char) : Bool :=
  ('A' ≤ c && c ≤ 'Z') || ('a' ≤ c && c ≤ 'z') || c = '-'

/-- The condition of a name in braces. -/
def namedLook? (unicode : Bool) (name : List Char) : Option Look :=
  if name = "start".toList then some (.wordStart unicode)
  else if name = "end".toList then some (.wordEnd unicode)
  else if name = "start-half".toList then some (.afterNonWord unicode)
  else if name = "end-half".toList then some (.beforeNonWord unicode)
  else none

/-- The edge of a word, or the condition that a name in braces gives.  A brace with something
else in it is left for a repetition. -/
def wordEdge? (flags : Flags) (text : List Char) : Option (Atom × List Char) :=
  match text with
  | '{' :: rest =>
      match flags.skip rest with
      | [] => none
      | c :: _ =>
          if isNamePart c then do
            let (name, left) ← untilBrace flags rest
            let condition ← namedLook? flags.isUnicode name
            return (.look condition, left)
          else some (.look (.wordEdge flags.isUnicode), text)
  | _ => some (.look (.wordEdge flags.isUnicode), text)

end Words

/-- Whether a character stands for itself after a backslash. -/
def isPlain (c : Char) : Bool :=
  c.toNat < 128 && !c.isAlphanum && c ≠ '<' && c ≠ '>'

/-- What an escape stands for, given the text after the backslash. -/
def read? (flags : Flags) : List Char → Option (Atom × List Char)
  | [] => none
  | c :: rest =>
      match c with
      | 'x' => hex? flags 2 rest
      | 'u' => hex? flags 4 rest
      | 'U' => hex? flags 8 rest
      | 'p' => property? flags false rest
      | 'P' => property? flags true rest
      | 'd' => some (.shorthand CharSet.digits CharSet.asciiDigits false, rest)
      | 'D' => some (.shorthand CharSet.digits CharSet.asciiDigits true, rest)
      | 's' => some (.shorthand CharSet.space CharSet.asciiSpace false, rest)
      | 'S' => some (.shorthand CharSet.space CharSet.asciiSpace true, rest)
      | 'w' => some (.shorthand CharSet.wordChars CharSet.asciiWordChars false, rest)
      | 'W' => some (.shorthand CharSet.wordChars CharSet.asciiWordChars true, rest)
      | 'a' => some (.literal 0x07 false, rest)
      | 't' => some (.literal 0x09 false, rest)
      | 'n' => some (.literal 0x0A false, rest)
      | 'v' => some (.literal 0x0B false, rest)
      | 'f' => some (.literal 0x0C false, rest)
      | 'r' => some (.literal 0x0D false, rest)
      | 'A' => some (.look .textStart, rest)
      | 'z' => some (.look .textEnd, rest)
      | 'b' => wordEdge? flags rest
      | 'B' => some (.look (.noWordEdge flags.isUnicode), rest)
      | '<' => some (.look (.wordStart flags.isUnicode), rest)
      | '>' => some (.look (.wordEnd flags.isUnicode), rest)
      | _ => if isPlain c then some (.literal c.toNat false, rest) else none

end Escape
end Pattern
end HeaderBindings
