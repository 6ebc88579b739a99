import HeaderBindings.Text.LetterCase
import HeaderBindings.Pattern.Property

/-!
# Sets of characters in patterns

A set of characters is a list of ranges of code points, in order and apart from
each other.  The operations of bracketed sets are union, complement, intersection
and the two differences; a set that ignores case also holds the other case of
each of its letters.

**Letters that share a case.**  Two letters belong together if one is the upper or
lower case of the other.  The dotless and the dotted `i` of Turkish stand apart.
-/

namespace HeaderBindings
namespace Pattern

/-- Ranges of code points, ends included, in order and apart from each other. -/
abbrev CharSet := List (Nat × Nat)

namespace CharSet

section Operations

/-- The highest code point. -/
def highest : Nat := 0x10FFFF

/-- Ranges in order, with ranges that touch made one. -/
def mergeOrdered : CharSet → CharSet
  | [] => []
  | range :: rest =>
      match mergeOrdered rest with
      | [] => [range]
      | next :: others =>
          if next.1 ≤ range.2 + 1 then (range.1, max range.2 next.2) :: others
          else range :: next :: others

/-- The set with the members of any list of ranges. -/
def ofRanges (ranges : List (Nat × Nat)) : CharSet :=
  mergeOrdered (ranges.mergeSort fun first second => first.1 ≤ second.1)

/-- The set with one member. -/
def single (code : Nat) : CharSet := [(code, code)]

/-- Whether a character is a member. -/
def has (set : CharSet) (c : Char) : Bool := Text.inRanges set c.toNat

/-- Members of either set. -/
def union (first second : CharSet) : CharSet := ofRanges (first ++ second)

/-- The code points from `start` up to `limit` that lie in no range. -/
def gapsFrom (limit start : Nat) : CharSet → CharSet
  | [] => if start ≤ limit then [(start, limit)] else []
  | (first, last) :: rest =>
      if start < first then (start, first - 1) :: gapsFrom limit (last + 1) rest
      else gapsFrom limit (last + 1) rest

/-- The code points up to `limit` that are not members. -/
def complement (limit : Nat) (set : CharSet) : CharSet := gapsFrom limit 0 set

/-- Members of both sets. -/
def intersection (first second : CharSet) : CharSet :=
  complement highest (union (complement highest first) (complement highest second))

/-- Members of the first set that are not in the second. -/
def difference (first second : CharSet) : CharSet :=
  intersection first (complement highest second)

/-- Members of exactly one of the sets. -/
def symmetricDifference (first second : CharSet) : CharSet :=
  difference (union first second) (intersection first second)

/-- Whether all members are in the first half of a byte. -/
def isAscii (set : CharSet) : Bool := set.all fun range => range.2 < 128

end Operations

section Case

/-- The members of a run of letters, each with its other case. -/
def runPairs (run : Text.CaseRun) : List (Nat × Nat) :=
  (List.range ((run.last - run.first) / run.step + 1)).map fun i =>
    let code := run.first + i * run.step
    (code, ((code : Int) + run.shift).toNat)

/-- The dotless `i`, which has no other case here. -/
def dotlessI : Nat := 0x131

/-- All letters with another case, each with that case. -/
def casePairs : List (Nat × Nat) :=
  ((Text.upperRuns ++ Text.lowerRuns).flatMap runPairs).filter fun pair => pair.1 ≠ dotlessI

/-- Letters that are the other case of a member, in either direction. -/
def otherCases (set : CharSet) : List (Nat × Nat) :=
  casePairs.flatMap fun pair =>
    let forth := if Text.inRanges set pair.1 then [(pair.2, pair.2)] else []
    let back := if Text.inRanges set pair.2 then [(pair.1, pair.1)] else []
    forth ++ back

/-- A set together with the other cases of its letters.  Letters that share a case are at most
three steps apart. -/
def withCases (set : CharSet) : CharSet :=
  let once := ofRanges (set ++ otherCases set)
  let twice := ofRanges (once ++ otherCases once)
  ofRanges (twice ++ otherCases twice)

/-- A set together with the other cases of its members from `a` to `z`. -/
def withAsciiCases (set : CharSet) : CharSet :=
  let letters := (List.range 26).flatMap fun i =>
    let forth := if Text.inRanges set (0x41 + i) then [(0x61 + i, 0x61 + i)] else []
    let back := if Text.inRanges set (0x61 + i) then [(0x41 + i, 0x41 + i)] else []
    forth ++ back
  ofRanges (set ++ letters)

end Case

section Classes

/-- The digits of any script. -/
def digits : CharSet := ofRanges digitRanges

/-- White space. -/
def space : CharSet := ofRanges spaceRanges

/-- Word characters. -/
def wordChars : CharSet := ofRanges wordRanges

/-- The digits of a byte. -/
def asciiDigits : CharSet := [(0x30, 0x39)]

/-- The white space of a byte. -/
def asciiSpace : CharSet := [(0x09, 0x0D), (0x20, 0x20)]

/-- The word characters of a byte. -/
def asciiWordChars : CharSet := [(0x30, 0x39), (0x41, 0x5A), (0x5F, 0x5F), (0x61, 0x7A)]

/-- Sets named between `[:` and `:]`. -/
def bracketNames : List (String × CharSet) :=
  [("alnum", [(0x30, 0x39), (0x41, 0x5A), (0x61, 0x7A)]),
    ("alpha", [(0x41, 0x5A), (0x61, 0x7A)]),
    ("ascii", [(0x00, 0x7F)]),
    ("blank", [(0x09, 0x09), (0x20, 0x20)]),
    ("cntrl", [(0x00, 0x1F), (0x7F, 0x7F)]),
    ("digit", asciiDigits),
    ("graph", [(0x21, 0x7E)]),
    ("lower", [(0x61, 0x7A)]),
    ("print", [(0x20, 0x7E)]),
    ("punct", [(0x21, 0x2F), (0x3A, 0x40), (0x5B, 0x60), (0x7B, 0x7E)]),
    ("space", asciiSpace),
    ("upper", [(0x41, 0x5A)]),
    ("word", asciiWordChars),
    ("xdigit", [(0x30, 0x39), (0x41, 0x46), (0x61, 0x66)])]

end Classes

end CharSet
end Pattern
end HeaderBindings
