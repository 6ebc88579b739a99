import HeaderBindings.Pattern.Bracket
import HeaderBindings.Text.Category

/-!
# Reading patterns

A pattern is a choice between sequences of parts; a part can be repeated, and
groups nest.  A group can have a name, which only has to be different from the
names of other groups, and can set flags for what it holds.

**Algorithm.**  The text is read from the front.  A *level* holds the finished
alternatives and the parts of the current one; a stack of levels holds the groups
that are still open.

**Limits.**  A pattern that nests more than `deepest` levels is refused.
-/

namespace HeaderBindings
namespace Pattern
namespace Parser

section State

/-- A part of a pattern.  `depth` is the number of levels in it; a part that only sets flags
cannot be repeated. -/
structure Part where
  expr : Expr
  depth : Nat
  setsFlags : Bool

/-- A part with no levels. -/
def Part.flat (expr : Expr) : Part := ⟨expr, 0, false⟩

/-- The contents of a group so far, last part first. -/
structure Level where
  flags : Flags
  alternatives : List Part
  parts : List Part

/-- The state of reading: the groups that are open, innermost first, and the names so far. -/
structure State where
  level : Level
  outer : List Level
  names : List (List Char)

end State

section Joining

/-- The greatest depth of some parts. -/
def deepestOf (parts : List Part) : Nat := parts.foldl (fun depth part => max depth part.depth) 0

/-- Parts, last one first, one after another. -/
def sequence : List Part → Part
  | [] => Part.flat .nothing
  | [part] => ⟨part.expr, part.depth, false⟩
  | last :: others =>
      let expr := others.foldl (fun rest part => Expr.seq part.expr rest) last.expr
      ⟨expr, deepestOf (last :: others) + 1, false⟩

/-- A choice between parts, last one first. -/
def choice : List Part → Part
  | [] => Part.flat .nothing
  | [part] => part
  | last :: others =>
      let expr := others.foldl (fun rest part => Expr.choice part.expr rest) last.expr
      ⟨expr, deepestOf (last :: others) + 1, false⟩

/-- The contents of a level as one part. -/
def Level.close (level : Level) : Part :=
  choice (sequence level.parts :: level.alternatives)

/-- A level with one more part. -/
def Level.add (level : Level) (part : Part) : Level :=
  { level with parts := part :: level.parts }

/-- A state with one more part. -/
def State.add (state : State) (part : Part) : State :=
  { state with level := state.level.add part }

end Joining

section Groups

/-- Whether a character is a letter of any script. -/
def isLetter (c : Char) : Bool :=
  Text.inRanges ((storedSet? propertySets "alphabetic").getD []) c.toNat

/-- Whether a character may stand in the name of a group after its first character. -/
def isNameChar (c : Char) : Bool :=
  c = '_' || c = '.' || c = '[' || c = ']' || isLetter c || (Text.categoryOf c).1 = 'N'

/-- Whether a text is the name of a group. -/
def isGroupName : List Char → Bool
  | [] => false
  | first :: rest => (first = '_' || isLetter first) && rest.all isNameChar

/-- Flags as they are written: letters, with a dash before those that are unset.  No letter and
no dash may stand twice, and no dash last. -/
def setFlags? (letters : List Char) (flags : Flags) : Option Flags :=
  let switched := letters.foldl (fun current letter =>
    match current with
    | none => none
    | some (value, flags) =>
        if letter = '-' then some (false, flags)
        else (Flags.set? flags letter value).map fun flags => (value, flags))
    (some (true, flags))
  if letters.getLast? = some '-' || letters.eraseDups.length < letters.length then none
  else switched.map fun (_, flags) => flags

/-- Opens a group with the given flags inside. -/
def State.enter (state : State) (flags : Flags) : State :=
  { state with level := ⟨flags, [], []⟩, outer := state.level :: state.outer }

/-- Opens a group with a name. -/
def named? (state : State) (text : List Char) : Option (State × List Char) := do
  let (name, rest) ← Text.splitFirst? ['>'] text
  if isGroupName name && !state.names.contains name then
    return ({ state.enter state.level.flags with names := name :: state.names }, rest)
  else none

/-- What follows an opening parenthesis and a question mark: flags for the rest of the level, or
a group with flags. -/
def flagged? (state : State) (text : List Char) : Option (State × List Char) := do
  let letters := text.takeWhile fun c => c ≠ ':' && c ≠ ')'
  let flags ← setFlags? letters state.level.flags
  match text.drop letters.length with
  | ')' :: rest =>
      if letters.isEmpty then none
      else
        let level := { state.level with flags := flags }
        return ({ state with level := level.add ⟨.nothing, 0, true⟩ }, rest)
  | ':' :: rest => return (state.enter flags, rest)
  | _ => none

/-- What follows an opening parenthesis. -/
def open? (state : State) (text : List Char) : Option (State × List Char) :=
  match state.level.flags.skip text with
  | '?' :: '=' :: _ => none
  | '?' :: '!' :: _ => none
  | '?' :: '<' :: '=' :: _ => none
  | '?' :: '<' :: '!' :: _ => none
  | '?' :: 'P' :: '<' :: rest => named? state rest
  | '?' :: '<' :: rest => named? state rest
  | '?' :: rest => flagged? state rest
  | rest => some (state.enter state.level.flags, rest)

/-- Closes the innermost group. -/
def close? (state : State) : Option State :=
  match state.outer with
  | [] => none
  | level :: outer =>
      let inside := state.level.close
      some { state with level := level.add ⟨inside.expr, inside.depth + 1, false⟩, outer := outer }

end Groups

section Repetition

/-- The number that begins with `value` and goes on with the digits of a text. -/
def digits (flags : Flags) (value : Option Nat) (text : List Char) : Option Nat × List Char :=
  match text with
  | [] => (value, [])
  | c :: rest =>
      if c.isDigit then
        digits flags (some (value.getD 0 * 10 + (c.toNat - '0'.toNat))) (flags.skip rest)
      else (value, c :: rest)
termination_by text.length
decreasing_by
  have := flags.skip_le rest
  simp only [List.length_cons]
  omega

/-- A decimal number below `2 ^ 32`, with blanks around it. -/
def decimal? (flags : Flags) (text : List Char) : Option Nat × List Char :=
  let (value, rest) := digits flags none (text.dropWhile Text.isBlank)
  (value.filter (· < Nat.pow 2 32), rest.dropWhile Text.isBlank)

/-- The counts of a repetition, given the text after the opening brace. -/
def counts? (flags : Flags) (text : List Char) : Option (Nat × Option Nat × List Char) := do
  let (least, rest) := decimal? flags (flags.skip text)
  match rest with
  | ',' :: more =>
      match flags.skip more with
      | '}' :: left => return (← least, none, flags.skip left)
      | other =>
          let (most, after) := decimal? flags other
          match after with
          | '}' :: left =>
              let low ← least
              let high ← most
              if low ≤ high then return (low, some high, flags.skip left) else none
          | _ => none
  | '}' :: left =>
      let count ← least
      return (count, some count, flags.skip left)
  | _ => none

/-- Repeats the last part.  A question mark after the repetition changes which count is tried
first. -/
def repeat? (state : State) (least : Nat) (most : Option Nat) (text : List Char) :
    Option (State × List Char) :=
  match state.level.parts with
  | [] => none
  | part :: others =>
      if part.setsFlags then none
      else
        let (isGreedy, rest) :=
          match text with
          | '?' :: rest => (false, rest)
          | _ => (true, text)
        let isGreedy := if state.level.flags.swapsGreed then !isGreedy else isGreedy
        let repeated := Expr.repeated part.expr least most isGreedy
        let level := { state.level with parts := ⟨repeated, part.depth + 1, false⟩ :: others }
        some ({ state with level := level }, rest)

end Repetition

section Reading

/-- The set of a dot; there is none for bytes. -/
def dot? (flags : Flags) : Option Expr :=
  if !flags.isUnicode then none
  else if flags.dotTakesAll then some (.chars [(0, CharSet.highest)])
  else if flags.knowsReturn then
    some (.chars (CharSet.complement CharSet.highest [(0x0A, 0x0A), (0x0D, 0x0D)]))
  else some (.chars (CharSet.complement CharSet.highest [(0x0A, 0x0A)]))

/-- The condition of a caret. -/
def caret (flags : Flags) : Look :=
  if !flags.seesLines then .textStart
  else if flags.knowsReturn then .anyLineStart
  else .lineStart

/-- The condition of a dollar sign. -/
def dollar (flags : Flags) : Look :=
  if !flags.seesLines then .textEnd
  else if flags.knowsReturn then .anyLineEnd
  else .lineEnd

/-- The next step of reading a pattern, given a text that is not empty. -/
def step? (state : State) (first : Char) (rest : List Char) : Option (State × List Char) := do
  let flags := state.level.flags
  match first with
  | '(' => open? state rest
  | ')' => return (← close? state, rest)
  | '|' =>
      let level := { state.level with
        alternatives := sequence state.level.parts :: state.level.alternatives
        parts := [] }
      return ({ state with level := level }, rest)
  | '[' =>
      let (set, left) ← Bracket.read? flags (first :: rest)
      return (state.add ⟨.chars set.members, set.depth, false⟩, left)
  | '?' => repeat? state 0 (some 1) rest
  | '*' => repeat? state 0 none rest
  | '+' => repeat? state 1 none rest
  | '{' =>
      if state.level.parts.isEmpty then none
      else
        let (least, most, left) ← counts? flags rest
        repeat? state least most left
  | '\\' =>
      let (atom, left) ← Escape.read? flags rest
      return (state.add (Part.flat (← atom.expr? flags)), left)
  | '.' => return (state.add (Part.flat (← dot? flags)), rest)
  | '^' => return (state.add (Part.flat (.look (caret flags))), rest)
  | '$' => return (state.add (Part.flat (.look (dollar flags))), rest)
  | c =>
      return (state.add (Part.flat (← (Atom.literal c.toNat false).expr? flags)), rest)

/-- Reads a text to its end. -/
def readFrom (state : State) (text : List Char) : Option State :=
  match state.level.flags.skip text with
  | [] => some state
  | first :: rest =>
      match step? state first rest with
      | none => none
      | some (state, left) =>
          if _h : left.length < text.length then readFrom state left else none
termination_by text.length

/-- The most levels that a pattern may nest. -/
def deepest : Nat := 250

/-- The expression that a pattern text stands for. -/
def read? (text : List Char) : Option Expr := do
  let state ← readFrom ⟨⟨Flags.initial, [], []⟩, [], []⟩ text
  let whole := state.level.close
  if state.outer.isEmpty && whole.depth ≤ deepest && whole.expr.weight ≤ Expr.heaviest then
    return whole.expr
  else none

end Reading

end Parser
end Pattern
end HeaderBindings
