import HeaderBindings.Pattern.Escape

/-!
# Bracketed sets in patterns

A bracketed set lists characters, ranges, named sets and further bracketed sets.
Lists can be combined by `&&`, `--` and `~~`, which are applied from left to right
and bind less than listing.

**Algorithm.**  The text is read from the front.  A stack holds what is open: the
sets that the current one lies in, and the left side of an operation that waits
for its right side.
-/

namespace HeaderBindings
namespace Pattern
namespace Bracket

section State

/-- Operations on lists of members. -/
inductive Operation where
  | intersection
  | difference
  | symmetricDifference
deriving DecidableEq

/-- The members listed so far.  `depth` is the number of levels that they contain. -/
structure Listed where
  members : CharSet
  count : Nat
  depth : Nat

/-- No members yet. -/
def Listed.empty : Listed := ⟨[], 0, 0⟩

/-- A list with one more item. -/
def Listed.add (listed : Listed) (members : CharSet) (depth : Nat) : Listed :=
  ⟨listed.members ++ members, listed.count + 1, max listed.depth depth⟩

/-- The levels of a list as one item. -/
def Listed.levels (listed : Listed) : Nat :=
  if listed.count ≤ 1 then listed.depth else listed.depth + 1

/-- What is open around the current list. -/
inductive Frame where
  /-- A set, and what the enclosing set lists before it. -/
  | opened (isNegated : Bool) (outer : Listed)
  /-- The left side of an operation. -/
  | left (operation : Operation) (members : CharSet) (depth : Nat)

/-- A finished set: its members and its levels. -/
structure Finished where
  members : CharSet
  depth : Nat

end State

section Operations

/-- Applies an operation.  If case does not count, both sides get their other cases first. -/
def Operation.apply (flags : Flags) (operation : Operation) (first second : CharSet) : CharSet :=
  let first := flags.fold (CharSet.ofRanges first)
  let second := flags.fold (CharSet.ofRanges second)
  match operation with
  | .intersection => first.intersection second
  | .difference => first.difference second
  | .symmetricDifference => first.symmetricDifference second

/-- The current list after an operation that waits for it, and the frames below. -/
def settle (flags : Flags) (listed : Listed) : List Frame → Finished × List Frame
  | .left operation members depth :: frames =>
      (⟨operation.apply flags members listed.members, max depth listed.levels + 1⟩, frames)
  | frames => (⟨listed.members, listed.levels⟩, frames)

end Operations

section Reading

/-- The dashes at the front of a set, which stand for themselves. -/
def leadingDashes (flags : Flags) (listed : Listed) (text : List Char) : Listed × List Char :=
  match text with
  | '-' :: rest =>
      leadingDashes flags (listed.add (CharSet.single '-'.toNat) 0) (flags.skip rest)
  | _ => (listed, text)
termination_by text.length
decreasing_by
  have := flags.skip_le rest
  simp only [List.length_cons]
  omega

/-- Opens a set after its bracket: whether it is negated, and the members that stand for
themselves at its front, dashes or a closing bracket. -/
def enter (flags : Flags) (text : List Char) : Bool × Listed × List Char :=
  let text := flags.skip text
  let (isNegated, text) :=
    match text with
    | '^' :: rest => (true, flags.skip rest)
    | _ => (false, text)
  let (listed, text) := leadingDashes flags Listed.empty text
  match listed.count, text with
  | 0, ']' :: rest => (isNegated, listed.add (CharSet.single ']'.toNat) 0, flags.skip rest)
  | _, _ => (isNegated, listed, text)

/-- A set named between `[:` and `:]`, given the text after the bracket. -/
def named? (flags : Flags) (text : List Char) : Option (CharSet × List Char) := do
  match text with
  | ':' :: rest =>
      let (isNegated, rest) :=
        match rest with
        | '^' :: more => (true, more)
        | _ => (false, rest)
      let (name, after) ← Text.splitFirst? [':'] rest
      match after with
      | ']' :: left =>
          let set ← CharSet.bracketNames.lookup (String.ofList name)
          return (flags.sign isNegated (flags.fold set), left)
      | _ => none
  | _ => none

/-- A character or an escape in a set. -/
def item? (flags : Flags) : List Char → Option (Atom × List Char)
  | [] => none
  | '\\' :: rest => Escape.read? flags rest
  | c :: rest => some (.literal c.toNat false, rest)

/-- A range, or a single item.  A dash before a closing bracket or another dash is no range. -/
def range? (flags : Flags) (text : List Char) : Option (CharSet × List Char) := do
  let (first, rest) ← item? flags text
  match flags.skip rest with
  | [] => none
  | '-' :: more =>
      match flags.skip more with
      | [] => none
      | next :: after =>
          if next = ']' || next = '-' then
            let members ← first.members? flags
            return (members, '-' :: more)
          else
            let (second, left) ← item? flags (next :: after)
            let low ← first.code? flags
            let high ← second.code? flags
            if low ≤ high then return ([(low, high)], left) else none
  | other =>
      let members ← first.members? flags
      return (members, other)

/-- One step of reading a set. -/
inductive Move where
  | onward (frames : List Frame) (listed : Listed) (rest : List Char)
  | finished (set : Finished) (rest : List Char)

/-- Puts an operation onto the stack; its left side is what is listed so far. -/
def operate (flags : Flags) (operation : Operation) (frames : List Frame) (listed : Listed)
    (rest : List Char) : Move :=
  let (left, frames) := settle flags listed frames
  .onward (.left operation left.members left.depth :: frames) Listed.empty rest

/-- Closes the current set. -/
def close? (flags : Flags) (frames : List Frame) (listed : Listed) (rest : List Char) :
    Option Move := do
  let (inside, frames) := settle flags listed frames
  match frames with
  | .opened isNegated outer :: below =>
      let whole := flags.sign isNegated (flags.fold (CharSet.ofRanges inside.members))
      let set ← flags.checked whole
      match below with
      | [] => return .finished ⟨set, inside.depth + 1⟩ rest
      | _ :: _ => return .onward below (outer.add set (inside.depth + 1)) rest
  | _ => none

/-- The next step of reading a set. -/
def step? (flags : Flags) (frames : List Frame) (listed : Listed) (text : List Char) :
    Option Move := do
  match flags.skip text with
  | [] => none
  | '[' :: rest =>
      match if frames.isEmpty then none else named? flags rest with
      | some (set, left) =>
          let set ← flags.checked set
          return .onward frames (listed.add set 0) left
      | none =>
          let (isNegated, inner, left) := enter flags rest
          return .onward (.opened isNegated listed :: frames) inner left
  | ']' :: rest => close? flags frames listed rest
  | '&' :: '&' :: rest => return operate flags .intersection frames listed rest
  | '-' :: '-' :: rest => return operate flags .difference frames listed rest
  | '~' :: '~' :: rest => return operate flags .symmetricDifference frames listed rest
  | other =>
      let (members, left) ← range? flags other
      return .onward frames (listed.add members 0) left

/-- The set at the front of a text, and what follows it. -/
def readFrom (flags : Flags) (frames : List Frame) (listed : Listed) (text : List Char) :
    Option (Finished × List Char) :=
  match step? flags frames listed text with
  | none => none
  | some (.finished set rest) => some (set, rest)
  | some (.onward frames listed rest) =>
      if _h : rest.length < text.length then readFrom flags frames listed rest else none
termination_by text.length

/-- The bracketed set at the front of a text that begins with a bracket. -/
def read? (flags : Flags) (text : List Char) : Option (Finished × List Char) :=
  readFrom flags [] Listed.empty text

end Reading

end Bracket
end Pattern
end HeaderBindings
