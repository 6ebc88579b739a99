import HeaderBindings.Pattern.CharSet

/-!
# Patterns as expressions

An expression says which texts a pattern matches, and in which order the ways to
match are tried.

**Repetition.**  Repeating something that takes no text more than once is the same
as repeating it once, so such counts are cut to one.

**Size.**  `weight` estimates how many states of a machine an expression needs; a
pattern that is too heavy is refused.
-/

namespace HeaderBindings
namespace Pattern

/-- Conditions on the place between two characters. -/
inductive Look where
  | textStart
  | textEnd
  | lineStart
  | lineEnd
  /-- Lines may also end in a carriage return, with or without a line feed. -/
  | anyLineStart
  | anyLineEnd
  /-- A word begins or ends here. -/
  | wordEdge (unicode : Bool)
  | noWordEdge (unicode : Bool)
  | wordStart (unicode : Bool)
  | wordEnd (unicode : Bool)
  /-- No word character stands before this place. -/
  | afterNonWord (unicode : Bool)
  /-- No word character stands after this place. -/
  | beforeNonWord (unicode : Bool)
deriving DecidableEq

namespace Look

/-- Whether a neighbour is a word character. -/
def isWord (unicode : Bool) : Option Char → Bool
  | none => false
  | some c => if unicode then CharSet.wordChars.has c else CharSet.asciiWordChars.has c

/-- Whether a place between two characters meets a condition. -/
def holds (look : Look) (before after : Option Char) : Bool :=
  match look with
  | .textStart => before.isNone
  | .textEnd => after.isNone
  | .lineStart => before.isNone || before = some '\n'
  | .lineEnd => after.isNone || after = some '\n'
  | .anyLineStart =>
      before.isNone || before = some '\n' || (before = some '\r' && after ≠ some '\n')
  | .anyLineEnd =>
      after.isNone || after = some '\r' || (after = some '\n' && before ≠ some '\r')
  | .wordEdge unicode => isWord unicode before != isWord unicode after
  | .noWordEdge unicode => isWord unicode before == isWord unicode after
  | .wordStart unicode => !isWord unicode before && isWord unicode after
  | .wordEnd unicode => isWord unicode before && !isWord unicode after
  | .afterNonWord unicode => !isWord unicode before
  | .beforeNonWord unicode => !isWord unicode after

end Look

/-- What a pattern matches. -/
inductive Expr where
  | nothing
  | chars (set : CharSet)
  | look (condition : Look)
  | seq (first second : Expr)
  /-- The first alternative is tried first. -/
  | choice (first second : Expr)
  /-- A greedy repetition tries more rounds first; without `most` there is no upper bound. -/
  | rounds (body : Expr) (least : Nat) (most : Option Nat) (isGreedy : Bool)

namespace Expr

section Measures

/-- Whether an expression may match without taking text. -/
def mayTakeNothing : Expr → Bool
  | .nothing => true
  | .chars _ => false
  | .look _ => true
  | .seq first second => first.mayTakeNothing && second.mayTakeNothing
  | .choice first second => first.mayTakeNothing || second.mayTakeNothing
  | .rounds body least _ _ => least = 0 || body.mayTakeNothing

/-- Whether an expression never takes text. -/
def takesNothing : Expr → Bool
  | .nothing => true
  | .chars _ => false
  | .look _ => true
  | .seq first second => first.takesNothing && second.takesNothing
  | .choice first second => first.takesNothing && second.takesNothing
  | .rounds body _ most _ => most = some 0 || body.takesNothing

/-- The states for a set of characters: one for a single short range, else two for a range. -/
def setWeight (set : CharSet) : Nat :=
  if set.length ≤ 1 && CharSet.isAscii set then 1 else 2 * set.length

/-- The number of states that an expression needs, roughly. -/
def weight : Expr → Nat
  | .nothing => 1
  | .chars set => setWeight set
  | .look _ => 1
  | .seq first second => first.weight + second.weight
  | .choice first second => first.weight + second.weight + 1
  | .rounds body least most _ =>
      match most with
      | none => body.weight * max least 1 + 2
      | some bound => body.weight * least + (body.weight + 1) * (bound - least) + 1

/-- The heaviest expression for which a machine is made. -/
def heaviest : Nat := 327680

end Measures

section Building

/-- A repetition, with counts of at most one if its body takes no text. -/
def repeated (body : Expr) (least : Nat) (most : Option Nat) (isGreedy : Bool) : Expr :=
  if body.takesNothing then
    .rounds body (min least 1) (some (min (most.getD 1) 1)) isGreedy
  else .rounds body least most isGreedy

end Building

end Expr
end Pattern
end HeaderBindings
