import HeaderBindings.Pattern.Expr

/-!
# Machines for patterns

A pattern runs as a machine: a table of states, where a state takes a character,
checks a place, tries two states in order, or accepts.

**Run.**  The machine holds a list of threads, each of them a state, those that are
tried first in front.  Before each character a thread is followed through the
states that take nothing; a state that another thread has reached before is not
entered again.  When a thread accepts, the threads behind it are given up.  So the
run finds what the first successful way through the pattern takes.

**Loops.**  A repetition of something that can take nothing is made as an optional
repetition of at least one round, so that an empty round does not hide the way out.
-/

namespace HeaderBindings
namespace Pattern

/-- A state of a machine; the numbers are places in the table of states. -/
inductive Node where
  | accept
  | chars (set : CharSet) (next : Nat)
  | look (condition : Look) (next : Nat)
  | fork (first second : Nat)

/-- A table of states, and the state that a run begins with. -/
structure Machine where
  nodes : Array Node
  entry : Nat

namespace Machine

section Building

/-- A table to which states are added, and the state from which to go on. -/
abbrev Draft := Array Node × Nat

/-- Adds a state and goes on from it. -/
def put (nodes : Array Node) (node : Node) : Draft :=
  (nodes.push node, nodes.size)

/-- A choice between two states, the first one first if greedy. -/
def forkTo (isGreedy : Bool) (inside outside : Nat) : Node :=
  if isGreedy then .fork inside outside else .fork outside inside

/-- A number of rounds, one before another. -/
def exactly (body : Draft → Draft) : Nat → Draft → Draft
  | 0, draft => draft
  | count + 1, draft => exactly body count (body draft)

/-- At most a number of rounds; from before each of them one can leave to `outside`. -/
def atMost (body : Draft → Draft) (isGreedy : Bool) (outside : Nat) : Nat → Draft → Draft
  | 0, draft => draft
  | count + 1, draft =>
      let (nodes, inside) := body (atMost body isGreedy outside count draft)
      put nodes (forkTo isGreedy inside outside)

/-- One round or more: the entry of the round, and the state after each round. -/
def loop (body : Draft → Draft) (isGreedy : Bool) (draft : Draft) : Draft × Nat :=
  let (nodes, outside) := draft
  let (opened, back) := put nodes .accept
  let (nodes, inside) := body (opened, back)
  ((nodes.setIfInBounds back (forkTo isGreedy inside outside), inside), back)

/-- Adds the states of an expression in front of the state from which the draft goes on. -/
def build : Expr → Draft → Draft
  | .nothing, draft => draft
  | .chars set, (nodes, next) => put nodes (.chars set next)
  | .look condition, (nodes, next) => put nodes (.look condition next)
  | .seq first second, draft => build first (build second draft)
  | .choice first second, (nodes, next) =>
      let (nodes, right) := build second (nodes, next)
      let (nodes, left) := build first (nodes, next)
      put nodes (.fork left right)
  | .rounds body least most isGreedy, draft =>
      match most with
      | some bound =>
          exactly (build body) least
            (atMost (build body) isGreedy draft.2 (bound - least) draft)
      | none =>
          let ((nodes, inside), back) := loop (build body) isGreedy draft
          match least with
          | 0 =>
              if body.mayTakeNothing then put nodes (forkTo isGreedy inside draft.2)
              else (nodes, back)
          | fewer + 1 => exactly (build body) fewer (nodes, inside)

/-- The machine of an expression. -/
def ofExpr (expr : Expr) : Machine :=
  let (nodes, entry) := build expr (#[.accept], 0)
  ⟨nodes, entry⟩

end Building

section Running

/-- The threads at a place, and the states that were entered there. -/
structure Threads where
  entered : Array Bool
  /-- States that take a character or accept, last one first. -/
  found : List Node

/-- No threads. -/
def noThreads (machine : Machine) : Threads :=
  ⟨Array.replicate machine.nodes.size false, []⟩

/-- Follows states through those that take nothing, in order.  Each state is entered at most
once and leads to at most two others, so that `3 * nodes.size + 1` steps are enough. -/
def follow (machine : Machine) (before after : Option Char) :
    Nat → List Nat → Threads → Threads
  | 0, _, threads => threads
  | _ + 1, [], threads => threads
  | steps + 1, place :: waiting, threads =>
      if threads.entered.getD place true then follow machine before after steps waiting threads
      else
        let threads := { threads with entered := threads.entered.setIfInBounds place true }
        match machine.nodes[place]? with
        | none => follow machine before after steps waiting threads
        | some (.fork first second) =>
            follow machine before after steps (first :: second :: waiting) threads
        | some (.look condition next) =>
            if condition.holds before after then
              follow machine before after steps (next :: waiting) threads
            else follow machine before after steps waiting threads
        | some node =>
            follow machine before after steps waiting
              { threads with found := node :: threads.found }

/-- Follows one state. -/
def enter (machine : Machine) (before after : Option Char) (place : Nat) (threads : Threads) :
    Threads :=
  follow machine before after (3 * machine.nodes.size + 1) [place] threads

/-- The threads in front of the first one that accepts, and whether there is one. -/
def cut : List Node → List Node × Bool
  | [] => ([], false)
  | .accept :: _ => ([], true)
  | node :: rest =>
      let (front, accepts) := cut rest
      (node :: front, accepts)

/-- The threads after a character. -/
def advance (machine : Machine) (c : Char) (after : Option Char) (threads : List Node) : Threads :=
  threads.foldl (fun reached node =>
    match node with
    | .chars set next =>
        if set.has c then machine.enter (some c) after next reached else reached
    | _ => reached) machine.noThreads

/-- The length of the match at the front of a text, given the threads there, the number of
characters that they have taken, and the best match so far. -/
def run (machine : Machine) (threads : List Node) (taken : Nat) (best : Option Nat) :
    List Char → Option Nat
  | [] => if (cut threads).2 then some taken else best
  | c :: rest =>
      let (front, accepts) := cut threads
      let best := if accepts then some taken else best
      if front.isEmpty then best
      else run machine (machine.advance c rest.head? front).found.reverse (taken + 1) best rest

/-- The length of the match at the front of a text that stands after a given character. -/
def matchFront? (machine : Machine) (before : Option Char) (text : List Char) : Option Nat :=
  let threads := machine.enter before text.head? machine.entry machine.noThreads
  run machine threads.found.reverse 0 none text

/-- A text without its first match. -/
def removeFrom (machine : Machine) (before : Option Char) : List Char → List Char
  | [] => []
  | c :: rest =>
      match machine.matchFront? before (c :: rest) with
      | some length => (c :: rest).drop length
      | none => c :: removeFrom machine (some c) rest

end Running

end Machine
end Pattern
end HeaderBindings
