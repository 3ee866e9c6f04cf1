import DurableCalc.Pattern.CharClass

/-!
# Patterns

A pattern is a regular expression with preferences: an alternative prefers its first side, a greedy
repetition prefers another round, a lazy one prefers to go on. `Pattern.fits` looks for the pattern
from every place of a text. Among the matches found so far the preferred one hides all that come
after it in preference, those that begin later included, and a text fits if a match that is not
hidden ends at its end. So `su|sum` does not fit `sum`, but `sum|su` does.
-/

namespace DurableCalc

inductive Anchor
  | start
  | stop
  /-- A line's start and end; carriage returns, alone or before a newline, may end a line too. -/
  | lineStart (carriageReturns : Bool)
  | lineStop (carriageReturns : Bool)
  | wordBoundary
  | notWordBoundary
  | wordStart
  | wordStop
  deriving DecidableEq, Repr

def isWordChar (c : Char) : Bool :=
  c.isAlphanum || c = '_'

/-- Whether a condition holds between two characters, one of which is missing at an end of the
text. -/
def Anchor.holds (before after : Option Char) : Anchor → Bool
  | .start => before.isNone
  | .stop => after.isNone
  | .lineStart false => before.all (· = '\n')
  | .lineStart true => before.all (· = '\n') || (before = some '\r' && after ≠ some '\n')
  | .lineStop false => after.all (· = '\n')
  | .lineStop true => after.all (· = '\r') || (after = some '\n' && before ≠ some '\r')
  | .wordBoundary => before.any isWordChar != after.any isWordChar
  | .notWordBoundary => before.any isWordChar == after.any isWordChar
  | .wordStart => !before.any isWordChar && after.any isWordChar
  | .wordStop => before.any isWordChar && !after.any isWordChar

inductive Pattern
  | empty
  | one (cls : CharClass)
  | anchor (a : Anchor)
  | seq (p q : Pattern)
  | alt (p q : Pattern)
  | optional (p : Pattern) (greedy : Bool)
  | star (p : Pattern) (greedy : Bool)
  | plus (p : Pattern) (greedy : Bool)
  /-- A repetition that has had a round. -/
  | again (p : Pattern) (greedy : Bool)
  deriving DecidableEq, Repr

namespace Pattern

def size : Pattern → Nat
  | .empty | .one _ | .anchor _ => 1
  | .seq p q | .alt p q => p.size + q.size + 1
  | .optional p _ | .star p _ | .plus p _ | .again p _ => p.size + 1

/-- What is still to be matched, part by part. -/
abbrev Goal := List Pattern

def prefer (first : Bool) (a b : Goal) : List Goal :=
  if first then [a, b] else [b, a]

/-- The goals that a goal comes to without a character, the preferred one first; none if it has to
take a character or has nothing left to match. -/
def expand? (before after : Option Char) : Goal → Option (List Goal)
  | [] => none
  | .one _ :: _ => none
  | .empty :: rest => some [rest]
  | .anchor a :: rest => some (if a.holds before after then [rest] else [])
  | .seq p q :: rest => some [p :: q :: rest]
  | .alt p q :: rest => some [p :: rest, q :: rest]
  | .optional p greedy :: rest => some (prefer greedy (p :: rest) rest)
  | .star p greedy :: rest => some (prefer greedy (p :: .again p greedy :: rest) rest)
  | .plus p greedy :: rest => some [p :: .again p greedy :: rest]
  | .again p greedy :: rest => some (prefer greedy (p :: .again p greedy :: rest) rest)

/-- The goals that take a character or have nothing left to match, in the order of preference, among
those that some goals come to. A goal that was met before is preferred where it was met. -/
def reach (before after : Option Char) : Nat → List Goal → List Goal → List Goal
  | 0, _, _ => []
  | _ + 1, _, [] => []
  | fuel + 1, met, goal :: goals =>
    if met.contains goal then reach before after fuel met goals
    else
      match expand? before after goal with
      | some next => reach before after fuel (goal :: met) (next ++ goals)
      | none => goal :: reach before after fuel (goal :: met) goals

def advance (c : Char) (goals : List Goal) : List Goal :=
  goals.filterMap fun
    | .one cls :: rest => if cls.contains c then some rest else none
    | _ => none

/-- Matches a text from a place on. New matches may begin there and later, unless one that is over
hides them. -/
def fitsFrom (p : Pattern) (before : Option Char) (beginning : Bool) (goals : List Goal) :
    List Char → Bool
  | [] => (here none).contains []
  | c :: rest =>
    let goals := here (some c)
    let isOver := goals.contains []
    fitsFrom p (some c) (beginning && !isOver) (advance c (goals.takeWhile (· ≠ []))) rest
where
  here (after : Option Char) : List Goal :=
    let goals := if beginning then goals ++ [[p]] else goals
    reach before after (4 * p.size + goals.length + 4) [] goals

def fits (p : Pattern) (text : List Char) : Bool :=
  fitsFrom p none true [] text

end Pattern

end DurableCalc
