import DurableCalc.Text.Blank

/-!
# Modes of reading a pattern

A mode is switched by a letter, on before a dash and off after it. Modes hold to the end of the
group that they are switched in.
-/

namespace DurableCalc.Pattern

structure Modes where
  ignoreCase : Bool := false
  multiLine : Bool := false
  dotMatchesNewline : Bool := false
  /-- Repetitions are lazy unless marked. -/
  swapGreed : Bool := false
  /-- Characters are all those of Unicode, not the ASCII ones only. -/
  unicode : Bool := true
  carriageReturns : Bool := false
  verbose : Bool := false
  deriving DecidableEq, Repr

namespace Modes

def set? (m : Modes) (on : Bool) : Char → Option Modes
  | 'i' => some { m with ignoreCase := on }
  | 'm' => some { m with multiLine := on }
  | 's' => some { m with dotMatchesNewline := on }
  | 'U' => some { m with swapGreed := on }
  | 'u' => some { m with unicode := on }
  | 'R' => some { m with carriageReturns := on }
  | 'x' => some { m with verbose := on }
  | _ => none

/-- Reads letters up to a colon or a closing parenthesis, and tells whether there were any. A letter
may be given once, and so may the dash, which a letter has to follow. -/
def read? (m : Modes) (given : List Char) (previous : Option Char) :
    List Char → Option (Modes × Bool × List Char)
  | [] => none
  | c :: rest =>
    if c = ':' || c = ')' then
      if previous = some '-' then none else some (m, !given.isEmpty, c :: rest)
    else if given.contains c then none
    else if c = '-' then read? m (c :: given) (some c) rest
    else
      match m.set? (!given.contains '-') c with
      | none => none
      | some m => read? m (c :: given) (some c) rest

/-- Drops blanks and comments; a comment goes from a `#` to the end of its line. -/
def dropRemarks (inComment : Bool) : List Char → List Char
  | [] => []
  | c :: rest =>
    if inComment then dropRemarks (c ≠ '\n') rest
    else if Text.isBlank c then dropRemarks false rest
    else if c = '#' then dropRemarks true rest
    else c :: rest

def skip (m : Modes) (text : List Char) : List Char :=
  if m.verbose then dropRemarks false text else text

end Modes

end DurableCalc.Pattern
