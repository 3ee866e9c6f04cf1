/-!
# Classes of characters

A class is built from ranges by the operations of sets. A folded range does not tell the ASCII
letters' cases apart.
-/

namespace DurableCalc

inductive CharClass
  | nothing
  | range (low high : Char) (folded : Bool)
  | compl (a : CharClass)
  | union (a b : CharClass)
  | inter (a b : CharClass)
  | diff (a b : CharClass)
  | symmDiff (a b : CharClass)
  deriving DecidableEq, Repr

namespace CharClass

def swapCase (c : Char) : Char :=
  if c.isUpper then c.toLower else c.toUpper

def contains : CharClass → Char → Bool
  | .nothing, _ => false
  | .range low high folded, c =>
    (low ≤ c && c ≤ high) || (folded && low ≤ swapCase c && swapCase c ≤ high)
  | .compl a, c => !a.contains c
  | .union a b, c => a.contains c || b.contains c
  | .inter a b, c => a.contains c && b.contains c
  | .diff a b, c => a.contains c && !b.contains c
  | .symmDiff a b, c => a.contains c != b.contains c

def unions (classes : List CharClass) : CharClass :=
  classes.foldr .union .nothing

def asciiRanges? (name : String) : Option (List (Char × Char)) :=
  match name with
  | "alnum" => some [('0', '9'), ('A', 'Z'), ('a', 'z')]
  | "alpha" => some [('A', 'Z'), ('a', 'z')]
  | "ascii" => some [('\x00', '\x7f')]
  | "blank" => some [('\t', '\t'), (' ', ' ')]
  | "cntrl" => some [('\x00', '\x1f'), ('\x7f', '\x7f')]
  | "digit" => some [('0', '9')]
  | "graph" => some [('!', '~')]
  | "lower" => some [('a', 'z')]
  | "print" => some [(' ', '~')]
  | "punct" => some [('!', '/'), (':', '@'), ('[', '\x60'), ('\x7b', '~')]
  | "space" => some [('\t', '\r'), (' ', ' ')]
  | "upper" => some [('A', 'Z')]
  | "word" => some [('0', '9'), ('A', 'Z'), ('_', '_'), ('a', 'z')]
  | "xdigit" => some [('0', '9'), ('A', 'F'), ('a', 'f')]
  | _ => none

def ofRanges (folded : Bool) (ranges : List (Char × Char)) : CharClass :=
  unions (ranges.map fun r => .range r.1 r.2 folded)

end CharClass

end DurableCalc
