import DurableCalc.Pattern.Escape

/-!
# Classes in brackets

A class between brackets lists characters, ranges, escapes, named ASCII classes such as
`[:alpha:]`, and further classes. A caret in front negates it. `&&`, `--` and `~~` intersect,
subtract and take the symmetric difference, from left to right.

The case of letters is ignored for ASCII only, so that a class that ignores it has to be without
Unicode. Without Unicode a class is of ASCII characters: it is not negated and names no others.
-/

namespace DurableCalc.Pattern

structure Bracket where
  cls : CharClass
  depth : Nat := 0
  deriving DecidableEq, Repr

namespace Bracket

inductive Operation
  | intersect
  | subtract
  | symmetric
  deriving DecidableEq, Repr

def Operation.apply : Operation → CharClass → CharClass → CharClass
  | .intersect => .inter
  | .subtract => .diff
  | .symmetric => .symmDiff

def range? (m : Modes) (low high : Char) : Option Bracket :=
  if m.unicode then
    if m.ignoreCase then none else some { cls := .range low high false }
  else if low.toNat < 0x80 && high.toNat < 0x80 then
    some { cls := .range low high m.ignoreCase }
  else none

def negate? (m : Modes) (negated : Bool) (cls : CharClass) : Option CharClass :=
  if negated then (if m.unicode then some (.compl cls) else none) else some cls

def ofEscape? (m : Modes) : Escape → Option Bracket
  | .literal c _ => range? m c c
  | .cls ranges negated =>
    if m.unicode || negated then none else some { cls := .ofRanges false ranges }
  | .anchor _ => none
  | .word _ => none

/-- The list of some items, the last one first. -/
def ofItems (items : List Bracket) : Bracket :=
  match items with
  | [item] => item
  | [] => { cls := .nothing }
  | items =>
    { cls := .unions (items.map cls), depth := (items.map depth).foldl max 0 + 1 }

/-- Takes a list as the right side of an operation that waits for it. -/
def join (waiting : Option (Operation × Bracket)) (items : List Bracket) : Bracket :=
  let right := ofItems items
  match waiting with
  | none => right
  | some (operation, left) =>
    { cls := operation.apply left.cls right.cls, depth := max left.depth right.depth + 1 }

def named? (m : Modes) : List Char → Option (Option Bracket × List Char)
  | ':' :: text =>
    let (negated, text) :=
      match text with
      | '^' :: text => (true, text)
      | _ => (false, text)
    let name := text.takeWhile (· ≠ ':')
    match text.drop name.length, CharClass.asciiRanges? (String.ofList name) with
    | ':' :: ']' :: rest, some ranges =>
      let bracket : Option Bracket :=
        if m.unicode && m.ignoreCase then none
        else (negate? m negated (.ofRanges m.ignoreCase ranges)).map fun cls => { cls }
      some (bracket, rest)
    | _, _ => none
  | _ => none

def readMember? (m : Modes) : List Char → Option (Escape × List Char)
  | [] => none
  | '\\' :: rest => Escape.read? m rest
  | c :: rest => some (.literal c false, rest)

/-- The character that comes next after one, in the eyes of a dash. -/
def peek (m : Modes) (text : List Char) : Option Char :=
  if m.verbose then
    match text.dropWhile Text.isBlank with
    | '#' :: rest => (rest.dropWhile Text.isBlank).head?.or text.head?
    | rest => rest.head?.or text.head?
  else text.head?

def readRange? (m : Modes) (text : List Char) : Option (Bracket × List Char) :=
  match readMember? m text with
  | none => none
  | some (low, rest) =>
    match m.skip rest with
    | [] => none
    | '-' :: after =>
      if peek m after = some ']' || peek m after = some '-' then
        (ofEscape? m low).map fun item => (item, '-' :: after)
      else
        match low, readMember? m (m.skip after) with
        | .literal low _, some (.literal high _, rest) =>
          if low ≤ high then (range? m low high).map fun item => (item, rest) else none
        | _, _ => none
    | rest => (ofEscape? m low).map fun item => (item, rest)

/-- Reads a class up to its closing bracket. At its opening dashes stand for themselves, and so does
a closing bracket that is its first item. -/
def readSet (m : Modes) : Nat → Bool → Bool → Option (Operation × Bracket) → List Bracket →
    List Char → Option (Bracket × List Char)
  | 0, _, _, _, _, _ => none
  | fuel + 1, opening, negated, waiting, items, text =>
    let itself (c : Char) (opening : Bool) (rest : List Char) : Option (Bracket × List Char) :=
      match range? m c c with
      | none => none
      | some item => readSet m fuel opening negated waiting (item :: items) rest
    let operate (operation : Operation) (rest : List Char) : Option (Bracket × List Char) :=
      readSet m fuel false negated (some (operation, join waiting items)) [] rest
    match opening, m.skip text with
    | _, [] => none
    | true, '-' :: rest => itself '-' true rest
    | true, ']' :: rest =>
      if items.isEmpty then itself ']' false rest
      else readSet m fuel false negated waiting items (']' :: rest)
    | _, ']' :: rest =>
      let whole := join waiting items
      (negate? m negated whole.cls).map fun cls => ({ cls, depth := whole.depth + 1 }, rest)
    | _, '[' :: rest =>
      match named? m rest with
      | some (none, _) => none
      | some (some item, rest) => readSet m fuel false negated waiting (item :: items) rest
      | none =>
        let inner :=
          match m.skip rest with
          | '^' :: rest => readSet m fuel true true none [] rest
          | rest => readSet m fuel true false none [] rest
        match inner with
        | none => none
        | some (item, rest) => readSet m fuel false negated waiting (item :: items) rest
    | _, '&' :: '&' :: rest => operate .intersect rest
    | _, '-' :: '-' :: rest => operate .subtract rest
    | _, '~' :: '~' :: rest => operate .symmetric rest
    | _, text =>
      match readRange? m text with
      | none => none
      | some (item, rest) => readSet m fuel false negated waiting (item :: items) rest

def read? (m : Modes) (text : List Char) : Option (Bracket × List Char) :=
  match m.skip text with
  | '^' :: rest => readSet m (2 * text.length) true true none [] rest
  | rest => readSet m (2 * text.length) true false none [] rest

end Bracket

end DurableCalc.Pattern
