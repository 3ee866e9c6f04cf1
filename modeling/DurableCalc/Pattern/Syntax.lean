import DurableCalc.Pattern.Bracket
import DurableCalc.Text.Letter

/-!
# Reading patterns

A pattern is written as alternatives between bars, each a row of characters, escapes, classes,
anchors and groups, with `?`, `*` and `+` behind what they repeat. A group may be named, or may
switch modes. `Pattern.read?` refuses what has no meaning, what looks around or back, and what it
would take the tables of Unicode to match.
-/

namespace DurableCalc.Pattern

/-- One member of a row, and how deep it nests; a switch of modes is a member without a pattern. -/
structure Member where
  pattern : Option Pattern
  depth : Nat := 0
  deriving DecidableEq, Repr

namespace Member

def ofRow (members : List Member) : Member :=
  match members with
  | [] => { pattern := some .empty }
  | [member] => { member with pattern := some (member.pattern.getD .empty) }
  | members =>
    { pattern := some ((members.reverse.filterMap pattern).foldr .seq .empty)
      depth := (members.map depth).foldl max 0 + 1 }

def ofAlternatives (first : Member) (others : List Member) : Member :=
  match others with
  | [] => first
  | others =>
    let patterns := ((first :: others).reverse).filterMap pattern
    { pattern := some (patterns.dropLast.foldr .alt (patterns.getLast?.getD .empty))
      depth := ((first :: others).map depth).foldl max 0 + 1 }

end Member

def ofChar? (m : Modes) (c : Char) (asByte : Bool) : Option Pattern :=
  if m.unicode then
    if m.ignoreCase then none else some (.one (.range c c false))
  else if asByte && 0x80 ≤ c.toNat then none
  else some (.one (.range c c m.ignoreCase))

def ofEscape? (m : Modes) : Escape → Option Pattern
  | .literal c asByte => ofChar? m c asByte
  | .cls ranges negated =>
    if m.unicode || negated then none else some (.one (.ofRanges false ranges))
  | .anchor start => some (.anchor (if start then .start else .stop))
  | .word a => if m.unicode then none else some (.anchor a)

def dot? (m : Modes) : Option Pattern :=
  let only (c : Char) : CharClass := .range c c false
  if !m.unicode then none
  else if m.dotMatchesNewline then some (.one (.compl .nothing))
  else if m.carriageReturns then some (.one (.compl (.union (only '\n') (only '\r'))))
  else some (.one (.compl (only '\n')))

def lineAnchor (m : Modes) (start : Bool) : Anchor :=
  match m.multiLine, start with
  | true, true => .lineStart m.carriageReturns
  | true, false => .lineStop m.carriageReturns
  | false, true => .start
  | false, false => .stop

def repeated (sign : Char) (greedy : Bool) (p : Pattern) : Pattern :=
  if sign = '?' then .optional p greedy
  else if sign = '*' then .star p greedy
  else .plus p greedy

def readName? (names : List String) (text : List Char) : Option (String × List Char) :=
  let name := text.takeWhile (· ≠ '>')
  let isFit :=
    match name with
    | [] => false
    | c :: rest =>
      (c = '_' || Text.isAlphabetic c) &&
        rest.all fun c => "_.[]".toList.contains c || Text.isAlphanumeric c
  match text.drop name.length with
  | '>' :: rest =>
    if isFit && !names.contains (String.ofList name) then some (String.ofList name, rest) else none
  | _ => none

inductive Opening
  | group (modes : Modes) (name : Option String)
  | switch (modes : Modes)

def readOpening? (m : Modes) (names : List String) (text : List Char) :
    Option (Opening × List Char) :=
  match m.skip text with
  | '?' :: 'P' :: '<' :: rest => named rest
  | '?' :: '<' :: rest => named rest
  | '?' :: rest =>
    match m.read? [] none rest with
    | some (modes, _, ':' :: rest) => some (.group modes none, rest)
    | some (modes, true, ')' :: rest) => some (.switch modes, rest)
    | _ => none
  | rest => some (.group m none, rest)
where
  named (rest : List Char) : Option (Opening × List Char) :=
    (readName? names rest).map fun (name, rest) => (.group m (some name), rest)

def readMember? (m : Modes) : List Char → Option (Member × List Char)
  | [] => none
  | '\\' :: rest =>
    match Escape.read? m rest with
    | none => none
    | some (e, rest) => (ofEscape? m e).map fun p => ({ pattern := some p }, rest)
  | '[' :: rest =>
    (Bracket.read? m rest).map fun (b, rest) =>
      ({ pattern := some (.one b.cls), depth := b.depth }, rest)
  | '.' :: rest => (dot? m).map fun p => ({ pattern := some p }, rest)
  | '^' :: rest => some ({ pattern := some (.anchor (lineAnchor m true)) }, rest)
  | '$' :: rest => some ({ pattern := some (.anchor (lineAnchor m false)) }, rest)
  | '\x7b' :: _ => none
  | c :: rest => (ofChar? m c false).map fun p => ({ pattern := some p }, rest)

/-- Reads alternatives up to the end of their group or of the text. Given are the modes, the names
in use, and the alternatives and members that were read so far, the last ones first. -/
def readAlternatives : Nat → Modes → List String → List Member → List Member → List Char →
    Option (Member × List String × List Char)
  | 0, _, _, _, _, _ => none
  | fuel + 1, m, names, alternatives, row, text =>
    let finished (rest : List Char) : Option (Member × List String × List Char) :=
      some (.ofAlternatives (.ofRow row) alternatives, names, rest)
    let again (sign : Char) (rest : List Char) : Option (Member × List String × List Char) :=
      match row with
      | { pattern := some p, depth } :: row =>
        let (isMarked, rest) :=
          match rest with
          | '?' :: rest => (true, rest)
          | rest => (false, rest)
        let pattern := some (repeated sign (isMarked == m.swapGreed) p)
        readAlternatives fuel m names alternatives ({ pattern, depth := depth + 1 } :: row) rest
      | _ => none
    match m.skip text with
    | [] => finished []
    | ')' :: rest => finished (')' :: rest)
    | '|' :: rest => readAlternatives fuel m names (.ofRow row :: alternatives) [] rest
    | '?' :: rest => again '?' rest
    | '*' :: rest => again '*' rest
    | '+' :: rest => again '+' rest
    | '(' :: rest =>
      match readOpening? m names rest with
      | none => none
      | some (.switch modes, rest) =>
        readAlternatives fuel modes names alternatives ({ pattern := none } :: row) rest
      | some (.group modes name, rest) =>
        match readAlternatives fuel modes (name.toList ++ names) [] [] rest with
        | some (inner, names, ')' :: rest) =>
          readAlternatives fuel m names alternatives
            ({ inner with depth := inner.depth + 1 } :: row) rest
        | _ => none
    | text =>
      match readMember? m text with
      | none => none
      | some (member, rest) => readAlternatives fuel m names alternatives (member :: row) rest

def nestingLimit : Nat := 250

def read? (text : List Char) : Option Pattern :=
  match readAlternatives (text.length + 1) {} [] [] [] text with
  | some (member, _, []) => if member.depth ≤ nestingLimit then member.pattern else none
  | _ => none

end DurableCalc.Pattern
