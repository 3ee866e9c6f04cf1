import DurableCalc.Pattern.Basic
import DurableCalc.Pattern.Modes

/-!
# Escapes in patterns

What a backslash and the characters after it stand for. Classes that take the tables of Unicode to
spell out are not known: `\d`, `\s` and `\w` are there for ASCII only, and `\p` is not there at all.
-/

namespace DurableCalc.Pattern

inductive Escape
  /-- A character, and whether it is written as a byte in hexadecimal. -/
  | literal (c : Char) (asByte : Bool)
  | cls (ranges : List (Char × Char)) (negated : Bool)
  | anchor (start : Bool)
  | word (a : Anchor)
  deriving DecidableEq, Repr

def hexDigit? (c : Char) : Option Nat :=
  if c.isDigit then some (c.toNat - '0'.toNat)
  else if 'a' ≤ c && c ≤ 'f' then some (c.toNat - 'a'.toNat + 10)
  else if 'A' ≤ c && c ≤ 'F' then some (c.toNat - 'A'.toNat + 10)
  else none

def readHex? (m : Modes) : Nat → Nat → List Char → Option (Nat × List Char)
  | 0, n, text => some (n, m.skip text)
  | count + 1, n, text =>
    match m.skip text with
    | [] => none
    | c :: rest =>
      match hexDigit? c with
      | none => none
      | some digit => readHex? m count (16 * n + digit) rest

def readCodePoint? (m : Modes) (digits : Nat) (asByte : Bool) (text : List Char) :
    Option (Escape × List Char) :=
  match readHex? m digits 0 text with
  | none => none
  | some (n, rest) =>
    if n.isValidChar then some (.literal (Char.ofNat n) asByte, rest) else none

def Escape.class? (c : Char) : Option Escape :=
  let name :=
    match c.toLower with
    | 'd' => "digit"
    | 's' => "space"
    | 'w' => "word"
    | _ => ""
  (CharClass.asciiRanges? name).map fun ranges => .cls ranges c.isUpper

def Escape.read? (m : Modes) : List Char → Option (Escape × List Char)
  | [] => none
  | c :: rest =>
    let char (c : Char) : Option (Escape × List Char) := some (.literal c false, rest)
    match c with
    | 'x' => readCodePoint? m 2 true rest
    | 'u' => readCodePoint? m 4 false rest
    | 'U' => readCodePoint? m 8 false rest
    | 'a' => char '\x07'
    | 't' => char '\t'
    | 'n' => char '\n'
    | 'v' => char '\x0b'
    | 'f' => char '\x0c'
    | 'r' => char '\r'
    | 'A' => some (.anchor true, rest)
    | 'z' => some (.anchor false, rest)
    | 'b' => if rest.head? = some '\x7b' then none else some (.word .wordBoundary, rest)
    | 'B' => some (.word .notWordBoundary, rest)
    | '<' => some (.word .wordStart, rest)
    | '>' => some (.word .wordStop, rest)
    | _ =>
      if c.isAlpha then (Escape.class? c).map fun e => (e, rest)
      else if c.isDigit || 0x80 ≤ c.toNat then none
      else char c

end DurableCalc.Pattern
