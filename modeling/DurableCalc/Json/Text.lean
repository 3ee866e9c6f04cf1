import DurableCalc.Text.Utf8

/-!
# JSON strings

`writeText` puts a text between quotes and escapes what has to be escaped and nothing else: the
quote, the backslash and the characters below U+0020. `readText?` undoes any spelling of a string;
a lone surrogate, or bytes that are not UTF-8, spell no text.
-/

namespace DurableCalc.Json

open Text

def escape (c : Char) : List Char :=
  match c with
  | '"' => ['\\', '"']
  | '\\' => ['\\', '\\']
  | '\x08' => ['\\', 'b']
  | '\t' => ['\\', 't']
  | '\n' => ['\\', 'n']
  | '\x0c' => ['\\', 'f']
  | '\r' => ['\\', 'r']
  | c =>
    if c.toNat < 0x20 then
      ['\\', 'u', '0', '0', Nat.digitChar (c.toNat / 16), Nat.digitChar (c.toNat % 16)]
    else [c]

def writeText (text : String) : Bytes :=
  encode (String.ofList ('"' :: text.toList.flatMap escape ++ ['"']))

def hexValue? (b : UInt8) : Option Nat :=
  if 0x30 ≤ b && b ≤ 0x39 then some (b.toNat - 0x30)
  else if 0x41 ≤ b && b ≤ 0x46 then some (b.toNat - 0x37)
  else if 0x61 ≤ b && b ≤ 0x66 then some (b.toNat - 0x57)
  else none

def unit? (a b c d : UInt8) : Option Nat := do
  let a ← hexValue? a
  let b ← hexValue? b
  let c ← hexValue? c
  let d ← hexValue? d
  return ((a * 16 + b) * 16 + c) * 16 + d

/-- The UTF-8 bytes of a code point that is not a surrogate. -/
def codePoint? (n : Nat) : Option Bytes :=
  if h : n.isValidChar then some (String.utf8EncodeChar (Char.ofNatAux n h)) else none

def unescape? : Bytes → Option Bytes
  | [] => some []
  | 0x5c :: 0x75 :: a :: b :: c :: d :: rest => do
    let high ← unit? a b c d
    if 0xd800 ≤ high && high < 0xdc00 then
      match rest with
      | 0x5c :: 0x75 :: a :: b :: c :: d :: rest => do
        let low ← unit? a b c d
        if 0xdc00 ≤ low && low < 0xe000 then
          return (← codePoint? (0x10000 + (high - 0xd800) * 0x400 + (low - 0xdc00))) ++
            (← unescape? rest)
        else none
      | _ => none
    else
      return (← codePoint? high) ++ (← unescape? rest)
  | 0x5c :: b :: rest => do
    let plain ← match Char.ofUInt8 b with
      | '"' => some 0x22
      | '\\' => some 0x5c
      | '/' => some 0x2f
      | 'b' => some 0x08
      | 'f' => some 0x0c
      | 'n' => some 0x0a
      | 'r' => some 0x0d
      | 't' => some 0x09
      | _ => none
    return plain :: (← unescape? rest)
  | b :: rest => do
    return b :: (← unescape? rest)

def readText? (string : Bytes) : Option String :=
  match string with
  | 0x22 :: rest => (unescape? rest.dropLast).bind decode?
  | _ => none

end DurableCalc.Json
