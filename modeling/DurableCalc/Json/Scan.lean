import DurableCalc.Text.Utf8

/-!
# Where a JSON value ends

A scanner reads a byte string one byte at a time and finds the end of the JSON value that it starts
with. It keeps the open containers on a stack, so nesting is unlimited, and it looks only at the
grammar: the bytes of a string above U+001F are taken as they are, and an escape of a lone surrogate
is as good as any other.
-/

namespace DurableCalc.Json

def isBlank (b : UInt8) : Bool :=
  b == 0x20 || b == 0x09 || b == 0x0a || b == 0x0d

def isDigit (b : UInt8) : Bool :=
  0x30 ≤ b && b ≤ 0x39

def isHexDigit (b : UInt8) : Bool :=
  isDigit b || (0x41 ≤ b && b ≤ 0x46) || (0x61 ≤ b && b ≤ 0x66)

def dropBlanks (bytes : Bytes) : Bytes :=
  bytes.dropWhile isBlank

inductive Frame
  | array
  | object
  deriving DecidableEq, Repr

inductive Mode
  | value
  /-- A value has to start or the array has to close. -/
  | valueOrEnd
  | key
  /-- A key has to start or the object has to close. -/
  | keyOrEnd
  | colon
  | after
  | text (isKey : Bool)
  | escape (isKey : Bool)
  /-- So many more hexadecimal digits, and one. -/
  | hex (isKey : Bool) (more : Nat)
  | word (rest : Bytes)
  | minus
  | zero
  | whole
  | point
  | fraction
  | exponentMark
  | exponentSign
  | exponent
  deriving DecidableEq, Repr

def Mode.isComplete : Mode → Bool
  | .after | .zero | .whole | .fraction | .exponent => true
  | _ => false

def Mode.closed (isKey : Bool) : Mode :=
  if isKey then .colon else .after

def begin (stack : List Frame) (b : UInt8) : Option (List Frame × Mode) :=
  if isBlank b then some (stack, .value)
  else match Char.ofUInt8 b with
    | '"' => some (stack, .text false)
    | '[' => some (.array :: stack, .valueOrEnd)
    | '{' => some (.object :: stack, .keyOrEnd)
    | '-' => some (stack, .minus)
    | '0' => some (stack, .zero)
    | 't' => some (stack, .word [0x72, 0x75, 0x65])
    | 'f' => some (stack, .word [0x61, 0x6c, 0x73, 0x65])
    | 'n' => some (stack, .word [0x75, 0x6c, 0x6c])
    | _ => if isDigit b then some (stack, .whole) else none

/-- A byte after a value; outside of all containers there is none. -/
def follow (stack : List Frame) (b : UInt8) : Option (List Frame × Mode) :=
  match stack with
  | [] => none
  | .array :: outer =>
    if isBlank b then some (stack, .after)
    else match Char.ofUInt8 b with
      | ',' => some (stack, .value)
      | ']' => some (outer, .after)
      | _ => none
  | .object :: outer =>
    if isBlank b then some (stack, .after)
    else match Char.ofUInt8 b with
      | ',' => some (stack, .key)
      | '}' => some (outer, .after)
      | _ => none

def followDigits (stack : List Frame) (b : UInt8) : Option (List Frame × Mode) :=
  match Char.ofUInt8 b with
  | '.' => some (stack, .point)
  | 'e' | 'E' => some (stack, .exponentMark)
  | _ => follow stack b

def step (stack : List Frame) (mode : Mode) (b : UInt8) : Option (List Frame × Mode) :=
  match mode with
  | .value => begin stack b
  | .valueOrEnd =>
    if isBlank b then some (stack, .valueOrEnd)
    else if Char.ofUInt8 b = ']' then some (stack.tail, .after)
    else begin stack b
  | .key =>
    if isBlank b then some (stack, .key)
    else if Char.ofUInt8 b = '"' then some (stack, .text true)
    else none
  | .keyOrEnd =>
    if isBlank b then some (stack, .keyOrEnd)
    else match Char.ofUInt8 b with
      | '}' => some (stack.tail, .after)
      | '"' => some (stack, .text true)
      | _ => none
  | .colon =>
    if isBlank b then some (stack, .colon)
    else if Char.ofUInt8 b = ':' then some (stack, .value)
    else none
  | .after => follow stack b
  | .text isKey =>
    match Char.ofUInt8 b with
    | '"' => some (stack, .closed isKey)
    | '\\' => some (stack, .escape isKey)
    | _ => if b < 0x20 then none else some (stack, .text isKey)
  | .escape isKey =>
    match Char.ofUInt8 b with
    | '"' | '\\' | '/' | 'b' | 'f' | 'n' | 'r' | 't' => some (stack, .text isKey)
    | 'u' => some (stack, .hex isKey 3)
    | _ => none
  | .hex isKey more =>
    if isHexDigit b then
      match more with
      | 0 => some (stack, .text isKey)
      | n + 1 => some (stack, .hex isKey n)
    else none
  | .word rest =>
    match rest with
    | [] => none
    | [last] => if b = last then some (stack, .after) else none
    | next :: rest => if b = next then some (stack, .word rest) else none
  | .minus =>
    if Char.ofUInt8 b = '0' then some (stack, .zero)
    else if isDigit b then some (stack, .whole)
    else none
  | .zero => followDigits stack b
  | .whole => if isDigit b then some (stack, .whole) else followDigits stack b
  | .point => if isDigit b then some (stack, .fraction) else none
  | .fraction =>
    if isDigit b then some (stack, .fraction)
    else match Char.ofUInt8 b with
      | 'e' | 'E' => some (stack, .exponentMark)
      | _ => follow stack b
  | .exponentMark =>
    match Char.ofUInt8 b with
    | '+' | '-' => some (stack, .exponentSign)
    | _ => if isDigit b then some (stack, .exponent) else none
  | .exponentSign => if isDigit b then some (stack, .exponent) else none
  | .exponent => if isDigit b then some (stack, .exponent) else follow stack b

/-- The bytes left after the value that is being scanned, if it ends well. -/
def scan (stack : List Frame) (mode : Mode) : Bytes → Option Bytes
  | [] => if stack.isEmpty && mode.isComplete then some [] else none
  | b :: rest =>
    match step stack mode b with
    | some (stack, mode) => scan stack mode rest
    | none => if stack.isEmpty && mode.isComplete then some (b :: rest) else none

/-- Splits a byte string that starts with a value into the text of the value and the rest. -/
def splitValue? (bytes : Bytes) : Option (Bytes × Bytes) :=
  (scan [] .value bytes).map fun rest => (bytes.take (bytes.length - rest.length), rest)

def document? (bytes : Bytes) : Option Bytes :=
  match splitValue? (dropBlanks bytes) with
  | some (text, rest) => if (dropBlanks rest).isEmpty then some text else none
  | none => none

end DurableCalc.Json
