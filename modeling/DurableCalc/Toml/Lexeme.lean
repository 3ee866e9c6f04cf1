/-!
# Lexemes of TOML

Blanks, comments, line ends, digits and strings. Each function reads its lexeme off the front of the
characters and gives what it spells together with the rest, or nothing if the lexeme is not there or
is not well formed.
-/

namespace DurableCalc.Toml

abbrev Reader (α : Type) := List Char → Option (α × List Char)

def isBlank (c : Char) : Bool :=
  c == ' ' || c == '\t'

def dropBlanks (cs : List Char) : List Char :=
  cs.dropWhile isBlank

/-- Characters that are not controls; the tab counts as none. -/
def isPlain (c : Char) : Bool :=
  c == '\t' || (' ' ≤ c && c ≤ '~') || 0x80 ≤ c.toNat

def newline? : List Char → Option (List Char)
  | '\n' :: rest => some rest
  | '\r' :: '\n' :: rest => some rest
  | _ => none

def lineEnd? : List Char → Option (List Char)
  | [] => some []
  | cs => newline? cs

def dropComment (cs : List Char) : List Char :=
  match cs with
  | '#' :: rest => rest.dropWhile isPlain
  | _ => cs

/-- The rest after the blanks and the comment at the end of a line. -/
def lineTail? (cs : List Char) : Option (List Char) :=
  lineEnd? (dropComment (dropBlanks cs))

def dropLines : Nat → List Char → List Char
  | 0, cs => cs
  | fuel + 1, cs =>
    let cs := dropBlanks cs
    match newline? (dropComment cs) with
    | some rest => dropLines fuel rest
    | none => cs

def dropBreaks : Nat → List Char → List Char
  | 0, cs => cs
  | fuel + 1, cs =>
    let cs := dropBlanks cs
    match newline? cs with
    | some rest => dropBreaks fuel rest
    | none => cs

def isDecimal (c : Char) : Bool :=
  '0' ≤ c && c ≤ '9'

def isOctal (c : Char) : Bool :=
  '0' ≤ c && c ≤ '7'

def isBinary (c : Char) : Bool :=
  c == '0' || c == '1'

def isHexadecimal (c : Char) : Bool :=
  isDecimal c || ('a' ≤ c && c ≤ 'f') || ('A' ≤ c && c ≤ 'F')

def digitValue (c : Char) : Nat :=
  if isDecimal c then c.toNat - '0'.toNat
  else if 'a' ≤ c then c.toNat - 'a'.toNat + 10
  else c.toNat - 'A'.toNat + 10

def valueIn (base : Nat) (digits : List Char) : Nat :=
  digits.foldl (fun value c => base * value + digitValue c) 0

def moreDigits (isDigit : Char → Bool) : List Char → Option (List Char × List Char)
  | [] => some ([], [])
  | '_' :: c :: rest =>
    if isDigit c then (moreDigits isDigit rest).map fun (digits, rest) => (c :: digits, rest)
    else none
  | c :: rest =>
    if isDigit c then (moreDigits isDigit rest).map fun (digits, rest) => (c :: digits, rest)
    else if c == '_' then none
    else some ([], c :: rest)

/-- At least one digit, with single underscores between digits. -/
def digits? (isDigit : Char → Bool) : Reader (List Char)
  | c :: rest =>
    if isDigit c then (moreDigits isDigit rest).map fun (digits, rest) => (c :: digits, rest)
    else none
  | [] => none

def fixed? (count : Nat) (cs : List Char) : Option (Nat × List Char) :=
  let digits := cs.take count
  if digits.length = count ∧ digits.all isDecimal then some (valueIn 10 digits, cs.drop count)
  else none

def codePoint? (count : Nat) (cs : List Char) : Option (Char × List Char) :=
  let digits := cs.take count
  if digits.length = count ∧ digits.all isHexadecimal then
    let n := valueIn 16 digits
    if n.isValidChar then some (Char.ofNat n, cs.drop count) else none
  else none

def escape? : Reader Char
  | 'b' :: rest => some ('\x08', rest)
  | 't' :: rest => some ('\t', rest)
  | 'n' :: rest => some ('\n', rest)
  | 'f' :: rest => some ('\x0c', rest)
  | 'r' :: rest => some ('\r', rest)
  | '"' :: rest => some ('"', rest)
  | '\\' :: rest => some ('\\', rest)
  | 'u' :: rest => codePoint? 4 rest
  | 'U' :: rest => codePoint? 8 rest
  | _ => none

def basicBody : Nat → Reader (List Char)
  | 0, _ => none
  | _ + 1, [] => none
  | _ + 1, '"' :: rest => some ([], rest)
  | fuel + 1, '\\' :: rest => do
    let (c, rest) ← escape? rest
    let (cs, rest) ← basicBody fuel rest
    return (c :: cs, rest)
  | fuel + 1, c :: rest =>
    if isPlain c then (basicBody fuel rest).map fun (cs, rest) => (c :: cs, rest) else none

def literalBody : Reader (List Char)
  | [] => none
  | c :: rest =>
    if c = '\'' then some ([], rest)
    else if isPlain c then (literalBody rest).map fun (cs, rest) => (c :: cs, rest)
    else none

/-- The rest of a string over several lines that is closed by three of a quote. Up to two more of
them before the closing ones belong to the string. With `escapes`, a backslash escapes a character,
or the line break that follows it with all blanks and line breaks after. -/
def linesBody (quote : Char) (escapes : Bool) : Nat → Reader (List Char)
  | 0, _ => none
  | fuel + 1, cs =>
    let quotes := (cs.takeWhile (· = quote)).length
    if 3 ≤ quotes then
      let closing := min quotes 5
      some (List.replicate (closing - 3) quote, cs.drop closing)
    else if 0 < quotes then
      (linesBody quote escapes fuel (cs.drop quotes)).map fun (inside, rest) =>
        (List.replicate quotes quote ++ inside, rest)
    else
      match newline? cs with
      | some rest =>
        (linesBody quote escapes fuel rest).map fun (inside, rest) => ('\n' :: inside, rest)
      | none =>
        match cs with
        | [] => none
        | c :: rest =>
          if escapes && c == '\\' then
            match newline? (dropBlanks rest) with
            | some rest =>
              linesBody quote escapes fuel (dropBreaks rest.length rest)
            | none => do
              let (c, rest) ← escape? rest
              let (inside, rest) ← linesBody quote escapes fuel rest
              return (c :: inside, rest)
          else if isPlain c then
            (linesBody quote escapes fuel rest).map fun (inside, rest) => (c :: inside, rest)
          else none

def dropFirstNewline (cs : List Char) : List Char :=
  (newline? cs).getD cs

def lineString? : Reader (List Char)
  | '"' :: rest => basicBody (rest.length + 1) rest
  | c :: rest => if c = '\'' then literalBody rest else none
  | [] => none

def string? (cs : List Char) : Option (List Char × List Char) :=
  match cs with
  | '"' :: '"' :: '"' :: rest => linesBody '"' true (rest.length + 1) (dropFirstNewline rest)
  | a :: b :: c :: rest =>
    if a = '\'' ∧ b = '\'' ∧ c = '\'' then
      linesBody '\'' false (rest.length + 1) (dropFirstNewline rest)
    else lineString? cs
  | _ => lineString? cs

/-- A name of a key: bare or a string on one line. -/
def name? (cs : List Char) : Option (String × List Char) :=
  let isBare (c : Char) : Bool := c.isAlphanum || c == '-' || c == '_'
  let bare := cs.takeWhile isBare
  if bare.isEmpty then (lineString? cs).map fun (inside, rest) => (String.ofList inside, rest)
  else some (String.ofList bare, cs.dropWhile isBare)

def moreNames : Nat → Reader (List String)
  | 0, _ => none
  | fuel + 1, cs =>
    match dropBlanks cs with
    | '.' :: rest => do
      let (name, rest) ← name? (dropBlanks rest)
      let (names, rest) ← moreNames fuel rest
      return (name :: names, rest)
    | rest => some ([], rest)

/-- How many names a key may not have, and how deep values may not nest. -/
def nestingLimit : Nat := 80

def key? (cs : List Char) : Option (List String × List Char) := do
  let (name, rest) ← name? (dropBlanks cs)
  let (names, rest) ← moreNames (rest.length + 1) rest
  if names.length + 1 < nestingLimit then some (name :: names, rest) else none

end DurableCalc.Toml
