import DurableCalc.Toml.Number
import DurableCalc.Toml.Table

/-!
# TOML documents

A document is a sequence of headers and of keys with values, one a line. `read?` gives its top
table, or nothing if the text is not a document.
-/

namespace DurableCalc.Toml

/-- Items of an array with commas between them, up to the closing bracket. A comma may follow the
last one. Gives the number of items. -/
def elements (item : Reader Item) : Nat → Reader Nat
  | 0, _ => none
  | fuel + 1, cs =>
    match dropLines cs.length cs with
    | ']' :: rest => some (0, rest)
    | cs => do
      let (_, rest) ← item cs
      match dropLines rest.length rest with
      | ',' :: rest =>
        let (count, rest) ← elements item fuel rest
        return (count + 1, rest)
      | ']' :: rest => some (1, rest)
      | _ => none

def inlineMembers (item : Reader Item) : Nat → Members → List Char → Option (Members × List Char)
  | 0, _, _ => none
  | fuel + 1, members, cs => do
    let (key, rest) ← key? cs
    match rest with
    | '=' :: rest =>
      let (value, rest) ← item (dropBlanks rest)
      let members ← members.addDotted (← key.getLast?) value key.dropLast
      match dropBlanks rest with
      | ',' :: rest => inlineMembers item fuel members rest
      | '}' :: rest => some (members, rest)
      | _ => none
    | _ => none

def value? : Nat → Reader Item
  | depth, cs =>
    match cs with
    | '[' :: rest =>
      match depth with
      | 0 => none
      | depth + 1 =>
        (elements (value? depth) (rest.length + 1) rest).map fun (count, rest) =>
          (.array (count == 0), rest)
    | '{' :: rest =>
      match depth with
      | 0 => none
      | depth + 1 =>
        match dropBlanks rest with
        | '}' :: rest => some (.table .inlined [], rest)
        | rest =>
          (inlineMembers (value? depth) (rest.length + 1) [] rest).map fun (members, rest) =>
            (.table .inlined members, rest)
    | 't' :: 'r' :: 'u' :: 'e' :: rest => some (.scalar, rest)
    | 'f' :: 'a' :: 'l' :: 's' :: 'e' :: rest => some (.scalar, rest)
    | '"' :: _ => (string? cs).map fun (inside, rest) => (.string (String.ofList inside), rest)
    | c :: _ =>
      if c = '\'' then (string? cs).map fun (inside, rest) => (.string (String.ofList inside), rest)
      else
        match dateTime? cs with
        | some rest => some (.scalar, rest)
        | none =>
          match float? cs with
          | some rest => some (.scalar, rest)
          | none => (integer? cs).map fun (n, rest) => (.integer n, rest)
    | [] => none

def header? (cs : List Char) : Option (Header × List Char) :=
  match cs with
  | '[' :: '[' :: rest => do
    let (key, rest) ← key? rest
    match rest with
    | ']' :: ']' :: rest =>
      return ({ path := key.dropLast, name := ← key.getLast?, isRow := true }, rest)
    | _ => none
  | '[' :: rest => do
    let (key, rest) ← key? rest
    match rest with
    | ']' :: rest => return ({ path := key.dropLast, name := ← key.getLast?, isRow := false }, rest)
    | _ => none
  | _ => none

def readLines : Nat → Draft → List Char → Option Members
  | 0, _, _ => none
  | fuel + 1, draft, cs =>
    match dropBlanks cs with
    | [] => draft.close
    | '#' :: rest => do readLines fuel draft (← lineTail? ('#' :: rest))
    | '\n' :: rest => readLines fuel draft rest
    | '\r' :: '\n' :: rest => readLines fuel draft rest
    | '[' :: rest => do
      let (header, rest) ← header? ('[' :: rest)
      readLines fuel (← draft.open header) (← lineTail? rest)
    | cs => do
      let (key, rest) ← key? cs
      match rest with
      | '=' :: rest =>
        let (value, rest) ← value? (nestingLimit - 1) (dropBlanks rest)
        readLines fuel (← draft.add key value) (← lineTail? rest)
      | _ => none

/-- The top table of a document. A byte order mark may open it. -/
def read? (text : String) : Option Members :=
  let cs := match text.toList with
    | '\ufeff' :: rest => rest
    | cs => cs
  readLines (cs.length + 1) {} cs

end DurableCalc.Toml
