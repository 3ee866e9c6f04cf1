import DurableCalc.Json.Text
import DurableCalc.Json.Number

/-!
# Two layouts of JSON text

A value is written on one line without blanks, or with one element or member a line, indented by two
spaces for each container around it. An empty array is `[]` in both.
-/

namespace DurableCalc.Json

inductive Style
  | compact
  | indented
  deriving DecidableEq, Repr

def Style.newline (style : Style) (depth : Nat) : Bytes :=
  match style with
  | .compact => []
  | .indented => 0x0a :: List.replicate (2 * depth) 0x20

def Style.colon : Style → Bytes
  | .compact => [0x3a]
  | .indented => [0x3a, 0x20]

/-- Items inside brackets, for a container that stands inside `depth` others. -/
def Style.enclose (style : Style) (depth : Nat) (opening closing : UInt8) : List Bytes → Bytes
  | [] => [opening, closing]
  | item :: items =>
    opening :: style.newline (depth + 1) ++ item ++
      items.flatMap (fun item => 0x2c :: style.newline (depth + 1) ++ item) ++
      style.newline depth ++ [closing]

def Style.array (style : Style) (depth : Nat) (elements : List Bytes) : Bytes :=
  style.enclose depth 0x5b 0x5d elements

def Style.object (style : Style) (depth : Nat) (members : List (String × Bytes)) : Bytes :=
  style.enclose depth 0x7b 0x7d <|
    members.map fun (key, value) => writeText key ++ style.colon ++ value

def writeOptional (write : α → Bytes) : Option α → Bytes
  | none => [0x6e, 0x75, 0x6c, 0x6c]
  | some value => write value

end DurableCalc.Json
