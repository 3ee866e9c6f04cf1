import DurableCalc.Json.Scan
import DurableCalc.Json.Text
import DurableCalc.Json.Number

/-!
# Objects and arrays read as records

The members of an object and the elements of an array are kept as the texts they were written with.
`Record.pick` finds the values of named fields: in an object by key, each key at most once and other
keys ignored; in an array by position, with no element missing and none left over. `isBuffered` says
which values can be read before it is known what they are read as.
-/

namespace DurableCalc.Json

/-- The element texts of an array, after its opening bracket or a comma. -/
def elementsFrom : Nat → Bytes → Option (List Bytes)
  | 0, _ => none
  | fuel + 1, bytes =>
    match splitValue? (dropBlanks bytes) with
    | none => none
    | some (element, rest) =>
      match dropBlanks rest with
      | 0x2c :: rest => (elementsFrom fuel rest).map (element :: ·)
      | 0x5d :: _ => some [element]
      | _ => none

def membersFrom : Nat → Bytes → Option (List (Bytes × Bytes))
  | 0, _ => none
  | fuel + 1, bytes =>
    match splitValue? (dropBlanks bytes) with
    | none => none
    | some (key, rest) =>
      match dropBlanks rest with
      | 0x3a :: rest =>
        match splitValue? (dropBlanks rest) with
        | none => none
        | some (value, rest) =>
          match dropBlanks rest with
          | 0x2c :: rest => (membersFrom fuel rest).map ((key, value) :: ·)
          | 0x7d :: _ => some [(key, value)]
          | _ => none
      | _ => none

def elements? (value : Bytes) : Option (List Bytes) :=
  match value with
  | 0x5b :: inside =>
    if (dropBlanks inside).head? = some 0x5d then some [] else elementsFrom inside.length inside
  | _ => none

def members? (value : Bytes) : Option (List (Bytes × Bytes)) :=
  match value with
  | 0x7b :: inside =>
    if (dropBlanks inside).head? = some 0x7d then some [] else membersFrom inside.length inside
  | _ => none

/-- A value with parts: keyed ones or listed ones. -/
inductive Record
  | keyed (members : List (String × Bytes))
  | listed (elements : List Bytes)
  deriving DecidableEq, Repr

def readKeys? (members : List (Bytes × Bytes)) : Option (List (String × Bytes)) :=
  members.mapM fun (key, value) => (readText? key).map fun key => (key, value)

def Record.read? (value : Bytes) : Option Record :=
  match members? value with
  | some members => (readKeys? members).map .keyed
  | none => (elements? value).map .listed

/-- The values of a key, if it occurs at most once. -/
def uniqueValue? (members : List (String × Bytes)) (key : String) : Option (Option Bytes) :=
  match members.filter fun m => m.1 == key with
  | [] => some none
  | [(_, value)] => some (some value)
  | _ => none

/-- The values of the named fields, in the order of the names; a field that an object does not have
gives `none`. -/
def Record.pick (fields : List String) : Record → Option (List (Option Bytes))
  | .keyed members => fields.mapM (uniqueValue? members)
  | .listed elements =>
    if elements.length = fields.length then some (elements.map some) else none

/-- Takes out the field that tells what the other fields are: the named one, or the first. -/
def Record.untag (tag : String) : Record → Option (Bytes × Record)
  | .keyed members =>
    match uniqueValue? members tag with
    | some (some value) => some (value, .keyed (members.filter fun m => m.1 != tag))
    | _ => none
  | .listed (value :: rest) => some (value, .listed rest)
  | .listed [] => none

/-- Whether a value nests at most so deep, and all its strings spell texts and all its numbers are
in the range of the doubles. -/
def isBuffered : Nat → Bytes → Bool
  | depth, value =>
    match value with
    | 0x5b :: _ =>
      match depth, elements? value with
      | depth + 1, some elements => elements.all (isBuffered depth)
      | _, _ => false
    | 0x7b :: _ =>
      match depth, members? value with
      | depth + 1, some members =>
        members.all fun (key, value) => (readText? key).isSome && isBuffered depth value
      | _, _ => false
    | 0x22 :: _ => (readText? value).isSome
    | 0x74 :: _ | 0x66 :: _ | 0x6e :: _ => true
    | _ => isFinite value

def null : Bytes := [0x6e, 0x75, 0x6c, 0x6c]

def optional? (read? : Bytes → Option α) (value : Bytes) : Option (Option α) :=
  if value = null then some none else (read? value).map some

def Field.optional? (read? : Bytes → Option α) : Option Bytes → Option (Option α)
  | none => some none
  | some value => Json.optional? read? value

def Field.required? (read? : Bytes → Option α) (field : Option Bytes) : Option α :=
  field.bind read?

def readList? (read? : Bytes → Option α) (value : Bytes) : Option (List α) :=
  (elements? value).bind fun elements => elements.mapM read?

end DurableCalc.Json
