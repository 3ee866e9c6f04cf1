/-!
# Tables of TOML

A table is built from keys of one or more names. How a table came about decides what may still be
added to it: a table that a dotted key made grows by dotted keys only, one that a deeper header
implied may be opened by a header once, and an inline table is complete.
-/

namespace DurableCalc.Toml

inductive Origin
  | inlined
  | header
  | implied
  | dotted
  deriving DecidableEq, Repr

/-- A value. Of arrays it is only kept whether they are empty, and nothing of the values that are no
strings and no integers. -/
inductive Item
  | string (text : String)
  | integer (value : Int)
  | scalar
  | array (isEmpty : Bool)
  | table (origin : Origin) (members : List (String × Item))
  | tables (rows : List (List (String × Item)))

abbrev Members := List (String × Item)

def Members.add (name : String) (item : Item) (members : Members) : Option Members :=
  if (members.lookup name).isSome then none else some (members ++ [(name, item)])

def Members.set (name : String) (item : Item) (members : Members) : Members :=
  members.map fun m => if m.1 = name then (name, item) else m

def alterLast (change : Members → Option Members) : List Members → Option (List Members)
  | [] => none
  | [row] => (change row).map fun row => [row]
  | row :: rows => (alterLast change rows).map fun rows => row :: rows

/-- Adds the member that a dotted key names. The tables on its way may be implied or dotted, and the
last of them must be dotted. -/
def Members.addDotted (name : String) (item : Item) : List String → Members → Option Members
  | [], members => members.add name item
  | step :: path, members =>
    match members.lookup step with
    | none => do
      let inner ← addDotted name item path []
      return members ++ [(step, .table .dotted inner)]
    | some (.table origin inner) =>
      if origin = .dotted ∨ (origin = .implied ∧ path ≠ []) then do
        let inner ← addDotted name item path inner
        return members.set step (.table origin inner)
      else none
    | some (.tables rows) =>
      if path = [] then none
      else do
        let rows ← alterLast (addDotted name item path) rows
        return members.set step (.tables rows)
    | some _ => none

/-- Changes the table at the end of a path of header names, implying the tables that are missing. -/
def Members.alter (change : Members → Option Members) : List String → Members → Option Members
  | [], members => change members
  | step :: path, members =>
    match members.lookup step with
    | none => do
      let inner ← alter change path []
      return members ++ [(step, .table .implied inner)]
    | some (.table origin inner) =>
      if origin = .inlined then none
      else do
        let inner ← alter change path inner
        return members.set step (.table origin inner)
    | some (.tables rows) => do
      let rows ← alterLast (alter change path) rows
      return members.set step (.tables rows)
    | some _ => none

/-- A header: the names of its key, and whether it opens a row of an array of tables. -/
structure Header where
  path : List String
  name : String
  isRow : Bool

/-- A document in the making: the tables that are closed, the header of the open table, if it has
one, and the open table's members. -/
structure Draft where
  root : Members := []
  header : Option Header := none
  members : Members := []

namespace Draft

def close (d : Draft) : Option Members :=
  match d.header with
  | none => some d.members
  | some h =>
    let place (members : Members) : Option Members :=
      if h.isRow then
        match members.lookup h.name with
        | some (.tables rows) => some (members.set h.name (.tables (rows ++ [d.members])))
        | some _ => none
        | none => some (members ++ [(h.name, .tables [d.members])])
      else members.add h.name (.table .header d.members)
    d.root.alter place h.path

def implied (h : Header) : List String → Members → Option Members
  | [], members =>
    match members.lookup h.name with
    | none => some []
    | some (.table .implied inner) => some inner
    | some _ => none
  | step :: path, members =>
    match members.lookup step with
    | none => some []
    | some (.table _ inner) => implied h path inner
    | some (.tables rows) => implied h path (rows.getLast?.getD [])
    | some _ => none

def «open» (h : Header) (d : Draft) : Option Draft := do
  let root ← d.close
  if h.isRow then return { root, header := some h, members := [] }
  let members ← implied h h.path root
  let root ← root.alter (fun members => some (members.filter fun m => m.1 ≠ h.name)) h.path
  return { root, header := some h, members }

def add (key : List String) (item : Item) (d : Draft) : Option Draft := do
  let name ← key.getLast?
  let members ← d.members.addDotted name item key.dropLast
  return { d with members }

end Draft

end DurableCalc.Toml
