import DurableCalc.Text.Split

/-!
# Paths

A path is a text of names separated by slashes. Repeated slashes, a trailing slash and a `.` that is
not the first name separate nothing, so they are passed over when the parent of a path is taken; the
rest of the text is kept as it is written.
-/

namespace DurableCalc.Path

/-- Splits at the last slash: what stands before it, if there is one, and what stands after it. -/
def splitLast (path : List Char) : Option (List Char) × List Char :=
  let backwards := path.reverse
  let name := (backwards.takeWhile (· ≠ '/')).reverse
  match backwards.dropWhile (· ≠ '/') with
  | [] => (none, name)
  | _ :: front => (some front.reverse, name)

/-- The part of a path that is neither a root nor a leading `.`, after that part. -/
def anchor (path : List Char) : List Char × List Char :=
  match path with
  | '/' :: body => (['/'], body)
  | ['.'] => (['.'], [])
  | '.' :: '/' :: body => (['.'], '/' :: body)
  | body => ([], body)

/-- Drops what separates nothing from the end of a body. -/
def dropIdle : Nat → List Char → List Char
  | 0, body => body
  | fuel + 1, body =>
    if body.isEmpty then body
    else
      match splitLast body with
      | (front, name) =>
        if name.isEmpty || name = ['.'] then dropIdle fuel (front.getD []) else body

/-- The path without its last name; a root and the empty path have no parent. -/
def parentChars? (path : List Char) : Option (List Char) :=
  let (lead, body) := anchor path
  let body := dropIdle body.length body
  if body.isEmpty then
    if lead = ['.'] then some [] else none
  else
    let front := ((splitLast body).1).getD []
    some (lead ++ dropIdle front.length front)

def parent? (path : String) : Option String :=
  (parentChars? path.toList).map String.ofList

def ancestor? : Nat → String → Option String
  | 0, path => some path
  | level + 1, path => (parent? path).bind (ancestor? level)

/-- The directory that a path's last name stands in, `.` if the path gives none. -/
def directory (path : String) : String :=
  match parent? path with
  | none => "."
  | some parent => if parent.isEmpty then "." else parent

def split (path : List Char) : List (List Char) :=
  Text.splitOn '/' path

end DurableCalc.Path
