import DurableCalc.Log
import DurableCalc.Pattern.Syntax
import DurableCalc.Text.Numeral
import DurableCalc.Text.Scalar
import DurableCalc.Text.Slice
import DurableCalc.Text.Split

/-!
# Directives of a log filter

A directive is a level for the entries that it is about: `debug` is about all, `part=debug` about
those of the parts whose path begins so, `part[{field}]=debug` about those that have the field,
`part[span]=debug` about all that happens within the span, and `part[{field=pattern}]=debug` about
what happens within a span whose field fits the pattern. A directive without a level lets everything
through.

The signs that divide a directive are looked for without the blanks at its ends. Their places are
then counted from its beginning, so that blanks in front shift all that stands between the signs.
-/

namespace DurableCalc.Log

inductive Expected
  /-- A truth value or a number. Spans have texts only. -/
  | scalar (text : String)
  | pattern (text : String) (pattern : Pattern)
  deriving DecidableEq, Repr

namespace Expected

def read? (text : List Char) : Option Expected :=
  if Text.isScalar text then some (.scalar (String.ofList text))
  else (Pattern.read? text).map (.pattern (String.ofList text))

def isMetBy (value : String) : Expected → Bool
  | .scalar _ => false
  | .pattern _ p => p.fits value.toList

end Expected

structure FieldTest where
  name : String
  value : Option Expected := none
  deriving DecidableEq, Repr

/-- Reads `name` or `name=value`. What follows a second equals sign is passed over. -/
def FieldTest.read? (text : List Char) : Option FieldTest :=
  match Text.splitOn '=' text with
  | name :: value :: _ =>
    (Expected.read? value).map fun value => ⟨String.ofList name, some value⟩
  | _ => some ⟨String.ofList text, none⟩

structure Directive where
  part : Option String := none
  span : Option String := none
  fields : List FieldTest := []
  verbosity : Nat := Level.trace.verbosity
  deriving DecidableEq, Repr

def verbosity? (text : List Char) : Option Nat :=
  let word := String.ofList text
  match Text.fold word with
  | "off" => some 0
  | "error" => some 1
  | "warn" => some 2
  | "info" => some 3
  | "debug" => some 4
  | "trace" => some 5
  | _ =>
    match Text.readInt64 word with
    | .error _ => none
    | .ok n =>
      if text.head? ≠ some '-' ∧ n.toInt ≤ Level.trace.verbosity then some n.toInt.toNat else none

namespace Directive

/-- Takes the level from a place on; none given is the greatest. -/
def withLevel? (d : Directive) (text : List Char) (place : Nat) : Option Directive :=
  match Text.dropBytes? place text with
  | none => none
  | some [] => some { d with verbosity := Level.trace.verbosity }
  | some level => (verbosity? level).map fun verbosity => { d with verbosity }

def afterSpan? (d : Directive) (text : List Char) (place : Nat) : List Char → Option Directive
  | [] => some d
  | '=' :: _ => d.withLevel? text (place + 1)
  | _ => none

/-- Reads what follows an opening bracket and begins at a place: a span's name, a field between
braces, or both. -/
def afterBracket? (d : Directive) (text : List Char) (place : Nat) (rest : List Char) :
    Option Directive :=
  let name := rest.takeWhile fun c => c ≠ ']' && c ≠ '\x7b'
  let stop := place + Text.byteSize name
  match Text.slice? place stop text, rest.drop name.length with
  | some span, ']' :: rest =>
    afterSpan? { d with span := some (String.ofList span) } text (stop + 1) rest
  | some span, '\x7b' :: rest =>
    let field := rest.takeWhile (· ≠ '\x7d')
    let fieldStop := stop + 1 + Text.byteSize field
    match Text.slice? (stop + 1) fieldStop text, rest.drop field.length with
    | some (c :: cs), '\x7d' :: ']' :: rest =>
      match FieldTest.read? (c :: cs) with
      | none => none
      | some test =>
        let span := if span.isEmpty then none else some (String.ofList span)
        afterSpan? { d with span, fields := [test] } text (fieldStop + 2) rest
    | _, _ => none
  | _, _ => none

def canBegin (c : Char) : Bool :=
  Text.isAlphanumeric c || c = '-' || c = ':' || c = '_'

/-- Takes a text without signs; one that is not a level is the beginning of a part's path. -/
def ofWord (text : List Char) : Directive :=
  match verbosity? text with
  | some verbosity => { verbosity }
  | none => { part := some (String.ofList text) }

def read? (text : List Char) : Option Directive :=
  match Text.trimChars text with
  | [] => none
  | '[' :: rest => afterBracket? {} text 1 rest
  | c :: rest =>
    if canBegin c then
      let word := c :: rest.takeWhile fun c => c ≠ '=' && c ≠ '['
      let stop := Text.byteSize word
      let part := (Text.takeBytes? stop text).map String.ofList
      match part, (c :: rest).drop word.length with
      | _, [] => some (ofWord text)
      | none, _ => none
      | part, '=' :: _ => withLevel? { part } text (stop + 1)
      | part, _ :: rest => afterBracket? { part } text (stop + 1) rest
    else none

def sameSubject (d e : Directive) : Bool :=
  d.part = e.part && d.span = e.span && d.fields = e.fields

def isAboutPart (d : Directive) (p : Part) : Bool :=
  match d.part with
  | none => true
  | some path => path.toList.isPrefixOf p.path.toList

def isAboutSpan (d : Directive) (s : Span) : Bool :=
  (d.span.isSome || !d.fields.isEmpty) && d.isAboutPart s.part && d.span.all (· = s.name) &&
    d.fields.all fun test => s.fields.any fun (name, value) =>
      name = test.name && test.value.all (·.isMetBy value)

def isAboutEntry (d : Directive) (e : Entry) : Bool :=
  d.span.isNone && d.isAboutPart e.part &&
    d.fields.all fun test => test.value.isNone && e.fieldNames.contains test.name

/-- How much a directive says of a part's path. -/
def reach (d : Directive) : Nat :=
  match d.part with
  | none => 0
  | some path => path.length + 1

/-- Whether a directive goes before another that is about the same entry. -/
def isBefore (d e : Directive) : Bool :=
  e.reach < d.reach ||
    (d.reach = e.reach && (e.fields.length < d.fields.length ||
      (d.fields.length = e.fields.length &&
        e.fields.map FieldTest.name < d.fields.map FieldTest.name)))

end Directive

end DurableCalc.Log
