import DurableCalc.Log.Directive

/-!
# Filters of the log

A filter is written as directives between commas. One that cannot be read is passed over, and one
that is about the same as an earlier one replaces it.

`Filter.admits` lets an entry through if a directive about one of its spans does; otherwise the most
specific directive about the entry itself decides.
-/

namespace DurableCalc.Log

/-- Directives in the order in which they are written. -/
structure Filter where
  directives : List Directive
  deriving DecidableEq, Repr

namespace Filter

def ofText (text : String) : Filter :=
  ⟨(Text.splitOn ',' text.toList).filterMap Directive.read?⟩

/-- The directives that no later one replaces. -/
def inForce : List Directive → List Directive
  | [] => []
  | d :: rest => if rest.any d.sameSubject then inForce rest else d :: inForce rest

/-- Whether spans are followed at all: some directive lets their level through, or asks for the
value of a field, which only a span can tell. -/
def followsSpans (f : Filter) : Bool :=
  f.directives.any fun d =>
    Span.level.verbosity ≤ d.verbosity || d.fields.any fun test => test.value.isSome

def verbosityWithin (f : Filter) (s : Span) : Nat :=
  if f.followsSpans then
    (((inForce f.directives).filter (·.isAboutSpan s)).map Directive.verbosity).foldl max 0
  else 0

def mostSpecific? (ds : List Directive) : Option Directive :=
  ds.foldl (fun best d => if best.all d.isBefore then some d else best) none

def verbosityFor (f : Filter) (e : Entry) : Nat :=
  match mostSpecific? ((inForce f.directives).filter (·.isAboutEntry e)) with
  | none => 0
  | some d => d.verbosity

def admits (f : Filter) (runId : String) (e : Entry) : Bool :=
  (e.spans runId).any (fun s => e.level.verbosity ≤ f.verbosityWithin s) ||
    e.level.verbosity ≤ f.verbosityFor e

end Filter

def select (filter : String) (runId : String) (entries : List Entry) : List Entry :=
  entries.filter ((Filter.ofText filter).admits runId)

end DurableCalc.Log
