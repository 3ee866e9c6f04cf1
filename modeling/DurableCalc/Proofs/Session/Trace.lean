import DurableCalc.Session.Event

/-!
# Traces

A trace is a list of events. It tells which lines were read and written, which blob a slot holds
after it, and which events are left when the refusals are dropped.
-/

namespace DurableCalc.Event

def linesRead (trace : List Event) : List String :=
  trace.filterMap fun
    | .read line => some line
    | _ => none

def linesWritten (trace : List Event) : List String :=
  trace.filterMap fun
    | .wrote line => some line
    | _ => none

def lastSaved (blob : Bytes) (trace : List Event) : Bytes :=
  trace.foldl (fun held event => match event with | .saved blob => blob | _ => held) blob

def isEffective : Event → Bool
  | .readRefused | .writeRefused | .saveRefused => false
  | _ => true

def effective (trace : List Event) : List Event :=
  trace.filter isEffective

variable {trace trace' : List Event} {blob : Bytes} {line : String}

@[simp] theorem linesRead_nil : linesRead [] = [] := rfl

@[simp] theorem linesRead_append :
    linesRead (trace ++ trace') = linesRead trace ++ linesRead trace' :=
  List.filterMap_append

@[simp] theorem linesRead_read : linesRead (.read line :: trace) = line :: linesRead trace := rfl

@[simp] theorem linesRead_wrote : linesRead (.wrote line :: trace) = linesRead trace := rfl

@[simp] theorem linesRead_saved : linesRead (.saved blob :: trace) = linesRead trace := rfl

@[simp] theorem linesWritten_nil : linesWritten [] = [] := rfl

@[simp] theorem linesWritten_append :
    linesWritten (trace ++ trace') = linesWritten trace ++ linesWritten trace' :=
  List.filterMap_append

@[simp] theorem linesWritten_read : linesWritten (.read line :: trace) = linesWritten trace := rfl

@[simp] theorem linesWritten_wrote :
    linesWritten (.wrote line :: trace) = line :: linesWritten trace := rfl

@[simp] theorem linesWritten_saved : linesWritten (.saved blob :: trace) = linesWritten trace := rfl

@[simp] theorem lastSaved_nil : lastSaved blob [] = blob := rfl

@[simp] theorem lastSaved_append :
    lastSaved blob (trace ++ trace') = lastSaved (lastSaved blob trace) trace' :=
  List.foldl_append

@[simp] theorem lastSaved_saved {saved : Bytes} :
    lastSaved blob (.saved saved :: trace) = lastSaved saved trace := rfl

theorem lastSaved_mem (trace : List Event) (blob : Bytes) :
    lastSaved blob trace = blob ∨ .saved (lastSaved blob trace) ∈ trace := by
  induction trace generalizing blob with
  | nil => exact .inl rfl
  | cons event trace ih =>
    have hskip (h : lastSaved blob (event :: trace) = lastSaved blob trace) :
        lastSaved blob (event :: trace) = blob ∨
          .saved (lastSaved blob (event :: trace)) ∈ event :: trace := by
      rw [h]
      exact (ih blob).imp_right (List.mem_cons_of_mem event)
    cases event with
    | saved saved =>
      right
      rw [lastSaved_saved]
      rcases ih saved with h | h
      · rw [h]
        exact List.mem_cons_self
      · exact List.mem_cons_of_mem _ h
    | _ => exact hskip rfl

@[simp] theorem effective_append :
    effective (trace ++ trace') = effective trace ++ effective trace' :=
  List.filter_append ..

end DurableCalc.Event
