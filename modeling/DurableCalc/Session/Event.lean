import DurableCalc.Error

/-!
# Events

What can be seen of a session from outside: lines that are read and written, blobs that are saved,
the end of the input, and calls that are refused.
-/

namespace DurableCalc

inductive Event
  | read (line : String)
  | wrote (line : String)
  | saved (blob : Bytes)
  | endOfInput
  | readRefused
  | writeRefused
  | saveRefused
  deriving DecidableEq, Repr

/-- What is seen of an attempt to save a blob; a fault below the slot is not seen. -/
def Event.ofStore? (blob : Bytes) : Except StorageError Unit → Option Event
  | .ok () => some (.saved blob)
  | .error (.refused _) => some .saveRefused
  | .error _ => none

end DurableCalc
