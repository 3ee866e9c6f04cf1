import DurableCalc.Command.Basic

/-!
# Registries

A registry finds a command by any of its names, blanks and letter case apart. A name that several
commands have belongs to the one that was registered last.
-/

namespace DurableCalc

structure Registry where
  commands : List Command
  deriving DecidableEq, Repr

namespace Registry

/-- The four commands, the guide having a topic for each of the others. -/
def standard (maxCount : UInt32) : Registry :=
  let others := [.sum, .median maxCount, .randomSequence maxCount]
  ⟨others ++ [.help ⟨others.map fun c => Topic.of c.description⟩]⟩

def names (r : Registry) : List String :=
  r.commands.map Command.name

def lookup (r : Registry) (name : String) : Option Command :=
  let key := Text.fold (Text.trim name)
  r.commands.reverse.find? fun c => c.description.names.any fun own => Text.fold own == key

end Registry

end DurableCalc
