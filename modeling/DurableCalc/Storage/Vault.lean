import DurableCalc.Storage.Slot

/-!
# Vaults

A vault is a slot that may refuse. Which of its replacements it refuses, counted from zero, and
whether it can be read is known in advance; a refused replacement leaves the blob as it is.
-/

namespace DurableCalc

structure Vault where
  slot : Slot := .memory []
  refuseStore : Nat → Option String := fun _ => none
  refuseLoad : Option String := none
  storeCalls : Nat := 0

namespace Vault

def load (v : Vault) : Except StorageError Bytes :=
  match v.refuseLoad with
  | some reason => .error (.refused reason)
  | none => v.slot.read

def store (blob : Bytes) (v : Vault) : Except StorageError Unit × Vault :=
  let counted := { v with storeCalls := v.storeCalls + 1 }
  match v.refuseStore v.storeCalls with
  | some reason => (.error (.refused reason), counted)
  | none =>
    match v.slot.write blob with
    | (result, slot) => (result, { counted with slot })

end Vault

end DurableCalc
