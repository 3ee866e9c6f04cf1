import DurableCalc.Digest.Sha256

/-!
# Ids of runs

A run is told from others by sixteen random bytes, six bits of which are set to mark them as random.
They are written as hexadecimal digits in five groups.
-/

namespace DurableCalc.Log.RunId

def mark (place : Nat) : Bytes → Bytes
  | [] => []
  | b :: rest =>
    let b :=
      if place = 6 then 0x40 ||| (b &&& 0x0f)
      else if place = 8 then 0x80 ||| (b &&& 0x3f)
      else b
    b :: mark (place + 1) rest

def groups : List Nat → List Char → List String
  | [], _ => []
  | size :: sizes, digits => String.ofList (digits.take size) :: groups sizes (digits.drop size)

def ofBytes (random : Bytes) : String :=
  let digits := (mark 0 random).flatMap fun b => Sha256.hexDigits 2 b.toNat
  String.intercalate "-" (groups [8, 4, 4, 4, 12] digits)

end DurableCalc.Log.RunId
