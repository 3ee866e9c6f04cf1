import DurableCalc.Json.Record

/-!
# The grammar of JSON texts

`IsJson` says that a byte string is the text of one JSON value, without blanks around it. An array
or an object is given by its parts as they are laid out, each with the blanks around it, so that its
text is a function of the parts. The inside of a string may hold escapes of lone surrogates; where
it holds none, `Spells` tells the characters that it stands for.
-/

namespace DurableCalc.Json

def AllBlank (bytes : Bytes) : Prop :=
  ∀ b ∈ bytes, isBlank b = true

def AllDigits (bytes : Bytes) : Prop :=
  ∀ b ∈ bytes, isDigit b = true

inductive IsWhole : Bytes → Prop
  | zero : IsWhole [0x30]
  | digits {b : UInt8} {rest : Bytes} (hb : isDigit b = true) (hzero : b ≠ 0x30)
      (hrest : AllDigits rest) : IsWhole (b :: rest)

inductive IsFraction : Bytes → Prop
  | absent : IsFraction []
  | point {b : UInt8} {rest : Bytes} (hdigits : AllDigits (b :: rest)) :
      IsFraction (0x2e :: b :: rest)

inductive IsExponent : Bytes → Prop
  | absent : IsExponent []
  | mark {e b : UInt8} {sign rest : Bytes} (he : e = 0x65 ∨ e = 0x45)
      (hsign : sign = [] ∨ sign = [0x2b] ∨ sign = [0x2d]) (hdigits : AllDigits (b :: rest)) :
      IsExponent (e :: (sign ++ b :: rest))

inductive IsNumber : Bytes → Prop
  | parts {sign whole fraction exponent : Bytes} (hsign : sign = [] ∨ sign = [0x2d])
      (hwhole : IsWhole whole) (hfraction : IsFraction fraction)
      (hexponent : IsExponent exponent) :
      IsNumber (sign ++ (whole ++ (fraction ++ exponent)))

inductive IsHex : UInt8 → Nat → Prop
  | lower {v : Nat} (hv : v < 16) : IsHex (Nat.digitChar v).toNat.toUInt8 v
  | upper {v : Nat} (hv : v < 16) : IsHex (Nat.digitChar v).toUpper.toNat.toUInt8 v

inductive IsUnit : Bytes → Nat → Prop
  | digits {a b c d : UInt8} {k l m n : Nat} (ha : IsHex a k) (hb : IsHex b l) (hc : IsHex c m)
      (hd : IsHex d n) :
      IsUnit [0x5c, 0x75, a, b, c, d] (((k * 16 + l) * 16 + m) * 16 + n)

def shortEscapes : List (UInt8 × Char) :=
  [(0x22, '"'), (0x5c, '\\'), (0x2f, '/'), (0x62, '\x08'), (0x66, '\x0c'), (0x6e, '\n'),
    (0x72, '\r'), (0x74, '\t')]

def IsPlain (c : Char) : Prop :=
  c ≠ '"' ∧ c ≠ '\\' ∧ 0x20 ≤ c.toNat

inductive IsInside : Bytes → Prop
  | nil : IsInside []
  | plain {c : Char} {rest : Bytes} (hc : IsPlain c) (hrest : IsInside rest) :
      IsInside (String.utf8EncodeChar c ++ rest)
  | short {b : UInt8} {c : Char} {rest : Bytes} (hb : (b, c) ∈ shortEscapes)
      (hrest : IsInside rest) : IsInside (0x5c :: b :: rest)
  | unit {u rest : Bytes} {n : Nat} (hu : IsUnit u n) (hrest : IsInside rest) :
      IsInside (u ++ rest)

/-- The characters that the inside of a string stands for. A surrogate stands only in a pair. -/
inductive Spells : Bytes → List Char → Prop
  | nil : Spells [] []
  | plain {c : Char} {rest : Bytes} {cs : List Char} (hc : IsPlain c) (hrest : Spells rest cs) :
      Spells (String.utf8EncodeChar c ++ rest) (c :: cs)
  | short {b : UInt8} {c : Char} {rest : Bytes} {cs : List Char} (hb : (b, c) ∈ shortEscapes)
      (hrest : Spells rest cs) : Spells (0x5c :: b :: rest) (c :: cs)
  | unit {u rest : Bytes} {c : Char} {cs : List Char} (hu : IsUnit u c.toNat)
      (hrest : Spells rest cs) : Spells (u ++ rest) (c :: cs)
  | pair {u v rest : Bytes} {high low : Nat} {c : Char} {cs : List Char} (hu : IsUnit u high)
      (hv : IsUnit v low) (hhigh : 0xd800 ≤ high ∧ high < 0xdc00)
      (hlow : 0xdc00 ≤ low ∧ low < 0xe000)
      (hc : c.toNat = 0x10000 + (high - 0xd800) * 0x400 + (low - 0xdc00))
      (hrest : Spells rest cs) : Spells (u ++ (v ++ rest)) (c :: cs)

theorem Spells.isInside {s : Bytes} {cs : List Char} (h : Spells s cs) : IsInside s := by
  induction h with
  | nil => exact .nil
  | plain hc _ ih => exact .plain hc ih
  | short hb _ ih => exact .short hb ih
  | unit hu _ ih => exact .unit hu ih
  | pair hu hv _ _ _ _ ih => exact .unit hu (.unit hv ih)

def quoted (inside : Bytes) : Bytes :=
  0x22 :: (inside ++ [0x22])

/-- A value in an array with the blanks around it. -/
structure Element where
  before : Bytes := []
  value : Bytes
  after : Bytes := []

def Element.text (e : Element) : Bytes :=
  e.before ++ (e.value ++ e.after)

def Element.IsSpaced (e : Element) : Prop :=
  AllBlank e.before ∧ AllBlank e.after

structure Member extends Element where
  beforeKey : Bytes := []
  key : Bytes
  afterKey : Bytes := []

def Member.text (m : Member) : Bytes :=
  m.beforeKey ++ (quoted m.key ++ (m.afterKey ++ 0x3a :: m.toElement.text))

def Member.IsSpaced (m : Member) : Prop :=
  AllBlank m.beforeKey ∧ AllBlank m.afterKey ∧ m.toElement.IsSpaced

def laterItems (items : List Bytes) : Bytes :=
  items.flatMap fun item => 0x2c :: item

theorem laterItems_cons (item : Bytes) (items : List Bytes) :
    laterItems (item :: items) = 0x2c :: (item ++ laterItems items) := rfl

def enclose (opening closing : UInt8) (blanks : Bytes) : List Bytes → Bytes
  | [] => opening :: (blanks ++ [closing])
  | item :: items => opening :: (item ++ (laterItems items ++ (blanks ++ [closing])))

def arrayText (blanks : Bytes) (elements : List Element) : Bytes :=
  enclose 0x5b 0x5d blanks (elements.map Element.text)

def objectText (blanks : Bytes) (members : List Member) : Bytes :=
  enclose 0x7b 0x7d blanks (members.map Member.text)

inductive IsJson : Bytes → Prop
  | null : IsJson null
  | true : IsJson [0x74, 0x72, 0x75, 0x65]
  | false : IsJson [0x66, 0x61, 0x6c, 0x73, 0x65]
  | number {n : Bytes} (hn : IsNumber n) : IsJson n
  | string {s : Bytes} (hs : IsInside s) : IsJson (quoted s)
  | array {blanks : Bytes} {elements : List Element} (hblanks : AllBlank blanks)
      (hspaced : ∀ e ∈ elements, e.IsSpaced) (hvalue : ∀ e ∈ elements, IsJson e.value) :
      IsJson (arrayText blanks elements)
  | object {blanks : Bytes} {members : List Member} (hblanks : AllBlank blanks)
      (hspaced : ∀ m ∈ members, m.IsSpaced) (hkey : ∀ m ∈ members, IsInside m.key)
      (hvalue : ∀ m ∈ members, IsJson m.value) : IsJson (objectText blanks members)

end DurableCalc.Json
