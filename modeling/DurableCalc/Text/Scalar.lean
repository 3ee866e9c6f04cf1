import DurableCalc.Text.Blank

/-!
# Scalars

A scalar is a truth value or the decimal numeral of a number, which may have a sign, a fraction and
an exponent. There are also words for infinity and for what is not a number.
-/

namespace DurableCalc.Text

def dropSign : List Char → List Char
  | '+' :: rest => rest
  | '-' :: rest => rest
  | text => text

def isExponent : List Char → Bool
  | [] => true
  | e :: rest =>
    (e = 'e' || e = 'E') && !(dropSign rest).isEmpty && (dropSign rest).all Char.isDigit

/-- Whether a text is a number without its sign; digits may be missing on one side of the point. -/
def isUnsigned (text : List Char) : Bool :=
  let whole := text.takeWhile Char.isDigit
  match text.drop whole.length with
  | '.' :: rest =>
    let fraction := rest.takeWhile Char.isDigit
    !(whole.isEmpty && fraction.isEmpty) && isExponent (rest.drop fraction.length)
  | rest => !whole.isEmpty && isExponent rest

def isNumber (text : List Char) : Bool :=
  let unsigned := dropSign text
  isUnsigned unsigned || ["inf", "infinity", "nan"].contains (fold (String.ofList unsigned))

def isScalar (text : List Char) : Bool :=
  text = "true".toList || text = "false".toList || isNumber text

end DurableCalc.Text
