import DurableCalc.Text.Quoted.Unshown

/-!
# Quoted text

A text is quoted for a message by writing it between double quotes, with a backslash before a quote
or a backslash, a letter for the line breaks, the tab and the null character, and the code point in
hexadecimal for every other character that would not be seen.
-/

namespace DurableCalc.Text

def escapeChar (c : Char) : List Char :=
  match c with
  | '"' => ['\\', '"']
  | '\\' => ['\\', '\\']
  | '\n' => ['\\', 'n']
  | '\r' => ['\\', 'r']
  | '\t' => ['\\', 't']
  | '\x00' => ['\\', '0']
  | c =>
    if Quoted.isUnshown c then ['\\', 'u', '\x7b'] ++ Nat.toDigits 16 c.toNat ++ ['\x7d']
    else [c]

def quote (text : String) : String :=
  String.ofList ('"' :: text.toList.flatMap escapeChar ++ ['"'])

end DurableCalc.Text
