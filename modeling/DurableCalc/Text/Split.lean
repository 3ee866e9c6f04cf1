/-!
# Splitting at a separator

`splitOn` gives the pieces of a text between the occurrences of a separator. There is one piece more
than there are separators, so that the empty text is one empty piece.
-/

namespace DurableCalc.Text

def splitOn (separator : Char) : List Char → List (List Char)
  | [] => [[]]
  | c :: rest =>
    match splitOn separator rest with
    | [] => [[c]]
    | piece :: pieces =>
      if c = separator then [] :: piece :: pieces else (c :: piece) :: pieces

end DurableCalc.Text
