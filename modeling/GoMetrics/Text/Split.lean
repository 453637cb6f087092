/-!
Cutting a text at a character.
-/

namespace GoMetrics.Text

/-- The runs between the occurrences of `sep`, empty ones included; there is always one. -/
def splitChars (sep : Char) : List Char → List (List Char)
  | [] => [[]]
  | c :: cs =>
    if c = sep then [] :: splitChars sep cs
    else match splitChars sep cs with
      | [] => [[c]]
      | run :: runs => (c :: run) :: runs

def split (sep : Char) (s : String) : List String :=
  (splitChars sep s.toList).map String.ofList

end GoMetrics.Text
