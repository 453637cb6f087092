/-!
Rows of comma-separated values. A field is quoted exactly when it holds a comma or a double quote,
and a quote inside a quoted field is doubled.
-/

namespace GoMetrics.Csv

def needsQuotes (cs : List Char) : Bool :=
  cs.any fun c => c == ',' || c == '"'

def doubled : List Char → List Char
  | [] => []
  | c :: cs => if c = '"' then '"' :: '"' :: doubled cs else c :: doubled cs

def field (cs : List Char) : List Char :=
  if needsQuotes cs then '"' :: doubled cs ++ ['"'] else cs

def joined : List (List Char) → List Char
  | [] => []
  | [f] => f
  | f :: fs => f ++ ',' :: joined fs

def row (fields : List String) : String :=
  String.ofList (joined (fields.map fun f => field f.toList))

end GoMetrics.Csv
