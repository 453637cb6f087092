/-!
The pieces of a console message. A word in square brackets that begins with a small letter or one
of a few signs is a tag; all else is text. A backslash in front of a tag makes it text, and two of
them are one that is shown.
-/

namespace GoMetrics.Console

inductive Piece
  | text (cs : List Char)
  /-- A tag, and what follows its first equals sign. -/
  | tag (name : List Char) (parameters : Option (List Char))
  deriving DecidableEq, Repr

namespace Piece

def opensTag (c : Char) : Bool :=
  c.isLower || c == '#' || c == '/' || c == '@'

/-- The tag that follows an opening bracket, without the closing one. -/
def tag? : List Char → Option (List Char)
  | [] => none
  | c :: cs =>
    let body := cs.takeWhile fun d => d != ']' && d != '['
    if opensTag c && (cs.drop body.length).head? == some ']' then some (c :: body) else none

def ofTag (cs : List Char) : Piece :=
  let name := cs.takeWhile (· != '=')
  match cs.drop name.length with
  | [] => .tag name none
  | _ :: parameters => .tag name (some parameters)

/-- A text if there is one. -/
def ofText (cs : List Char) : List Piece :=
  if cs.isEmpty then [] else [.text cs]

/-- The pieces of a message. `skip` characters belong to a tag already read, `pending` is text that
may go on, its last character first, and `slashes` backslashes wait for what follows them. -/
def split (skip slashes : Nat) (pending : List Char) : List Char → List Piece
  | [] => ofText (pending.reverse ++ List.replicate slashes '\\')
  | c :: cs =>
    match skip with
    | skip + 1 => split skip 0 [] cs
    | 0 =>
      if c = '\\' then split 0 (slashes + 1) pending cs
      else
        match (if c = '[' then tag? cs else none) with
        | none => split 0 0 (c :: List.replicate slashes '\\' ++ pending) cs
        | some body =>
          let piece := if slashes % 2 = 1 then .text ('[' :: body ++ [']']) else ofTag body
          ofText pending.reverse ++ ofText (List.replicate (slashes / 2) '\\') ++
            piece :: split (body.length + 1) 0 [] cs

def ofMessage (message : String) : List Piece :=
  split 0 0 [] message.toList

end Piece
end GoMetrics.Console
