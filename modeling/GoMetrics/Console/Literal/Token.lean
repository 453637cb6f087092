import GoMetrics.Text.CharName
import GoMetrics.Text.Digit
import GoMetrics.Text.Hex
import GoMetrics.Text.Split

/-!
The tokens of literal values.
-/

namespace GoMetrics.Console.Literal

inductive Numeral
  | whole (n : Nat)
  | real
  | imaginary
  deriving DecidableEq, Repr

inductive Token
  | number (n : Numeral)
  | text
  | bytes
  | word (name : String)
  | sign
  | ellipsis
  /-- A bracket, a comma or a colon. -/
  | mark (c : Char)
  /-- The end of a line outside all brackets. -/
  | newline
  deriving DecidableEq, Repr

def isDigits (cs : List Char) : Bool :=
  (Text.digits? cs).isSome

/-- The value of digits to a base; one underscore may come first. -/
def based? (base : Nat) (cs : List Char) : Option Nat := do
  let digit? (c : Char) : Option Nat := (Text.hexValue? c).filter (· < base)
  let digits ← Text.digitsBy? digit? (if cs.head? = some '_' then cs.drop 1 else cs)
  return digits.foldl (fun n d => base * n + d) 0

/-- An exponent, or nothing. -/
def isExponent : List Char → Bool
  | [] => true
  | 'e' :: '+' :: cs | 'e' :: '-' :: cs | 'e' :: cs => isDigits cs
  | _ => false

/-- A number with a point or an exponent. -/
def isReal (cs : List Char) : Bool :=
  let front := cs.takeWhile (· != 'e')
  let exponent := cs.drop front.length
  isExponent exponent && match Text.splitChars '.' front with
    | [digits] => isDigits digits && !exponent.isEmpty
    | [whole, fraction] =>
      !(whole.isEmpty && fraction.isEmpty) && (whole.isEmpty || isDigits whole) &&
        (fraction.isEmpty || isDigits fraction)
    | _ => false

/-- A decimal whole number. Only zero begins with a zero, and it can be of any length. -/
def decimal? (cs : List Char) : Option Nat := do
  let digits ← Text.digits? cs
  if digits.all (· == 0) then return 0
  guard (digits.head? != some 0 && digits.length ≤ Text.digitLimit)
  return Text.ofDigits digits

/-- The number that a run of small letters, digits and signs is. -/
def numeral? : List Char → Option Numeral
  | '0' :: 'x' :: cs => (based? 16 cs).map .whole
  | '0' :: 'o' :: cs => (based? 8 cs).map .whole
  | '0' :: 'b' :: cs => (based? 2 cs).map .whole
  | cs =>
    if cs.getLast? = some 'j' then
      if isDigits cs.dropLast || isReal cs.dropLast then some .imaginary else none
    else if isReal cs then some .real
    else (decimal? cs).map .whole

def inNumber (c : Char) : Bool :=
  c.isAlphanum || c == '_' || c == '.'

/-- The run of characters that a number at the front takes. A sign belongs to it after the mark of
an exponent. -/
def numberRun (cs : List Char) : List Char :=
  let run := cs.takeWhile inNumber
  let based := run.head? = some '0' && (run.drop 1).head?.any (['x', 'o', 'b'].contains ·)
  match cs.drop run.length with
  | c :: d :: rest =>
    if !based && run.getLast? = some 'e' && (c == '+' || c == '-') && d.isDigit then
      run ++ c :: (d :: rest).takeWhile inNumber
    else run
  | _ => run

/-- What stands before the closing quote, and what follows it. A long text ends with three quotes
and can run over several lines. -/
def untilQuote (quote : Char) (long : Bool) : List Char → Option (List Char × List Char)
  | [] => none
  | '\\' :: c :: cs => do
    let (body, rest) ← untilQuote quote long cs
    return ('\\' :: c :: body, rest)
  | c :: cs =>
    if long && c = quote && [quote, quote].isPrefixOf cs then some ([], cs.drop 2)
    else if !long && c = quote then some ([], cs)
    else if !long && c = '\n' then none
    else do
      let (body, rest) ← untilQuote quote long cs
      return (c :: body, rest)

/-- The value of the next `n` characters, hexadecimal digits. -/
def hexAhead? (n : Nat) (cs : List Char) : Option Nat :=
  let digits := (cs.take n).map Char.toLower
  if digits.length = n then Text.hexNumber? digits else none

/-- The name of a character in braces. -/
def namedAhead : List Char → Bool
  | [] => false
  | c :: cs =>
    let name := cs.takeWhile (· != '\x7d')
    c == '\x7b' && (cs.drop name.length).head? == some '\x7d' && Text.CharName.isName name

/-- Whether an escape is complete: `c` follows the backslash, and `cs` follows `c`. -/
def isEscape (bytes : Bool) (c : Char) (cs : List Char) : Bool :=
  match c with
  | 'x' => (hexAhead? 2 cs).isSome
  | 'u' => bytes || (hexAhead? 4 cs).isSome
  | 'U' => bytes || (hexAhead? 8 cs).any (· ≤ 0x10FFFF)
  | 'N' => bytes || namedAhead cs
  | _ => true

def escapesHold (bytes : Bool) : List Char → Bool
  | '\\' :: c :: cs => isEscape bytes c cs && escapesHold bytes cs
  | _ :: cs => escapesHold bytes cs
  | [] => true

/-- A text at the front, after the letters before its quote, and what follows it. -/
def quotedText? (letters : List Char) : List Char → Option (Token × List Char)
  | [] => none
  | quote :: cs => do
    let kind := String.ofList (letters.map Char.toLower)
    guard (["", "r", "u", "b", "br", "rb"].contains kind)
    let bytes := kind.contains 'b'
    let long := [quote, quote].isPrefixOf cs
    let (body, rest) ← untilQuote quote long (if long then cs.drop 2 else cs)
    guard (!bytes || body.all fun c => c.toNat < 0x80)
    guard (kind.contains 'r' || escapesHold bytes body)
    return (if bytes then .bytes else .text, rest)

def isQuote (c : Char) : Bool :=
  c == '"' || c == '\x27'

/-- How deep brackets can be nested. -/
def depthLimit : Nat := 200

/-- Other forms of the letters of the word for a set. -/
def letterForms : List (Char × Text.Ranges) :=
  [('s', .parse ["17f 2e2 209b ff53 1d42c 1d460 1d494 1d4c8 1d4fc 1d530 1d564 1d598 1d5cc 1d600",
      "1d634 1d668 1d69c"]),
    ('e', .parse ["1d49 2091 212f 2147 ff45 1d41e 1d452 1d486 1d4ee 1d522 1d556 1d58a 1d5be 1d5f2",
      "1d626 1d65a 1d68e"]),
    ('t', .parse ["1d57 209c ff54 1d42d 1d461 1d495 1d4c9 1d4fd 1d531 1d565 1d599 1d5cd 1d601",
      "1d635 1d669 1d69d"])]

/-- What a character of a word counts as. -/
def wordChar? (c : Char) : Option Char :=
  if c.isAlphanum || c == '_' then some c
  else (letterForms.find? fun (_, forms) => forms.contains c).map (·.1)

/-- The word that a run of its characters is. Only the word for a set can have other forms of
letters in it. -/
def word? (run : List Char) : Option Token :=
  let name := run.filterMap wordChar?
  if run.isEmpty then none
  else if name = run || name = ['s', 'e', 't'] then some (.word (String.ofList name))
  else none

/-- What follows the blank lines and comments at the front. There are no blanks in front of it on
its line. They are counted as columns: a tab reaches the next multiple of eight, and a form feed
goes back to the first. `kept` is the column at which a line was continued in the next one. -/
def unindented? (comment : Bool) (column kept : Nat) : List Char → Option (List Char)
  | [] => none
  | '\n' :: cs => unindented? false 0 0 cs
  | '\\' :: '\n' :: cs =>
    if comment then unindented? false 0 0 cs
    else unindented? false column (if kept = 0 then column else kept) cs
  | ' ' :: cs => unindented? comment (column + 1) kept cs
  | '\t' :: cs => unindented? comment ((column / 8 + 1) * 8) kept cs
  | '\x0c' :: cs => unindented? comment 0 kept cs
  | c :: cs =>
    if comment || c = '#' then unindented? true column kept cs
    else if kept = 0 && column = 0 then some (c :: cs)
    else none

/-- The tokens of a text, at some depth of brackets. Every step takes a character at least, so
that the length of the text is enough fuel. -/
def tokens? : Nat → Nat → List Char → Option (List Token)
  | _, _, [] => some []
  | 0, _, _ :: _ => none
  | fuel + 1, depth, c :: cs =>
    if c = ' ' || c = '\t' || c = '\x0c' then tokens? fuel depth cs
    else if c = '\n' then
      if depth = 0 then (tokens? fuel depth cs).map (.newline :: ·) else tokens? fuel depth cs
    else if c = '#' then tokens? fuel depth (cs.dropWhile (· != '\n'))
    else if c = '\\' then
      if cs.head? = some '\n' && 1 < cs.length then tokens? fuel depth (cs.drop 1) else none
    else if c = '(' || c = '\x7b' then
      if depth < depthLimit then (tokens? fuel (depth + 1) cs).map (.mark c :: ·) else none
    else if c = ')' || c = '\x7d' then (tokens? fuel (depth - 1) cs).map (.mark c :: ·)
    else if c = ',' || c = ':' then (tokens? fuel depth cs).map (.mark c :: ·)
    else if c = '+' || c = '-' then (tokens? fuel depth cs).map (.sign :: ·)
    else if c.isDigit || (c = '.' && cs.head?.any Char.isDigit) then do
      let run := numberRun ((c :: cs).map Char.toLower)
      let number ← numeral? run
      (tokens? fuel depth (cs.drop (run.length - 1))).map (.number number :: ·)
    else if c = '.' then
      if ['.', '.'].isPrefixOf cs then (tokens? fuel depth (cs.drop 2)).map (.ellipsis :: ·)
      else none
    else do
      let run := (c :: cs).takeWhile fun d => (wordChar? d).isSome
      let rest := (c :: cs).drop run.length
      if rest.head?.any isQuote then
        let (token, rest) ← quotedText? run rest
        (tokens? fuel depth rest).map (token :: ·)
      else do
        let word ← word? run
        (tokens? fuel depth rest).map (word :: ·)

end GoMetrics.Console.Literal
