import GoMetrics.Console.Literal.Token
import GoMetrics.Decimal

/-!
Literal values: numbers, texts, a few constants, and tuples, sets and dictionaries of them. What a
literal comes to does not matter here, only whether it comes to anything.

Reading a value takes steps nested in one another, and there is a limit to how deep they can go.
The height of a value is the depth of the steps that it takes.
-/

namespace GoMetrics.Console.Literal

/-- What is known of a value while it is read. -/
inductive Shape
  | number (n : Numeral)
  | signed (n : Numeral)
  /-- The word for a set, which needs empty parentheses to be a value. -/
  | setWord
  | plain
  /-- A set or a dictionary, or a tuple with one inside. -/
  | loose
  deriving DecidableEq, Repr

namespace Shape

def isValue (s : Shape) : Bool :=
  s != .setWord

/-- Whether a value can be a member of a set and a key of a dictionary. -/
def isKey (s : Shape) : Bool :=
  s != .setWord && s != .loose

/-- Only a bare number takes a sign. -/
def withSign? : Shape → Option Shape
  | .number n => some (.signed n)
  | _ => none

/-- Whether a number can be added to an imaginary one: it is real, and not too large. -/
def isRealPart : Shape → Bool
  | .number (.whole n) | .signed (.whole n) => (Decimal.nearest? false n 1).isSome
  | .number .real | .signed .real => true
  | _ => false

/-- The only sums are those of a real number and an imaginary one. -/
def sum? (left right : Shape) : Option Shape :=
  if left.isRealPart && right = .number .imaginary then some .plain else none

end Shape

/-- A value with its height. -/
structure Value where
  shape : Shape
  height : Nat
  deriving DecidableEq, Repr

/-- The height of a number, a constant or a word. It also counts for a value that was looked for
and is missing. -/
def leastHeight : Nat := 23

def textHeight : Nat := 25

/-- The height of a call of the word for a set. -/
def callHeight : Nat := 47

/-- How high the values of a whole text can be. -/
def heightLimit : Nat := 6000

namespace Value

/-- A sign takes a step of its own. -/
def withSign? (v : Value) : Option Value :=
  v.shape.withSign?.map (⟨·, v.height + 1⟩)

def sum? (left right : Value) : Option Value :=
  (left.shape.sum? right.shape).map (⟨·, max left.height right.height⟩)

end Value

/-- A member of something in brackets, with what follows a colon. -/
structure Member where
  value : Value
  entry : Option Value
  deriving DecidableEq, Repr

def Member.height (m : Member) : Nat :=
  max m.value.height ((m.entry.map Value.height).getD 0)

/-- What stands between brackets. -/
structure Group where
  members : List Member := []
  /-- Whether there is a comma after the last member. -/
  comma : Bool := false
  deriving DecidableEq, Repr

namespace Group

/-- The height of the members, to which their places add. One more member is looked for after a
comma and if there is none. -/
def height (step : Nat → Nat) (g : Group) : Nat :=
  let missing := if g.comma || g.members.isEmpty then [leastHeight] else []
  let heights := (g.members.map Member.height ++ missing).zipIdx.map fun (h, i) => step i + h
  heights.foldl max 0

/-- The steps to a member in parentheses. -/
def tupleStep : Nat → Nat
  | 0 => 28
  | 1 => 30
  | _ => 31

/-- The steps to a member in braces. -/
def bracedStep (i : Nat) : Nat :=
  if i = 0 then 29 else 30

/-- The steps to a member outside all brackets. -/
def outerStep (i : Nat) : Nat :=
  if i = 0 then 2 else 4

/-- A single value, or a tuple if there is a comma or nothing at all. -/
def tuple? (g : Group) : Option Shape :=
  let shapes := g.members.map (·.value.shape)
  if g.members.any (·.entry.isSome) then none
  else match shapes, g.comma with
    | [shape], false => some shape
    | shapes, _ =>
      if shapes.all Shape.isKey then some .plain
      else if shapes.all Shape.isValue then some .loose
      else none

/-- A set, or a dictionary if all members have an entry. -/
def braced? (g : Group) : Option Shape :=
  let entries := g.members.filterMap Member.entry
  if g.members.all (·.value.shape.isKey) && entries.all (·.shape.isValue) &&
    (entries.isEmpty || entries.length = g.members.length) then some .loose
  else none

end Group

/-- The word for a set followed by empty parentheses is a set. -/
def called (v : Value) (ts : List Token) : Value × List Token :=
  match v, ts with
  | ⟨.setWord, h⟩, .mark '(' :: .mark ')' :: rest => (⟨.loose, max h callHeight⟩, rest)
  | v, ts => (v, ts)

mutual
/-- A value at the front, and the tokens after it. -/
def value? : Nat → List Token → Option (Value × List Token)
  | 0, _ => none
  | fuel + 1, ts => do
    let (left, rest) ← operand? fuel ts
    terms? fuel left rest
/-- What is added to a value. -/
def terms? : Nat → Value → List Token → Option (Value × List Token)
  | 0, _, _ => none
  | fuel + 1, left, .sign :: ts => do
    let (right, rest) ← operand? fuel ts
    terms? fuel (← left.sum? right) rest
  | _ + 1, left, ts => some (left, ts)
/-- A value without sums outside brackets. -/
def operand? : Nat → List Token → Option (Value × List Token)
  | 0, _ => none
  | fuel + 1, .sign :: ts => do
    let (v, rest) ← operand? fuel ts
    return (← v.withSign?, rest)
  | _ + 1, .number n :: ts => some (⟨.number n, leastHeight⟩, ts)
  | _ + 1, .text :: ts => some (⟨.plain, textHeight⟩, ts.dropWhile (· == .text))
  | _ + 1, .bytes :: ts => some (⟨.plain, textHeight⟩, ts.dropWhile (· == .bytes))
  | _ + 1, .ellipsis :: ts => some (⟨.plain, leastHeight⟩, ts)
  | _ + 1, .word name :: ts =>
    if ["None", "True", "False"].contains name then some (⟨.plain, leastHeight⟩, ts)
    else if name = "set" then some (called ⟨.setWord, leastHeight⟩ ts)
    else none
  | fuel + 1, .mark '(' :: ts => do
    let (g, rest) ← group? fuel (.mark ')') ts
    return called ⟨← g.tuple?, g.height Group.tupleStep⟩ rest
  | fuel + 1, .mark '\x7b' :: ts => do
    let (g, rest) ← group? fuel (.mark '\x7d') ts
    return (⟨← g.braced?, g.height Group.bracedStep⟩, rest)
  | _ + 1, _ => none
/-- The members up to a closing token. -/
def group? : Nat → Token → List Token → Option (Group × List Token)
  | 0, _, _ => none
  | _ + 1, _, [] => none
  | fuel + 1, close, t :: ts => do
    if t = close then return ({}, ts)
    let (value, rest) ← value? fuel (t :: ts)
    let (entry, rest) ← match rest with
      | .mark ':' :: rest => (value? fuel rest).map fun (e, rest) => (some e, rest)
      | rest => some (none, rest)
    match rest with
    | .mark ',' :: rest => do
      let (g, rest) ← group? fuel close rest
      return (⟨⟨value, entry⟩ :: g.members, g.comma || g.members.isEmpty⟩, rest)
    | t :: rest => if t = close then return (⟨[⟨value, entry⟩], false⟩, rest) else none
    | [] => none
end

/-- Line ends are one character, whichever way they are written. -/
def lineEnds : List Char → List Char
  | '\r' :: '\n' :: cs => '\n' :: lineEnds cs
  | c :: cs => (if c = '\r' then '\n' else c) :: lineEnds cs
  | [] => []

/-- Tokens without line ends around them. -/
def trimmed (ts : List Token) : List Token :=
  ((ts.dropWhile (· == .newline)).reverse.dropWhile (· == .newline)).reverse

/-- Whether a text is a literal value. -/
def isLiteral (cs : List Char) : Bool :=
  let text := (lineEnds cs).dropWhile fun c => c == ' ' || c == '\t'
  if text.contains '\x00' then false
  else match unindented? false 0 0 text >>= tokens? text.length 0 with
    | none => false
    | some ts =>
      let ts := trimmed ts ++ [.newline]
      match group? (5 * ts.length) .newline ts with
      | some (g, []) =>
        !g.members.isEmpty && g.tuple?.any Shape.isValue && g.height Group.outerStep ≤ heightLimit
      | _ => false

end GoMetrics.Console.Literal
