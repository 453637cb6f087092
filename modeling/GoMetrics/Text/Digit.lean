import GoMetrics.Text.Blank

/-!
Whole numbers in decimal digits of any script.
-/

namespace GoMetrics.Text

/-- The code points of the zeros of all scripts that have decimal digits (Unicode 14). The other
nine digits of a script follow its zero. -/
def zeros : List Nat :=
  [0x30, 0x660, 0x6F0, 0x7C0, 0x966, 0x9E6, 0xA66, 0xAE6, 0xB66, 0xBE6, 0xC66, 0xCE6, 0xD66,
    0xDE6, 0xE50, 0xED0, 0xF20, 0x1040, 0x1090, 0x17E0, 0x1810, 0x1946, 0x19D0, 0x1A80, 0x1A90,
    0x1B50, 0x1BB0, 0x1C40, 0x1C50, 0xA620, 0xA8D0, 0xA900, 0xA9D0, 0xA9F0, 0xAA50, 0xABF0,
    0xFF10, 0x104A0, 0x10D30, 0x11066, 0x110F0, 0x11136, 0x111D0, 0x112F0, 0x11450, 0x114D0,
    0x11650, 0x116C0, 0x11730, 0x118E0, 0x11950, 0x11C50, 0x11D50, 0x11DA0, 0x16A60, 0x16AC0,
    0x16B50, 0x1D7CE, 0x1D7D8, 0x1D7E2, 0x1D7EC, 0x1D7F6, 0x1E140, 0x1E2F0, 0x1E950, 0x1FBF0]

/-- The value of a decimal digit. -/
def digit? (c : Char) : Option Nat :=
  (zeros.find? fun z => z ≤ c.toNat && c.toNat ≤ z + 9).map (c.toNat - ·)

/-- Blanks that may surround a number. The separators U+001C to U+001F are not among them. -/
def isNumberBlank (c : Char) : Bool :=
  isBlank c && !(0x1C ≤ c.toNat && c.toNat ≤ 0x1F)

/-- The digits of a run in which a single underscore may stand between two digits. -/
def digitsBy? (value? : Char → Option Nat) : List Char → Option (List Nat)
  | [] => none
  | [c] => (value? c).map ([·])
  | c :: '_' :: rest => do
    let d ← value? c
    return d :: (← digitsBy? value? rest)
  | c :: rest => do
    let d ← value? c
    return d :: (← digitsBy? value? rest)

/-- The decimal digits of a run. -/
def digits? (cs : List Char) : Option (List Nat) :=
  digitsBy? digit? cs

def ofDigits (ds : List Nat) : Nat :=
  ds.foldl (fun n d => 10 * n + d) 0

/-- Why a text is no whole number. -/
inductive NotWhole
  | illFormed
  | tooLong (digits : Nat)
  deriving DecidableEq, Repr

/-- The longest run of digits that is read as a number. -/
def digitLimit : Nat := 4300

/-- A sign and what follows it; without a sign a number is not negative. -/
def sign : List Char → Bool × List Char
  | '-' :: rest => (true, rest)
  | '+' :: rest => (false, rest)
  | cs => (false, cs)

def signed (negative : Bool) (n : Nat) : Int :=
  if negative then -(n : Int) else n

/-- A whole number with an optional sign, surrounding blanks ignored. A run of digits that is too
long is refused before anyone looks at what follows it. -/
def readInt (s : String) : Except NotWhole Int :=
  let (negative, body) := sign (s.toList.dropWhile isNumberBlank)
  let run := body.takeWhile fun c => (digit? c).isSome || c == '_'
  match digits? run with
  | none => .error .illFormed
  | some ds =>
    if digitLimit < ds.length then .error (.tooLong ds.length)
    else if (body.drop run.length).all isNumberBlank then .ok (signed negative (ofDigits ds))
    else .error .illFormed

end GoMetrics.Text
