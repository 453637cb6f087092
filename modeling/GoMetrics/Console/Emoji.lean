import GoMetrics.Console.Emoji.Flags
import GoMetrics.Console.Emoji.Names
import GoMetrics.Text.Blank
import GoMetrics.Text.Case

/-!
Pictures in console messages. A name between colons stands for a picture if there is one of that
name; otherwise it stays as it is.
-/

namespace GoMetrics.Console.Emoji

/-- A picture by its code points. -/
structure Picture where
  name : String
  points : List Char
  /-- Whether it comes in all tones of skin. -/
  toned : Bool
  deriving Repr

def pointsOf (code : List Char) : List Char :=
  (Text.splitChars '-' code).filterMap fun digits => (Text.hexNumber? digits).map Char.ofNat

/-- Words by pairs. -/
def pairs : List (List Char) → List (List Char × List Char)
  | name :: code :: rest => (name, code) :: pairs rest
  | _ => []

/-- The pairs of names and codes in a table. -/
def entries (table : List String) : List (List Char × List Char) :=
  table.flatMap fun line => pairs (Text.words line.toList)

def pictures : List Picture :=
  (entries nameTable).map fun (name, code) =>
    ⟨String.ofList name, pointsOf (code.filter (· != '*')), code.contains '*'⟩

/-- The letter of a flag that stands for a small letter. -/
def flagLetter (c : Char) : Char :=
  Char.ofNat (0x1F1E6 + (c.toNat - 'a'.toNat))

def flags : List (String × List Char) :=
  (entries flagTable).map fun (name, code) =>
    (String.ofList name, code.map flagLetter)

/-- The tones of skin, each with the code point that gives the tone. -/
def tones : List (String × Char) :=
  [("_light_skin_tone", .ofNat 0x1F3FB), ("_medium-light_skin_tone", .ofNat 0x1F3FC),
    ("_medium_skin_tone", .ofNat 0x1F3FD), ("_medium-dark_skin_tone", .ofNat 0x1F3FE),
    ("_dark_skin_tone", .ofNat 0x1F3FF)]

/-- A picture in a tone of skin. The tone follows the first code point, in place of a selector. -/
def inTone (tone : Char) : List Char → List Char
  | c :: '\uFE0F' :: rest => c :: tone :: rest
  | c :: rest => c :: tone :: rest
  | [] => []

/-- What is left of a text without an ending. -/
def dropEnding? (ending cs : List Char) : Option (List Char) :=
  if ending.isSuffixOf cs then some (cs.take (cs.length - ending.length)) else none

def plain? (name : String) : Option (List Char) :=
  (pictures.find? (·.name = name)).map Picture.points

/-- A flag, by the name of the country alone or after a few words. -/
def flag? (name : String) : Option (List Char) :=
  let words := "flag_for_".toList
  let country := if words.isPrefixOf name.toList then name.toList.drop words.length else name.toList
  flags.lookup (String.ofList country)

def toned? (name : String) : Option (List Char) :=
  tones.findSome? fun (ending, tone) => do
    let base ← dropEnding? ending.toList name.toList
    let picture ← pictures.find? fun p => p.toned && p.name = String.ofList base
    return inTone tone picture.points

/-- The picture of a name. -/
def find? (name : String) : Option (List Char) :=
  plain? name <|> flag? name <|> toned? name

/-- The ways to ask for a variant of a picture, each with the selector that follows it. -/
def variants : List (String × Char) :=
  [("-emoji", '\uFE0F'), ("-text", '\uFE0E')]

/-- The picture that stands for what is between two colons, perhaps in a variant. -/
def shown? (body : List Char) : Option (List Char) :=
  let variant? := variants.findSome? fun (ending, selector) =>
    (dropEnding? ending.toList body).map (·, [selector])
  let (name, selector) := variant?.getD (body, [])
  (find? (String.ofList (Text.lower name))).map (· ++ selector)

/-- Put pictures in place of their names. `skip` characters belong to a name already read. Two
colons with no blank between them belong together, even if what they enclose is no name. -/
def replaceFrom (skip : Nat) : List Char → List Char
  | [] => []
  | c :: cs =>
    match skip with
    | skip + 1 => replaceFrom skip cs
    | 0 =>
      let body := cs.takeWhile fun d => d != ':' && !Text.isBlank d
      if c = ':' && (cs.drop body.length).head? == some ':' then
        (shown? body).getD (':' :: body ++ [':']) ++ replaceFrom (body.length + 1) cs
      else c :: replaceFrom 0 cs

def replace (cs : List Char) : List Char :=
  replaceFrom 0 cs

end GoMetrics.Console.Emoji
