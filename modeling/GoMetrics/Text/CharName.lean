import GoMetrics.Text.CharName.A
import GoMetrics.Text.CharName.B
import GoMetrics.Text.CharName.C
import GoMetrics.Text.CharName.DToG
import GoMetrics.Text.CharName.HToK
import GoMetrics.Text.CharName.L
import GoMetrics.Text.CharName.MToN
import GoMetrics.Text.CharName.OToR
import GoMetrics.Text.CharName.S
import GoMetrics.Text.CharName.TToZ
import GoMetrics.Text.Ranges

/-!
Which names of characters there are (Unicode 14, corrected and other names included). Most names
are in a table. The names of Chinese characters and of Korean syllables follow a rule instead.

The table holds a tree of words in preorder. An entry has a small letter for its depth, `a` at the
top, and a word of a name together with the hyphen or, as an underscore, the blank after it. A word
with neither of them ends a name.
-/

namespace GoMetrics.Text.CharName

def table : List (List String) :=
  [namesA, namesB, namesC, namesDToG, namesHToK, namesL, namesMToN, namesOToR, namesS, namesTToZ]

/-- The words of a name, each with the sign after it as the table writes it. The last one has no
such sign; it is empty if the name ends with one. -/
def words : List Char → List (List Char)
  | [] => [[]]
  | c :: cs =>
    if c = ' ' then ['_'] :: words cs
    else if c = '-' then ['-'] :: words cs
    else match words cs with
      | [] => [[c]]
      | word :: rest => (c :: word) :: rest

/-- How far a name was followed into the tree. -/
inductive Search
  /-- The words before `rest` lead to the entries at `depth` that come next. -/
  | below (depth : Nat) (rest : List (List Char))
  | found
  | absent
  deriving DecidableEq, Repr

namespace Search

/-- Passes an entry of the tree, which is at `depth` if the search is not over yet. -/
def pass (s : Search) (entry : List Char) : Search :=
  match s, entry with
  | .below depth (word :: rest), level :: w =>
    let d := level.toNat - 'a'.toNat
    if d < depth then .absent
    else if d = depth && w = word then if rest.isEmpty then .found else .below (depth + 1) rest
    else s
  | s, _ => s

end Search

/-- Whether a name of capital letters, digits, blanks and hyphens is in the table. -/
def isListed (name : List Char) : Bool :=
  let search := table.foldl (fun s lines => lines.foldl
    (fun s line => (splitChars ' ' line.toList).foldl Search.pass s) s) (.below 0 (words name))
  search = .found

/-- Chinese characters that are named by their code point. -/
def ideographs : Ranges := .parse
  ["3400-4dbf 4e00-9fff 20000-2a6df 2a700-2b738 2b740-2b81d 2b820-2cea1 2ceb0-2ebe0 30000-3134a"]

/-- A code point in four or five digits, the letters among them capitals. -/
def isIdeograph (digits : List Char) : Bool :=
  (digits.length = 4 || digits.length = 5) && digits.all (fun c => c.isDigit || c.isUpper) &&
    (hexNumber? (digits.map Char.toLower)).any fun n => ideographs.contains (Char.ofNat n)

/-- The sounds that a Korean syllable begins with. -/
def onsets : List String :=
  ["G", "GG", "N", "D", "DD", "R", "M", "B", "BB", "S", "SS", "", "J", "JJ", "C", "K", "T", "P",
    "H"]

/-- The sounds in the middle of a Korean syllable. -/
def vowels : List String :=
  ["A", "AE", "YA", "YAE", "EO", "E", "YEO", "YE", "O", "WA", "WAE", "OE", "YO", "U", "WEO", "WE",
    "WI", "YU", "EU", "YI", "I"]

/-- The sounds that a Korean syllable ends with. -/
def codas : List String :=
  ["", "G", "GG", "GS", "N", "NJ", "NH", "D", "L", "LG", "LM", "LB", "LS", "LT", "LP", "LH", "M",
    "B", "BS", "S", "SS", "NG", "J", "C", "K", "T", "P", "H"]

/-- What follows the longest of the sounds at the front. -/
def afterSound? (sounds : List String) (cs : List Char) : Option (List Char) :=
  let lengths := (sounds.map String.toList).filterMap fun sound =>
    if sound.isPrefixOf cs then some sound.length else none
  lengths.max?.map cs.drop

def isSyllable (cs : List Char) : Bool :=
  (afterSound? onsets cs >>= afterSound? vowels >>= afterSound? codas).any List.isEmpty

/-- Whether there is a character of this name. Small letters count as capitals, but not in a name
that follows a rule. -/
def isName (name : List Char) : Bool :=
  let ruled (start : String) : Option (List Char) :=
    if start.toList.isPrefixOf name then some (name.drop start.length) else none
  match ruled "HANGUL SYLLABLE ", ruled "CJK UNIFIED IDEOGRAPH-" with
  | some sounds, _ => isSyllable sounds
  | none, some digits => isIdeograph digits
  | none, none =>
    name.all (fun c => c.isAlphanum || c == ' ' || c == '-') && isListed (name.map Char.toUpper)

end GoMetrics.Text.CharName
