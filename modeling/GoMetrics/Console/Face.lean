import GoMetrics.Console.Color

/-!
How a part of a console message looks. A face is described by words, and different words can
describe the same face; its normal form is the same for all of them.
-/

namespace GoMetrics.Console

inductive Attribute
  | bold | dim | italic | underline | blink | blink2 | reverse | conceal | strike | underline2
  | frame | encircle | overline
  deriving DecidableEq, Repr

namespace Attribute

/-- All attributes, in the order of the normal form. -/
def all : List Attribute :=
  [.bold, .dim, .italic, .underline, .blink, .blink2, .reverse, .conceal, .strike, .underline2,
    .frame, .encircle, .overline]

def name : Attribute → String
  | .bold => "bold"
  | .dim => "dim"
  | .italic => "italic"
  | .underline => "underline"
  | .blink => "blink"
  | .blink2 => "blink2"
  | .reverse => "reverse"
  | .conceal => "conceal"
  | .strike => "strike"
  | .underline2 => "underline2"
  | .frame => "frame"
  | .encircle => "encircle"
  | .overline => "overline"

/-- The attribute that a word stands for: its name, or a shorter form that some have. -/
def ofWord? : String → Option Attribute
  | "b" => some .bold
  | "d" => some .dim
  | "i" => some .italic
  | "u" => some .underline
  | "r" => some .reverse
  | "c" => some .conceal
  | "s" => some .strike
  | "uu" => some .underline2
  | "o" => some .overline
  | word => all.find? fun a => a.name = word

end Attribute

structure Face where
  /-- The attributes that are set or ruled out, the last word on each first. -/
  attributes : List (Attribute × Bool) := []
  color : Option String := none
  background : Option String := none
  link : Option String := none
  deriving DecidableEq, Repr

namespace Face

/-- Add what words say to a face. -/
def addWords (f : Face) : List (List Char) → Except StyleFault Face
  | [] => .ok f
  | word :: rest =>
    let small := Text.lower word
    match String.ofList small with
    | "on" =>
      match rest with
      | [] => .error .unknown
      | color :: rest => do
        let color := Text.lower color
        Color.check color
        addWords { f with background := some (String.ofList color) } rest
    | "not" =>
      match rest with
      | [] => .error .unknown
      | word :: rest =>
        match Attribute.ofWord? (String.ofList word) with
        | some a => addWords { f with attributes := (a, false) :: f.attributes } rest
        | none => .error .unknown
    | "link" =>
      match rest with
      | [] => .error .unknown
      | target :: rest => addWords { f with link := some (String.ofList target) } rest
    | key =>
      match Attribute.ofWord? key with
      | some a => addWords { f with attributes := (a, true) :: f.attributes } rest
      | none => do
        Color.check small
        addWords { f with color := some key } rest

/-- The face that words describe. -/
def read (cs : List Char) : Except StyleFault Face :=
  if Text.strip Text.isBlank cs = "none".toList then .ok {}
  else addWords {} (Text.words cs)

/-- The words of the normal form. -/
def words (f : Face) : List String :=
  let attributes := Attribute.all.filterMap fun a =>
    (f.attributes.lookup a).map fun on => if on then a.name else "not " ++ a.name
  attributes ++ f.color.toList ++ (f.background.map ("on " ++ ·)).toList ++
    (f.link.map ("link " ++ ·)).toList

def render (f : Face) : String :=
  if f.words.isEmpty then "none" else String.intercalate " " f.words

/-- The normal form of a description. Words that describe no face stand for themselves, in small
letters and without blanks around them. -/
def normal (cs : List Char) : Except StyleFault String :=
  match read cs with
  | .ok f => .ok f.render
  | .error .unknown => .ok (String.ofList (Text.lower (Text.strip Text.isBlank cs)))
  | .error .unreadable => .error .unreadable

end Face
end GoMetrics.Console
