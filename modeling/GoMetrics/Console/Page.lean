import GoMetrics.Console.Emoji
import GoMetrics.Console.Face
import GoMetrics.Console.Literal
import GoMetrics.Console.Piece
import GoMetrics.Text.Width
import GoMetrics.Text.Word

/-!
What a console shows of a message. Tags are not shown, but they have to make sense: a closing tag
needs an open one of the same normal form, and the arguments of an action have to be values.
-/

namespace GoMetrics.Console

/-- Why a message cannot be shown. -/
inductive Fault
  /-- A tag closes what is not open, or the arguments of an action are no values. -/
  | markup
  /-- A component of a colour is no number. -/
  | color
  deriving DecidableEq, Repr

/-- A tag that is open since a place in the text. -/
structure OpenTag where
  name : String
  parameters : Option (List Char)
  start : Nat
  deriving DecidableEq, Repr

/-- A stretch of the text and the description of its face. -/
structure Span where
  start : Nat
  stop : Nat
  style : List Char
  deriving DecidableEq, Repr

namespace OpenTag

/-- An action is not a face: it is what happens when the text is pressed. -/
def isAction (t : OpenTag) : Bool :=
  t.name.startsWith "@"

/-- The description of the face of a tag. -/
def style (t : OpenTag) : List Char :=
  match t.parameters with
  | none => t.name.toList
  | some parameters => t.name.toList ++ ' ' :: parameters

/-- The arguments of an action: what stands in parentheses after its name, or everything if it is
not written that way. A name alone has none. -/
def arguments? (parameters : List Char) : Option (List Char) :=
  let body := Text.strip Text.isBlank parameters
  let rest := body.dropWhile fun c => Text.isWord c || c == '.'
  if rest.isEmpty then none
  else if rest.head? = some '(' && rest.getLast? = some ')' && !rest.contains '\n' then some rest
  else some body

/-- Whether a tag can be closed. -/
def isSound (t : OpenTag) : Bool :=
  !t.isAction || ((t.parameters.filter (!·.isEmpty)).bind arguments?).all Literal.isLiteral

end OpenTag

/-- A message under way. -/
structure Page where
  text : List Char := []
  /-- The open tags, the last one first. -/
  opened : List OpenTag := []
  spans : List Span := []
  deriving DecidableEq, Repr

namespace Page

/-- Characters that would move the cursor or ring the bell; newlines and tabs are not among them. -/
def isControl (c : Char) : Bool :=
  [0x07, 0x08, 0x0B, 0x0C, 0x0D].contains c.toNat

/-- A backslash in front of an opening bracket is not shown. -/
def unescaped : List Char → List Char
  | '\\' :: '[' :: cs => '[' :: unescaped cs
  | c :: cs => c :: unescaped cs
  | [] => []

def addText (p : Page) (cs : List Char) : Page :=
  { p with text := p.text ++ (Emoji.replace (unescaped cs)).filter (!isControl ·) }

/-- The normal form of the name of a tag. -/
def normal (cs : List Char) : Except Fault String :=
  (Face.normal cs).mapError fun _ => .color

def openTag (p : Page) (name : List Char) (parameters : Option (List Char)) :
    Except Fault Page := do
  return { p with opened := ⟨← normal name, parameters, p.text.length⟩ :: p.opened }

/-- Close one of the open tags. -/
def close (p : Page) (t : OpenTag) : Except Fault Page :=
  if !t.isSound then .error .markup
  else
    let spans := if t.isAction then p.spans else ⟨t.start, p.text.length, t.style⟩ :: p.spans
    .ok { p with opened := p.opened.erase t, spans }

/-- Close the last open tag of a name, or the last one at all if no name is given. -/
def closeTag (p : Page) (name : List Char) : Except Fault Page := do
  let name := Text.strip Text.isBlank name
  let found ← if name.isEmpty then pure p.opened.head?
    else do
      let name ← normal name
      pure (p.opened.find? (·.name = name))
  match found with
  | some t => p.close t
  | none => throw .markup

def add (p : Page) : Piece → Except Fault Page
  | .text cs => .ok (p.addText cs)
  | .tag ('/' :: name) _ => p.closeTag name
  | .tag name parameters => p.openTag name parameters

/-- All spans; a tag that was not closed reaches to the end. -/
def allSpans (p : Page) : List Span :=
  p.spans ++ p.opened.map fun t => ⟨t.start, p.text.length, t.style⟩

/-- Whether a span is drawn. An empty one is, as long as the text is not cut at newlines or tabs. -/
def isDrawn (p : Page) (s : Span) : Bool :=
  !(p.text.contains '\n' || p.text.contains '\t') ||
    ((p.text.take s.stop).drop s.start).any (· != '\n')

/-- Whether all faces that are drawn can be made out. A description of no face is passed over. -/
def isDrawable (p : Page) : Bool :=
  p.allSpans.all fun s => !p.isDrawn s || match Face.read s.style with
    | .error .unreadable => false
    | _ => true

/-- The width of a tab stop. -/
def tabWidth : Nat := 8

/-- How far it is from a column to the next tab stop. -/
def toTabStop (column : Nat) : Nat :=
  (tabWidth - column % tabWidth) % tabWidth

/-- A line with blanks in place of tabs, from the runs between the tabs. A tab is one blank, and as
many more as it takes to reach a tab stop. -/
def expandRuns (column : Nat) : List (List Char) → List Char
  | [] => []
  | [run] => run
  | run :: runs =>
    let part := run ++ [' ']
    let column := column + Text.cells part
    part ++ List.replicate (toTabStop column) ' ' ++ expandRuns (column + toTabStop column) runs

def expandTabs (line : List Char) : List Char :=
  expandRuns 0 (Text.splitChars '\t' line)

/-- The text of a page as it is shown. -/
def shown (p : Page) : List Char :=
  List.intercalate ['\n'] ((Text.splitChars '\n' p.text).map expandTabs)

end Page

/-- What a console shows of a message. -/
def show? (message : String) : Except Fault String := do
  let page ← (Piece.ofMessage message).foldlM Page.add {}
  if page.isDrawable then return String.ofList page.shown else throw .color

end GoMetrics.Console
