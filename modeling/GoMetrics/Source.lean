import GoMetrics.Text.Utf8

/-!
Source files as bytes, and the places in them. Offsets and columns count bytes; rows count
newline bytes. Lines and columns of a `Position` start at one.
-/

namespace GoMetrics

structure Position where
  filename : String
  line : Int
  column : Int
  deriving DecidableEq, Repr, Inhabited

def Position.render (p : Position) : String :=
  p.filename ++ ":" ++ toString p.line ++ ":" ++ toString p.column

structure Source where
  filename : String
  bytes : List UInt8
  deriving DecidableEq, Repr, Inhabited

namespace Source

def newline : UInt8 := 10

/-- The bytes from `start` up to, not including, `stop`. -/
def slice (s : Source) (start stop : Nat) : List UInt8 :=
  (s.bytes.drop start).take (stop - start)

def text (s : Source) (start stop : Nat) : String :=
  Utf8.decodeLossy (s.slice start stop)

/-- The number of line ends before an offset. -/
def row (s : Source) (offset : Nat) : Nat :=
  (s.bytes.take offset).count newline

/-- Where the line that holds an offset begins: just after the last line end before it. -/
def lineStart (s : Source) (offset : Nat) : Nat :=
  let before := s.bytes.take offset
  before.length - (before.reverse.takeWhile (· != newline)).length

def column (s : Source) (offset : Nat) : Nat :=
  offset - s.lineStart offset

def line (s : Source) (offset : Nat) : Nat :=
  s.row offset + 1

def position (s : Source) (offset : Nat) : Position :=
  ⟨s.filename, s.line offset, s.column offset + 1⟩

end Source
end GoMetrics
