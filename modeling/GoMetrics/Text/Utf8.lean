/-!
UTF-8 text. `scan` reads a byte string as a sequence of characters and gaps, one gap for each
maximal ill-formed part. The strict and the lenient reading are two views of that one scan: the
strict one refuses a gap, the lenient one puts U+FFFD in its place.
-/

namespace GoMetrics.Utf8

/-- What a lead byte announces: the bits it contributes, the range of the byte that must follow,
and how many further continuation bytes come after that one. -/
structure Lead where
  bits : Nat
  low : UInt8
  high : UInt8
  further : Nat

/-- The lead bytes of sequences of two, three and four bytes. The narrowed ranges exclude
overlong forms, surrogates and values past U+10FFFF. -/
def lead? (a : UInt8) : Option Lead :=
  if a < 0xC2 then none
  else if a < 0xE0 then some ⟨a.toNat % 32, 0x80, 0xBF, 0⟩
  else if a = 0xE0 then some ⟨0, 0xA0, 0xBF, 1⟩
  else if a = 0xED then some ⟨13, 0x80, 0x9F, 1⟩
  else if a < 0xF0 then some ⟨a.toNat % 16, 0x80, 0xBF, 1⟩
  else if a = 0xF0 then some ⟨0, 0x90, 0xBF, 2⟩
  else if a < 0xF4 then some ⟨a.toNat % 8, 0x80, 0xBF, 2⟩
  else if a = 0xF4 then some ⟨4, 0x80, 0x8F, 2⟩
  else none

def isContinuation (b : UInt8) : Bool :=
  0x80 ≤ b && b ≤ 0xBF

/-- Append the six payload bits of a continuation byte. -/
def extend (bits : Nat) (b : UInt8) : Nat :=
  bits * 64 + b.toNat % 64

/-- The characters of a byte string in order, `none` standing for a maximal ill-formed part. -/
def scan : List UInt8 → List (Option Char)
  | [] => []
  | a :: s =>
    if a < 0x80 then some (Char.ofNat a.toNat) :: scan s
    else match lead? a with
      | none => none :: scan s
      | some l =>
        match s with
        | [] => [none]
        | b :: s₁ =>
          if l.low ≤ b ∧ b ≤ l.high then
            if l.further = 0 then some (Char.ofNat (extend l.bits b)) :: scan s₁
            else match s₁ with
              | [] => [none]
              | c :: s₂ =>
                if isContinuation c then
                  if l.further = 1 then
                    some (Char.ofNat (extend (extend l.bits b) c)) :: scan s₂
                  else match s₂ with
                    | [] => [none]
                    | d :: s₃ =>
                      if isContinuation d then
                        some (Char.ofNat (extend (extend (extend l.bits b) c) d)) :: scan s₃
                      else none :: scan (d :: s₃)
                else none :: scan (c :: s₂)
          else none :: scan (b :: s₁)

/-- The text of well-formed bytes; `none` if any part is ill-formed. -/
def decode? (bytes : List UInt8) : Option String :=
  ((scan bytes).mapM id).map String.ofList

/-- The text of any bytes, with U+FFFD in place of each maximal ill-formed part. -/
def decodeLossy (bytes : List UInt8) : String :=
  String.ofList ((scan bytes).map (·.getD '\uFFFD'))

end GoMetrics.Utf8
