import GoMetrics.Failure
import GoMetrics.Log

/-!
Steps that write and log and may fail. What was written and logged before a failure stays.
-/

namespace GoMetrics

structure Outcome (α : Type) where
  out : String
  log : List LogRecord
  result : Except Failure α
  deriving Repr

namespace Outcome

def fail {α : Type} (f : Failure) : Outcome α := ⟨"", [], .error f⟩

def complain {α : Type} (c : Complaint) : Outcome α := fail (.complaint c)

/-- One step after another; the second is not taken if the first fails. -/
def bind {α β : Type} (x : Outcome α) (f : α → Outcome β) : Outcome β :=
  match x.result with
  | .error e => ⟨x.out, x.log, .error e⟩
  | .ok a =>
    let y := f a
    ⟨x.out ++ y.out, x.log ++ y.log, y.result⟩

instance : Monad Outcome where
  pure a := ⟨"", [], .ok a⟩
  bind := bind

def ofExcept {ε α : Type} (embed : ε → Failure) (x : Except ε α) : Outcome α :=
  ⟨"", [], x.mapError embed⟩

def write (text : String) : Outcome Unit := ⟨text, [], .ok ()⟩

def record (level : Level) (message : String) : Outcome Unit := ⟨"", [⟨level, message⟩], .ok ()⟩

end Outcome
end GoMetrics
