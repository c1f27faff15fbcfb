/-!
# Failure — how a computation comes to nothing

A computation that gives no result raises something, or it never ends. The two are kept apart: what
is raised can be caught and put in words, but who waits for a computation that never ends waits for
ever.

- `Failure`          : something raised, or no end
- `Failure.ofExcept` : a result that may be missing because something was raised
- `Failure.ofOption` : a result that may be missing because there is no end
-/

namespace LineRpc

inductive Failure (ε : Type)
  | raised (e : ε)
  | endless
  deriving DecidableEq

namespace Failure

variable {ε δ α : Type}

/-- The same failure, with something else raised in place of what was. -/
def map (f : ε → δ) : Failure ε → Failure δ
  | .raised e => .raised (f e)
  | .endless => .endless

def ofExcept : Except ε α → Except (Failure ε) α
  | .ok a => .ok a
  | .error e => .error (.raised e)

def ofOption : Option α → Except (Failure ε) α
  | some a => .ok a
  | none => .error .endless

end Failure
end LineRpc
