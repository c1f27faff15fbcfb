import LineRpc.Value.Basic

/-!
# Callable — what a request can call

A callable takes native values and returns one, throws one, or never ends. Whether it answers at
once or later makes no difference to the request: what counts is what comes in the end.
-/

namespace LineRpc

inductive Outcome
  | returned (v : Value)
  | threw (v : Value)
  | endless

abbrev Callable :=
  List Value → Outcome

end LineRpc
