import LineRpc.Codec.Capabilities
import LineRpc.Library.Arrays
import LineRpc.Library.General
import LineRpc.Library.Math
import LineRpc.Library.Tables
import LineRpc.Registry

/-!
# Standard — the modules that every worker has

Functions of arrays and of tables are there only if the worker has arrays, or tables.
-/

namespace LineRpc
namespace Registry

def registerBuiltins (r : Registry) (name : String) (functions : List (String × Builtin)) :
    Registry :=
  r.register name (functions.map fun (n, f) => (n, Callable.ofBuiltin f))

def addStandard (r : Registry) (caps : Capabilities) : Registry :=
  let r := (r.registerBuiltins "math" Math.functions).registerBuiltins "builtins" General.functions
  let r := if caps.arrays then r.registerBuiltins "ndarray" Arrays.functions else r
  if caps.tables then r.registerBuiltins "frame" Tables.functions else r

end Registry
end LineRpc
