/-!
# Capabilities — which typed values a worker understands

A worker may do without arrays, or without tables. Tables are made of arrays, so a worker without
arrays has no tables either.
-/

namespace LineRpc

structure Capabilities where
  arrays : Bool
  tables : Bool
  deriving DecidableEq, Repr

namespace Capabilities

def full : Capabilities where
  arrays := true
  tables := true

/-- The capabilities that result from flags: a missing flag counts as set, and tables need
arrays. -/
def ofFlags (arrays tables : Option Bool) : Capabilities where
  arrays := arrays.getD true
  tables := arrays.getD true && tables.getD true

/-- Tables come only with arrays. -/
def Normal (c : Capabilities) : Prop :=
  c.tables = true → c.arrays = true

/-- Whatever the one understands, the other understands too. -/
def Included (c c' : Capabilities) : Prop :=
  (c.arrays = true → c'.arrays = true) ∧ (c.tables = true → c'.tables = true)

/-- However the two switches stand, tables are never on without arrays. -/
theorem normal_ofFlags (arrays tables : Option Bool) : (ofFlags arrays tables).Normal := by
  simp only [Normal, ofFlags, Bool.and_eq_true]
  exact And.left

end Capabilities
end LineRpc
