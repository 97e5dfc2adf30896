/-! # Limits of a query

What a query may cost.  Limits belong to a query, so queries with different limits do not
interfere.
-/

namespace Backflow

structure Limits where
  /-- The largest number of addresses of a graph. -/
  maxGraphSize : Nat := 2097152
  /-- How many definitions deep a query goes. -/
  maxStage : Nat := 64
  /-- How many callers up a parameter is followed. -/
  maxHops : Nat := 5
deriving DecidableEq, Repr

end Backflow
