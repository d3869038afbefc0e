import Mathlib.Data.String.Basic

/-! The owner of an execution and the environment it runs in. -/

namespace QuantX

structure ExecutionOwnerRef where
  (ownerType ownerId : String)
  deriving DecidableEq

inductive ExecutionEnvironment where
  | paper
  | live
  | backtest
  deriving DecidableEq, Repr

end QuantX
