set_option autoImplicit false

namespace Conduit

inductive Outcome (ε α : Type)
  | done (value : α)
  | failed (error : ε)
  | stalled
  | crashed (message : String)
  deriving DecidableEq, Repr

end Conduit
