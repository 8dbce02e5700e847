/-!
# Failures and aborts

A computation that cannot go on either fails, with a cause that its caller can
handle, or aborts, which ends everything. Only a failure can be wrapped into the
failure of a larger computation.
-/
namespace Templating

inductive Fault (E : Type) where
  | failure (cause : E)
  | abort
  deriving DecidableEq, Repr

/-- The same fault seen from a larger computation. -/
def Fault.map {E F : Type} (f : E → F) : Fault E → Fault F
  | .failure e => .failure (f e)
  | .abort => .abort

end Templating
