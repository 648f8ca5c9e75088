import Mathlib.Tactic.Common

/-!
# What the operator sees of the apiserver

Every controller reads and writes through the same client, so the outcome of
a request is the same two-way split everywhere: an answer, or an error that
is either a status the apiserver returned (with its HTTP code) or a failure
below it.
-/

namespace McpgOperator.Kube

/-- `kube::Error`, as far as the operator looks inside it. -/
inductive KubeError
  | api (code : Nat) (message : String)
  | other (message : String)
  deriving DecidableEq, Repr

/-- `matches!(e, KubeError::Api(s) if s.code == 404)`, the test every module
spells under the same name. -/
def isNotFound : KubeError → Bool
  | .api code _ => code == 404
  | .other _ => false

/-- `Error::Api` with code 409, the answer to a create of an existing object
and to a write that carries a stale `resourceVersion`. -/
def isConflict : KubeError → Bool
  | .api code _ => code == 409
  | .other _ => false

/-- `Display` of `kube::Error`. -/
def displayKube : KubeError → String
  | .api _ message => message
  | .other message => message

end McpgOperator.Kube
