import McpgOperator.Templates.Deployment
import Mathlib.Algebra.Group.Int.Defs
import Mathlib.Algebra.Group.Nat.Defs

/-!
# The disruption budget

`templates/pdb.rs`: a budget the spec asks for, the default of a gateway
that may run several replicas, or none. Labels, selector and owner reference
are left out.
-/

namespace McpgOperator.Templates

open McpgOperator.Gateway

inductive IntOrString
  | int (n : Int)
  | string (s : String)
  deriving DecidableEq, Repr

structure PodDisruptionBudget where
  name : String
  namespace_ : Option String
  minAvailable : Option IntOrString
  maxUnavailable : Option IntOrString
  deriving DecidableEq, Repr

/-- `Value::as_i64`. -/
def asI64 : Json → Option Int
  | .num (.int n) =>
      if -(2 ^ 63) ≤ n ∧ n < 2 ^ 63 then some n else none
  | _ => none

/-- `value_to_intorstring`; the cast wraps at 32 bits. -/
def valueToIntorstring (v : Json) : Option IntOrString :=
  match asI64 v with
  | some i => some (.int (i.bmod (2 ^ 32)))
  | none => v.asStr.map .string

/-- The two thresholds of the budget, before its own default. -/
def pdbThresholds (api : GatewayApi) (parent : MCPGGateway) :
    Option (Option IntOrString × Option IntOrString) :=
  match parent.spec.podDisruptionBudget with
  | some pdb =>
      if pdb.enabled = false then none
      else
        some (pdb.minAvailable.bind valueToIntorstring,
          pdb.maxUnavailable.bind valueToIntorstring)
  | none =>
      if (api.effectiveReplicaCeiling parent.spec).1 > 1 then
        some (none, some (.int 1))
      else none

def buildPdb (api : GatewayApi) (parent : MCPGGateway) :
    Option PodDisruptionBudget :=
  (pdbThresholds api parent).map fun (minAvailable, maxUnavailable) =>
    { name := childName parent "gateway"
      namespace_ := parent.metadata.namespace_
      minAvailable :=
        if minAvailable.isNone && maxUnavailable.isNone then some (.int 1)
        else minAvailable
      maxUnavailable := maxUnavailable }

end McpgOperator.Templates
