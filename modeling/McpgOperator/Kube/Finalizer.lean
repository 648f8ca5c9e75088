import McpgOperator.Kube.Object

/-!
# Adding the finalizer

`ensure_finalizer` of `reconcile/finalizers.rs`: nothing to do when it is
present; otherwise a JSON patch that tests the `resourceVersion` of the
object in hand.
-/

namespace McpgOperator.Kube

inductive FinalizerError
  | patch (source : KubeError)
  | conflict
  deriving DecidableEq, Repr

def operatorFinalizer : String := "mcpg.dev/operator"

/-- `has_finalizer`. -/
def ObjectMeta.hasFinalizer (m : ObjectMeta) (finalizer : String) : Bool :=
  (m.finalizers.getD []).contains finalizer

/-- `patched` is what the patch answers; the result says whether there was
one. -/
def ensureFinalizer (patched : Except KubeError Unit) (m : ObjectMeta) :
    Except FinalizerError Bool :=
  if (m.finalizers.getD []).contains operatorFinalizer then .ok false
  else if m.resourceVersion.isNone then
    .error (.patch (.other ("missing metadata.resourceVersion (cannot " ++
      "atomically add finalizer)")))
  else
    match patched with
    | .ok _ => .ok true
    | .error e =>
        .error (if isConflict e then .conflict else .patch e)

end McpgOperator.Kube
