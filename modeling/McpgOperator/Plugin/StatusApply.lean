import McpgOperator.Lib.Apply
import McpgOperator.Plugin.Reconcile

/-!
# Status patches as server-side apply

`patch_status` sends the serialised status as a forced apply under the
plugin controller's field manager. An absent optional field is omitted from
the document, so what an earlier document of the same manager set and this
one leaves out is removed from the live status.
-/

namespace McpgOperator.Plugin

open McpgOperator.Kube

/-- `FIELD_MANAGER_PREFIX/FIELD_MANAGER_SUFFIX` of the plugin controller. -/
def pluginFieldManager : String := "mcpg-operator/plugin-controller"

/-- The fields of `MCPGPluginStatus`. -/
inductive StatusField
  | conditions
  | observedGeneration
  | resolvedDigest
  | signatureValid
  | cosignVerified
  | slsaVerified
  | revokedBySha
  | artefactSecretName
  | pulledAt
  | lastReconcileTime
  deriving DecidableEq, Repr

/-- The type of each field's value. -/
def StatusField.Value : StatusField → Type
  | .conditions => List Condition
  | .observedGeneration => Int
  | .resolvedDigest | .artefactSecretName => String
  | .signatureValid | .cosignVerified | .slsaVerified | .revokedBySha =>
      Bool
  | .pulledAt | .lastReconcileTime => DateTime

instance : ∀ f : StatusField, DecidableEq f.Value
  | .conditions => inferInstanceAs (DecidableEq (List Condition))
  | .observedGeneration => inferInstanceAs (DecidableEq Int)
  | .resolvedDigest | .artefactSecretName =>
      inferInstanceAs (DecidableEq String)
  | .signatureValid | .cosignVerified | .slsaVerified | .revokedBySha =>
      inferInstanceAs (DecidableEq Bool)
  | .pulledAt | .lastReconcileTime => inferInstanceAs (DecidableEq Nat)

/-- The serialised status. -/
def MCPGPluginStatus.doc (s : MCPGPluginStatus) : Apply.Doc StatusField.Value
  | .conditions => some s.conditions
  | .observedGeneration => s.observedGeneration
  | .resolvedDigest => s.resolvedDigest
  | .signatureValid => s.signatureValid
  | .cosignVerified => s.cosignVerified
  | .slsaVerified => s.slsaVerified
  | .revokedBySha => s.revokedBySha
  | .artefactSecretName => s.artefactSecretName
  | .pulledAt => s.pulledAt
  | .lastReconcileTime => s.lastReconcileTime

/-- The status a reader deserialises. -/
def readStatus (d : Apply.Doc StatusField.Value) : MCPGPluginStatus :=
  { conditions := Option.getD (d .conditions) ([] : List Condition)
    observedGeneration := d .observedGeneration
    resolvedDigest := d .resolvedDigest
    signatureValid := d .signatureValid
    cosignVerified := d .cosignVerified
    slsaVerified := d .slsaVerified
    revokedBySha := d .revokedBySha
    artefactSecretName := d .artefactSecretName
    pulledAt := d .pulledAt
    lastReconcileTime := d .lastReconcileTime }

/-- A status survives the wire. -/
@[simp] theorem readStatus_doc (s : MCPGPluginStatus) :
    readStatus s.doc = s := rfl

/-- The live status of a stored plugin, with its field owners. -/
abbrev LiveStatus := Apply.Live String StatusField.Value

/-- What a write of a pass does to it: a patch that takes effect is a forced
apply, nothing else touches the status. -/
def applyEffect (live : LiveStatus) : Effect → LiveStatus
  | .patchStatus status true =>
      Apply.force pluginFieldManager status.doc live
  | _ => live

/-- The live status after the writes of `trace`. -/
def statusAfter (live : LiveStatus) (trace : List Effect) : LiveStatus :=
  trace.foldl applyEffect live

/-- The stored plugin as a reader sees it. -/
def MCPGPlugin.withLive (obj : MCPGPlugin) (live : LiveStatus) :
    MCPGPlugin :=
  { obj with status := some (readStatus live.value) }

end McpgOperator.Plugin
