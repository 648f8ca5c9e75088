import McpgOperator.Cluster.Managed
import McpgOperator.Gateway.Reconcile
import McpgOperator.Templates.Server

/-!
# What a pod is labelled with

`gateway_pod_annotations_map` of `config.rs`, the labels of
`build_pod_metadata`, and the selectors of the three workloads the operator
renders: `selector_labels` of `templates/common.rs` and of
`templates/managed_nats.rs` and `server_selector_labels`. A workload, its
Services and, of a gateway, its disruption budget and its spread over the
nodes all select by the same labels.
-/

namespace McpgOperator.Templates

open McpgOperator.Cluster McpgOperator.Gateway McpgOperator.Kube
  McpgOperator.Text

/-! ## The operator's annotations -/

/-- One `key=value`; `none` is a pair that is skipped. -/
def readPair (pair : String) : Option (String × String) :=
  match splitOnce '=' pair.toList with
  | none => none
  | some (k, v) =>
      let key := trim (String.ofList k)
      if key = "" then none else some (key, trim (String.ofList v))

def insertPair (out : List (String × String)) (pair : String) :
    List (String × String) :=
  match readPair pair with
  | none => out
  | some (k, v) => btreeInsert k v out

def gatewayPodAnnotationsMap (raw : Option String) :
    List (String × String) :=
  match raw with
  | none => []
  | some raw =>
      (((splitComma raw).map trim).filter (· ≠ "")).foldl insertPair []

/-! ## Labels -/

def selectorLabels (parent : MCPGGateway) : List (String × String) :=
  [("app.kubernetes.io/instance", parent.metadata.name.getD ""),
    ("app.kubernetes.io/name", "mcpg-gateway")]

/-- A key under one of the two prefixes that are the operator's. -/
def isOperatorManaged (key : String) : Bool :=
  "app.kubernetes.io/".toList.isPrefixOf key.toList ||
    "mcpg.dev/".toList.isPrefixOf key.toList

/-- The labels of `build_pod_metadata`; `userLabels` is `spec.podLabels`. -/
def podLabels (parent : MCPGGateway) (userLabels : List (String × String)) :
    List (String × String) :=
  userLabels.foldl
    (fun labels (k, v) =>
      if isOperatorManaged k then labels else btreeInsert k v labels)
    (standardLabels parent)

/-- `selector_labels` of a managed coordinator. -/
def natsSelectorLabels (clusterName : String) : List (String × String) :=
  [("app.kubernetes.io/instance", clusterName),
    ("app.kubernetes.io/name", "mcpg-nats")]

/-- What has a pod template. -/
inductive Workload
  | gateway (parent : MCPGGateway) (userLabels : List (String × String))
  | server (parent : MCPGServer)
  | coordinator (clusterName : String)

namespace Workload

def selector : Workload → List (String × String)
  | .gateway parent _ => selectorLabels parent
  | .server parent => serverSelectorLabels parent
  | .coordinator clusterName => natsSelectorLabels clusterName

/-- The labels of the pod template. -/
def labels : Workload → List (String × String)
  | .gateway parent userLabels => podLabels parent userLabels
  | .server parent => serverLabels parent
  | .coordinator clusterName => managedLabels clusterName

end Workload

/-- `matchLabels`. -/
def selects (selector labels : List (String × String)) : Bool :=
  selector.all fun (k, v) => labels.lookup k == some v

end McpgOperator.Templates
