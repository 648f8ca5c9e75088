import McpgOperator.Gateway.Config

/-!
# The workload of a server

`templates/server.rs`: the Deployment and the Service of an `MCPGServer`.
The container's image is the spec's, as it stands. The probe and the names
of the port are constant and left out.
-/

namespace McpgOperator.Templates

open McpgOperator.Kube McpgOperator.Gateway

/-- The defaults the API crate fills in: `MCPGServerSpec::port` and
`MCPGServerSpec::replicas`. -/
structure WorkloadApi where
  port : MCPGServerSpec → Int
  replicas : MCPGServerSpec → Int

/-- `server_owner_ref`. -/
def serverOwnerRef (parent : MCPGServer) : OwnerReference :=
  { apiVersion := "mcpg.dev/v1alpha1", kind := "MCPGServer"
    name := parent.metadata.name.getD ""
    uid := parent.metadata.uid.getD "" }

def serverSelectorLabels (parent : MCPGServer) : List (String × String) :=
  [("app.kubernetes.io/instance", parent.metadata.name.getD ""),
    ("app.kubernetes.io/name", "mcpg-server")]

/-- In key order. -/
def serverLabels (parent : MCPGServer) : List (String × String) :=
  [("app.kubernetes.io/component", "mcp-server"),
    ("app.kubernetes.io/instance", parent.metadata.name.getD ""),
    ("app.kubernetes.io/managed-by", "mcpg-operator"),
    ("app.kubernetes.io/name", "mcpg-server"),
    ("app.kubernetes.io/part-of", "mcpg")]

/-- A list that is rendered only when it has something in it. -/
def nonEmpty {α : Type} (xs : List α) : Option (List α) :=
  if xs.isEmpty then none else some xs

structure ServerDeployment where
  name : String
  namespace_ : Option String
  labels : List (String × String)
  owner : OwnerReference
  selector : List (String × String)
  replicas : Int
  serviceAccountName : Option String
  imagePullSecrets : Option (List String)
  image : String
  port : Int
  env : Option (List (String × String))
  envFrom : Option (List String)
  /-- Requests and limits. -/
  resources : Option
    (Option (List (String × String)) × Option (List (String × String)))
  deriving DecidableEq, Repr

structure ServerService where
  name : String
  namespace_ : Option String
  labels : List (String × String)
  owner : OwnerReference
  selector : List (String × String)
  port : Int
  deriving DecidableEq, Repr

def buildServerDeployment (api : WorkloadApi) (parent : MCPGServer) :
    ServerDeployment :=
  { name := serverChildName parent
    namespace_ := parent.metadata.namespace_
    labels := serverLabels parent
    owner := serverOwnerRef parent
    selector := serverSelectorLabels parent
    replicas := api.replicas parent.spec
    serviceAccountName := parent.spec.serviceAccountName
    imagePullSecrets := nonEmpty parent.spec.imagePullSecrets
    image := parent.spec.image
    port := api.port parent.spec
    env := nonEmpty parent.spec.env
    envFrom := nonEmpty parent.spec.envFromSecrets
    resources := parent.spec.resources.map fun r =>
      (nonEmpty r.requests, nonEmpty r.limits) }

def buildServerService (api : WorkloadApi) (parent : MCPGServer) :
    ServerService :=
  { name := serverChildName parent
    namespace_ := parent.metadata.namespace_
    labels := serverLabels parent
    owner := serverOwnerRef parent
    selector := serverSelectorLabels parent
    port := api.port parent.spec }

end McpgOperator.Templates
