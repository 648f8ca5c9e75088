import McpgOperator.Templates.Deployment

/-!
# The HTTPRoute of a managed-cloud gateway

`templates/httproute.rs`: the hostnames the shared edge routes to an
instance, and the path prefixes it forwards. The event prefixes depend on
the config the renderer is given. Labels and the owner reference are left
out.
-/

namespace McpgOperator.Gateway

open McpgOperator.Kube McpgOperator.Templates

def hostOf (url : String) : Option String :=
  let noScheme :=
    ((Text.stripPrefix "https://".toList url.toList).or
      (Text.stripPrefix "http://".toList url.toList)).getD url.toList
  let host := noScheme.takeWhile (· ≠ '/')
  if host.isEmpty then none else some (String.ofList host)

/-- The hostnames of `build_httproute`, which renders nothing without
one. -/
def routeHostnames (parent : MCPGGateway) : List String :=
  match parent.spec.cloud with
  | none => []
  | some cloud => (hostOf cloud.externalUrl).toList ++ cloud.customDomains

end McpgOperator.Gateway

namespace McpgOperator.Templates

open McpgOperator.Gateway

def gatewayPort : Nat := 8787

def forwardedPathPrefixes : List String :=
  ["/mcp", "/.well-known", "/oauth", "/aauth"]

def inboundEventsPrefix : String := "/webhooks/events"

def federatedEventsPrefix : String := "/webhooks/mcp-events"

def cloudGatewayName : String := "mcpg-cloud-gateway"

def cloudGatewayNamespace : String := "mcpg-edge"

/-- Events are served at all. -/
def eventsEnabled (config : Json) : Bool :=
  config.getPath ["mcp", "configurations", "events", "enabled"] ==
    some (.bool true)

def servesInboundEvents (config : Json) : Bool :=
  eventsEnabled config &&
    (((config.getPath ["mcp", "capabilities", "events"]).bind
      Json.asArray).getD []).any fun ty =>
        ((ty.getPath ["source", "inbound"]).bind Json.asObject).isSome

/-- The federation imports event types. -/
def importsEvents (federation : Json) : Bool :=
  federation.getPath ["import", "events"] == some (.bool true)

def importsFederatedEvents (config : Json) : Bool :=
  eventsEnabled config &&
    (((config.getPath ["mcp", "federations"]).bind
      Json.asArray).getD []).any importsEvents

/-- One rule: the prefixes forwarded to the instance's Service. The parent
is the shared edge Gateway. -/
structure HTTPRoute where
  name : String
  namespace_ : Option String
  parentName : String
  parentNamespace : String
  hostnames : List String
  pathPrefixes : List String
  backendName : String
  backendPort : Nat
  deriving DecidableEq, Repr

/-- The port of the Service, cut to 16 bits as the source's cast does. -/
def routePort (parent : MCPGGateway) : Nat :=
  ((parent.spec.service.bind (·.port)).map fun p =>
    (p % 65536).toNat).getD gatewayPort

/-- `build_httproute`. The event prefixes are read off `spec.config`. -/
def buildHttproute (parent : MCPGGateway) : Option HTTPRoute :=
  if (routeHostnames parent).isEmpty then none
  else
    some
      { name := childName parent "mcp"
        namespace_ := parent.metadata.namespace_
        parentName := cloudGatewayName
        parentNamespace := cloudGatewayNamespace
        hostnames := routeHostnames parent
        pathPrefixes := forwardedPathPrefixes ++
          (if servesInboundEvents parent.spec.config then
            [inboundEventsPrefix] else []) ++
          (if importsFederatedEvents parent.spec.config then
            [federatedEventsPrefix] else [])
        backendName := childName parent ""
        backendPort := routePort parent }

end McpgOperator.Templates
