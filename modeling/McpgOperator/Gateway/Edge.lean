import McpgOperator.Templates.Edge

/-!
# Wiring custom domains, request by request

`reconcile_edge_domains` and `cleanup_edge_domains` of
`controllers/gateway.rs`. A pass is where it stands: the request it comes to
next, and what it does with the answer. Between two of them other passes run,
over the same Certificates.
-/

namespace McpgOperator.Gateway

open McpgOperator.Kube McpgOperator.Templates

inductive EdgeRequest
  | applyListeners (manager : String) (listeners : List EdgeListener)
  | applyCertificate (cert : Certificate)
  /-- By the owner label. -/
  | listCertificates (ownerUid : String)
  | deleteCertificate (name : String)
  deriving DecidableEq

inductive EdgeAnswer
  | done
  | listed (certs : List Certificate)
  | failed (e : KubeError)
  deriving DecidableEq

/-- Where a pass stands; the hostnames and the names it has yet to come to
are with it. -/
inductive EdgeStage
  | listeners
  | certificate (hostname : String) (rest : List String)
  | list
  | delete (name : String) (rest : List String)
  deriving DecidableEq

structure EdgePass where
  obj : MCPGGateway
  /-- `--edge-cluster-issuer`. -/
  issuer : Option String
  /-- The pass is `cleanup_edge_domains`. -/
  cleanup : Bool
  stage : EdgeStage
  deriving DecidableEq

/-- What an answer leads to: the pass goes on, or returns. -/
inductive EdgeNext
  | go (p : EdgePass)
  | ended (result : Except KubeError Unit)
  deriving DecidableEq

def customDomains (obj : MCPGGateway) : List String :=
  (obj.spec.cloud.map (·.customDomains)).getD []

/-- The uid that labels the Certificates of the gateway. -/
def edgeUid (obj : MCPGGateway) : String := obj.metadata.uid.getD ""

namespace EdgePass

/-- The pass over a gateway in the cloud; over any other there is none. -/
def start (issuer : Option String) (cleanup : Bool) (obj : MCPGGateway) :
    Option EdgePass :=
  obj.spec.cloud.map fun _ =>
    { obj := obj, issuer := issuer, cleanup := cleanup
      stage := .listeners }

def domains (p : EdgePass) : List String :=
  if p.cleanup then [] else customDomains p.obj

/-- The names of the Certificates the pass applies, which are those it does
not collect. -/
def wanted (sha256Hex : String → String) (p : EdgePass) : List String :=
  if p.issuer.isNone then []
  else p.domains.map (edgeObjectName sha256Hex)

def request (sha256Hex : String → String) (p : EdgePass) : EdgeRequest :=
  match p.stage with
  | .listeners =>
      .applyListeners (edgeFieldManager (edgeUid p.obj))
        (buildEdgeListenerApply sha256Hex p.domains)
  | .certificate hostname _ =>
      .applyCertificate
        (buildCertificate sha256Hex p.obj hostname (p.issuer.getD ""))
  | .list => .listCertificates (edgeUid p.obj)
  | .delete name _ => .deleteCertificate name

def applyRest (p : EdgePass) : List String → EdgeNext
  | [] => .go { p with stage := .list }
  | hostname :: rest => .go { p with stage := .certificate hostname rest }

def deleteRest (p : EdgePass) : List String → EdgeNext
  | [] => .ended (.ok ())
  | name :: rest => .go { p with stage := .delete name rest }

/-- The listed Certificates the pass does not want, in order. -/
def unwanted (sha256Hex : String → String) (p : EdgePass)
    (certs : List Certificate) : List String :=
  (certs.map (·.name)).filter fun name =>
    name ∉ p.wanted sha256Hex

def afterListeners (p : EdgePass) : EdgeNext :=
  p.applyRest (if p.issuer.isNone then [] else p.domains)

def resume (sha256Hex : String → String) (p : EdgePass)
    (ans : EdgeAnswer) : EdgeNext :=
  match p.stage with
  | .listeners =>
      match ans with
      | .failed e =>
          -- without domains, or in a cleanup, there may be no edge Gateway
          if p.domains.isEmpty then p.afterListeners else .ended (.error e)
      | _ => p.afterListeners
  | .certificate _ rest =>
      match ans with
      | .failed e => .ended (.error e)
      | _ => p.applyRest rest
  | .list =>
      match ans with
      | .listed certs => p.deleteRest (p.unwanted sha256Hex certs)
      | _ => .ended (.ok ())
  | .delete _ rest => p.deleteRest rest

end EdgePass

end McpgOperator.Gateway
