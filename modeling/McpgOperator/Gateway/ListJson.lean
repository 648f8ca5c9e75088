import McpgOperator.RevocationList.Reconcile

/-!
# The revocation list a gateway mounts

`render_revocation_list_json` of `controllers/gateway.rs`, the second of the
two documents a revocation list is rendered to: the digests as they are
stored, and times that are there as null when there is none.
-/

namespace McpgOperator.Gateway

open McpgOperator.Kube McpgOperator.Plugin
open McpgOperator.RevocationList (RevocationLibs)

/-- An `Option` as `json!` writes it. -/
def nullable (libs : RevocationLibs) (t : Option DateTime) : Json :=
  (t.map fun t => Json.str (libs.toRfc3339 t)).getD .null

def listJsonEntry (libs : RevocationLibs) (e : RevocationEntry) : Json :=
  .obj
    [("artifact_sha256", .str e.artifactSha256), ("reason", .str e.reason),
      ("revoked_at", nullable libs e.revokedAt)]

def listJsonDoc (libs : RevocationLibs) (spec : MCPGRevocationListSpec) :
    Json :=
  .obj
    [("issued_at", nullable libs spec.issuedAt),
      ("revocations", .arr (spec.revocations.map (listJsonEntry libs))),
      ("version", .num (.int spec.version))]

/-- `render_revocation_list_json`: the text and its hash. -/
def renderRevocationListJson (libs : RevocationLibs)
    (spec : MCPGRevocationListSpec) : String × String :=
  let json := libs.toStringPretty (listJsonDoc libs spec)
  (json, libs.sha256Hex json)

end McpgOperator.Gateway
