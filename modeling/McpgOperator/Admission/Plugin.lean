import McpgOperator.Admission.Gateway
import McpgOperator.Plugin.Types

/-!
# Admission of plugins

`admission/validators/plugin.rs`: the checks on the spec alone. The validator
looks nothing up.
-/

namespace McpgOperator.Admission

open McpgOperator.Plugin McpgOperator.Text

/-- `mcpg_plugin_protocol::abi::ALL_KINDS`, and the error of `Regex::new`. -/
structure PluginProtocol where
  allKinds : List String
  regexError : String → Option String

/-- The text occurs in the other. -/
def containsText (pat s : String) : Bool :=
  (afterFirst pat.toList s.toList).isSome

def validateImage (trust : PluginTrust) (image : String) :
    Except String Unit := do
  let img := trim image
  denyIf (img = "") "spec.oci.image must not be empty"
  denyIf (img.toList.contains '/' = false)
    ("spec.oci.image `" ++ img ++ "` lacks a registry component " ++
      "(expected `<registry>/<path>:<tag>`)")
  denyIf (img.toList.contains ':' = false ∧ img.toList.contains '@' = false)
    ("spec.oci.image `" ++ img ++ "` lacks a tag or digest pin " ++
      "(expected `:tag` or `@sha256:...`)")
  denyIf (containsText "@sha256:" img = false ∧
      trust.cosignIdentity.isNone)
    ("spec.oci.image `" ++ img ++ "` is tag-only AND no cosignIdentity is " ++
      "configured. Either pin the image by digest (`@sha256:...`) or set " ++
      "spec.trust.cosignIdentity for keyless verification.")

def validateCosign (protocol : PluginProtocol) (cosign : CosignIdentity) :
    Except String Unit := do
  let field := "spec.trust.cosignIdentity.certificateIdentityRegexp "
  let regex := trim cosign.certificateIdentityRegexp
  denyIf (regex = "") (field ++ "must not be empty")
  match protocol.regexError regex with
  | some e => .error (field ++ "is not a valid regex: " ++ e)
  | none =>
      denyIf (regex.toList.head? ≠ some '^')
        (field ++ "must start with `^` (anchored). Unanchored patterns " ++
          "accept substring matches and let attacker-controlled subjects " ++
          "pass.")
      denyIf (regex.toList.getLast? ≠ some '$')
        (field ++ "must end with `$` (anchored). Unanchored tails accept " ++
          "substring matches.")
      denyIf (trim cosign.oidcIssuer = "")
        "spec.trust.cosignIdentity.oidcIssuer must not be empty"

def validateSlsa (slsa : SlsaProvenance) : Except String Unit := do
  let field := "spec.trust.slsaProvenance."
  denyIf (trim slsa.configMapName = "")
    (field ++ "configMapName must not be empty")
  denyIf (trim slsa.sourceUri = "") (field ++ "sourceUri must not be empty")
  denyIf (trim slsa.sourceTag = "") (field ++ "sourceTag must not be empty")

/-- `validate_spec`. -/
def validatePlugin (protocol : PluginProtocol) (obj : MCPGPlugin) :
    Except String Unit := do
  let spec := obj.spec
  denyIf (trim spec.pluginId = "") "spec.pluginId must not be empty"
  denyIf (spec.pluginId.toList.contains '.' = false)
    ("spec.pluginId `" ++ spec.pluginId ++ "` is not a valid plugin id " ++
      "(expected reverse-DNS form, e.g. `dev.mcpg.identity.workload`)")
  denyIf (trim spec.version = "") "spec.version must not be empty"
  denyIf (protocol.allKinds.contains spec.pluginClass = false)
    ("spec.pluginClass `" ++ spec.pluginClass ++ "` is not a known " ++
      "PluginClass (known: " ++ ", ".intercalate protocol.allKinds ++ ")")
  validateImage spec.trust spec.oci.image
  denyIf (trim spec.trust.signingKeyRef.secretName = "")
    "spec.trust.signingKeyRef.secretName must not be empty"
  denyIf (trim spec.trust.signingKeyRef.key = "")
    "spec.trust.signingKeyRef.key must not be empty"
  validateOptional (validateCosign protocol) spec.trust.cosignIdentity
  validateOptional validateSlsa spec.trust.slsaProvenance

end McpgOperator.Admission
