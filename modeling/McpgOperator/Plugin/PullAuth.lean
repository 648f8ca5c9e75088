import McpgOperator.Lib.SortedMap
import McpgOperator.Plugin.OciPull
import Mathlib.Data.String.Basic

/-!
# Pull credentials

`resolve_pull_auth` of `oci_pull.rs`: the credentials for a registry out of a
`dockerconfigjson` Secret. The map of its entries is a `BTreeMap`, so the
search by prefix goes through the keys in their order.
-/

namespace McpgOperator.Plugin

open McpgOperator.Kube McpgOperator.Text

structure DockerConfigAuth where
  username : Option String
  password : Option String
  auth : Option String
  deriving DecidableEq, Repr

structure DockerConfigJson where
  auths : List (String × DockerConfigAuth)
  ordered : SortedMap.Ordered auths

/-- `serde_json`, `base64` and UTF-8, with the errors the code quotes. -/
structure DockerConfigLib where
  fromSlice : Bytes → Except String DockerConfigJson
  base64Decode : String → Except String Bytes
  fromUtf8 : Bytes → Except String String

/-- `resolve_pull_auth` up to the parsed configuration; `getSecret` answers
`api.get` in the operator namespace. -/
def readDockerConfig (lib : DockerConfigLib)
    (getSecret : String → Except KubeError Secret) (secretName : String) :
    Except PullError DockerConfigJson :=
  match getSecret secretName with
  | .error e => .error (.kube e)
  | .ok secret =>
      let data := secret.data.getD []
      match (data.lookup ".dockerconfigjson").or
          (data.lookup "dockerconfigjson") with
      | none => .error (.missingSecretKey secretName ".dockerconfigjson")
      | some dockerconfig =>
          (lib.fromSlice dockerconfig).mapError
            (.malformedDockerConfig secretName)

/-- The entry of the registry, with its key: the one it names, else the first
whose key it begins. -/
def selectEntry (config : DockerConfigJson) (registry : String) :
    Option (String × DockerConfigAuth) :=
  match config.auths.lookup registry with
  | some entry => some (registry, entry)
  | none =>
      config.auths.find? fun (host, _) =>
        registry.toList.isPrefixOf host.toList

/-- The token of an entry, unless it is blank. -/
def DockerConfigAuth.token (entry : DockerConfigAuth) : Option String :=
  entry.auth.filter fun t => trim t ≠ ""

/-- The credentials an entry holds. -/
def entryCredentials (lib : DockerConfigLib) (secretName registry : String)
    (entry : DockerConfigAuth) : Except PullError OciAuth :=
  match entry.token with
  | some token =>
      match lib.base64Decode (trim token) with
      | .error e =>
          .error (.malformedDockerConfig secretName
            ("base64 decode `auths." ++ registry ++ ".auth`: " ++ e))
      | .ok raw =>
          match lib.fromUtf8 raw with
          | .error e =>
              .error (.malformedDockerConfig secretName
                ("`auths." ++ registry ++ ".auth` not utf-8: " ++ e))
          | .ok decoded =>
              match splitOnce ':' decoded.toList with
              | none =>
                  .error (.malformedDockerConfig secretName
                    ("`auths." ++ registry ++ ".auth` is not `user:pass`"))
              | some (user, pass) =>
                  .ok (.basic (String.ofList user) (String.ofList pass))
  | none =>
      match entry.username, entry.password with
      | some user, some pass => .ok (.basic user pass)
      | _, _ => .ok .anonymous

def resolvePullAuth (lib : DockerConfigLib)
    (getSecret : String → Except KubeError Secret)
    (secretName registry : String) : Except PullError OciAuth :=
  match readDockerConfig lib getSecret secretName with
  | .error e => .error e
  | .ok config =>
      match selectEntry config registry with
      | none => .ok .anonymous
      | some (_, entry) => entryCredentials lib secretName registry entry

/-- A pull whose credentials are read from the cluster's Secrets. -/
def PullAnswers.overSecrets (ans : PullAnswers) (lib : DockerConfigLib)
    (getSecret : String → Except KubeError Secret) : PullAnswers :=
  { ans with resolvePullAuth := Plugin.resolvePullAuth lib getSecret }

end McpgOperator.Plugin
