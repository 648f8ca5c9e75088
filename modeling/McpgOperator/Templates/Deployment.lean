import McpgOperator.Gateway.Types
import McpgOperator.Text

/-!
# The gateway's Deployment and its autoscaler

`templates/deployment.rs` and `templates/hpa.rs`: the replica counts, the pod
annotations, and the volumes, mounts and environment sources of the pod. The
rest of the pod spec is constant or copied from the gateway's spec and is
left out.
-/

namespace McpgOperator.Templates

open McpgOperator.Kube McpgOperator.Gateway McpgOperator.Text

/-! ## Names -/

def childName (parent : MCPGGateway) (suffix : String) : String :=
  let raw := parent.metadata.name.getD ""
  let base :=
    if raw.toList.head?.any Char.isAlpha then raw else "mcpg-" ++ raw
  if suffix = "" then base else base ++ "-" ++ suffix

/-- What `build_service` is named. -/
def serviceName (parent : MCPGGateway) : String := childName parent ""

/-- What `build_service_account` is named. -/
def serviceAccountName (parent : MCPGGateway) : String :=
  childName parent "gateway"

/-- `volume_name`. The sanitised name is ASCII, so its bytes are its
characters. -/
def volumeName (prefix_ raw : String) : String :=
  let s := raw.toList.map fun c =>
    if c.isAlphanum then asciiLower c else '-'
  let cleaned := trimMatches (· = '-') (s.take 56)
  String.ofList ((prefix_.toList ++ ['-'] ++ cleaned).take 63)

def pluginVolumeName (pluginId : String) : String :=
  volumeName "plugin" pluginId

def secretVolumeName (secretName : String) : String :=
  volumeName "secret" secretName

/-! ## Replicas -/

/-- The inline `cluster.kind` is a string other than `single_node`. -/
def coordinated (config : Json) : Bool :=
  ((config.getPath ["cluster", "kind"]).bind Json.asStr).any
    (· ≠ "single_node")

def singleReplicaCloud (parent : MCPGGateway) : Bool :=
  parent.spec.cloud.isSome && !coordinated parent.spec.config

def effectiveReplicas (parent : MCPGGateway) : Int :=
  if singleReplicaCloud parent then 1 else parent.spec.replicas

def autoscaled (parent : MCPGGateway) : Bool :=
  (parent.spec.autoscaling.any (·.enabled)) && !singleReplicaCloud parent

/-! ## Volumes -/

structure PluginSecretMount where
  pluginId : String
  secretName : String
  deriving DecidableEq, Repr

structure RevocationListMount where
  configMapName : String
  contentHash : String
  deriving DecidableEq, Repr

inductive VolumeSource
  /-- A ConfigMap, whole or only the items named (key and path). -/
  | configMap (name : String) (items : Option (List (String × String)))
  | emptyDir
  | secret (secretName : String) (defaultMode : Nat)
  deriving DecidableEq, Repr

structure Volume where
  name : String
  source : VolumeSource
  deriving DecidableEq, Repr

structure VolumeMount where
  name : String
  mountPath : String
  subPath : Option String := none
  readOnly : Option Bool := some true
  deriving DecidableEq, Repr

def runtimeVolumeName : String := "runtime"

def runtimeDir : String := "/var/lib/mcpg"

def revocationListMountDir : String := "/etc/mcpg/revocations"

/-- A Secret's volume, mode 0440. -/
def secretVolume (name secretName : String) : Volume :=
  { name := name, source := .secret secretName 288 }

def buildVolumes (parent : MCPGGateway)
    (pluginMounts : List PluginSecretMount)
    (revocationList : Option RevocationListMount) : List Volume :=
  [{ name := "config", source := .configMap (childName parent "config") none },
    { name := runtimeVolumeName, source := .emptyDir }] ++
  (pluginMounts.map fun m =>
    secretVolume (pluginVolumeName m.pluginId) m.secretName) ++
  (revocationList.map fun r =>
    { name := "revocation-list"
      source := .configMap r.configMapName
        (some [("list.json", "list.json")]) }).toList ++
  (parent.spec.secretMounts.map fun m =>
    secretVolume (secretVolumeName m.name) m.name)

def buildVolumeMounts (pluginMounts : List PluginSecretMount)
    (revocationList : Option RevocationListMount)
    (secretMounts : List SecretMount) : List VolumeMount :=
  [{ name := "config", mountPath := "/etc/mcpg/config.yaml"
     subPath := some "config.yaml" },
    { name := runtimeVolumeName, mountPath := runtimeDir
      readOnly := none }] ++
  (pluginMounts.map fun m =>
    { name := pluginVolumeName m.pluginId
      mountPath := "/etc/mcpg/plugins/" ++ m.pluginId }) ++
  (revocationList.map fun _ =>
    { name := "revocation-list"
      mountPath := revocationListMountDir }).toList ++
  (secretMounts.map fun m =>
    { name := secretVolumeName m.name, mountPath := m.mountPath })

/-- `build_env_from`: the names of the Secrets, none of them optional. -/
def buildEnvFrom (parent : MCPGGateway) (extraSecrets : List String) :
    Option (List String) :=
  if parent.spec.envFromSecrets.isEmpty && extraSecrets.isEmpty then none
  else some (parent.spec.envFromSecrets ++ extraSecrets)

/-! ## The Deployment -/

structure Deployment where
  name : String
  namespace_ : Option String
  replicas : Option Int
  podAnnotations : List (String × String)
  envFrom : Option (List String)
  volumes : List Volume
  volumeMounts : List VolumeMount
  deriving DecidableEq, Repr

/-- `BTreeMap::insert`. -/
def btreeInsert (key value : String) :
    List (String × String) → List (String × String)
  | [] => [(key, value)]
  | (k, v) :: rest =>
      if key = k then (key, value) :: rest
      else if key < k then (key, value) :: (k, v) :: rest
      else (k, v) :: btreeInsert key value rest

theorem lookup_btreeInsert_self (key value : String)
    (m : List (String × String)) :
    List.lookup key (btreeInsert key value m) = some value := by
  induction m with
  | nil => exact List.lookup_cons_self
  | cons p m ih =>
      obtain ⟨k, v⟩ := p
      unfold btreeInsert
      split
      · exact List.lookup_cons_self
      · next hne =>
          split
          · exact List.lookup_cons_self
          · rw [List.lookup_cons, beq_eq_false_iff_ne.mpr hne]
            exact ih

theorem lookup_btreeInsert_ne {key other : String} (h : other ≠ key)
    (value : String) (m : List (String × String)) :
    List.lookup other (btreeInsert key value m) =
      List.lookup other m := by
  induction m with
  | nil =>
      unfold btreeInsert
      rw [List.lookup_cons, beq_eq_false_iff_ne.mpr h]
  | cons p m ih =>
      obtain ⟨k, v⟩ := p
      unfold btreeInsert
      split
      · next heq =>
          rw [List.lookup_cons, List.lookup_cons,
            beq_eq_false_iff_ne.mpr h, beq_eq_false_iff_ne.mpr (heq ▸ h)]
      · split
        · rw [List.lookup_cons, beq_eq_false_iff_ne.mpr h]
        · rw [List.lookup_cons, List.lookup_cons, ih]

theorem lookup_foldl_btreeInsert {key : String}
    (entries : List (String × String)) (h : ∀ e ∈ entries, key ≠ e.1)
    (m : List (String × String)) :
    List.lookup key
        (entries.foldl (fun acc (k, v) => btreeInsert k v acc) m) =
      List.lookup key m := by
  induction entries generalizing m with
  | nil => rfl
  | cons e entries ih =>
      obtain ⟨hfirst, hrest⟩ := List.forall_mem_cons.mp h
      rw [List.foldl_cons, ih hrest]
      exact lookup_btreeInsert_ne hfirst _ _

/-- The annotations of `build_pod_metadata`: the operator's defaults, then
the gateway's own, then the hashes. -/
def podAnnotations (parent : MCPGGateway) (configHash : String)
    (pluginSetHash : Option String)
    (revocationList : Option RevocationListMount)
    (defaults : List (String × String)) : List (String × String) :=
  let annotations :=
    (parent.spec.podAnnotations ++
        [("mcpg.dev/config-hash", configHash)] ++
        (pluginSetHash.map fun h => ("mcpg.dev/plugin-set-hash", h)).toList ++
        (revocationList.map fun r =>
          ("mcpg.dev/revocation-list-hash", r.contentHash)).toList)
  annotations.foldl (fun acc (k, v) => btreeInsert k v acc) defaults

def buildDeployment (parent : MCPGGateway) (configHash : String)
    (pluginMounts : List PluginSecretMount) (pluginSetHash : Option String)
    (revocationList : Option RevocationListMount)
    (defaultPodAnnotations : List (String × String))
    (extraEnvFromSecrets : List String) : Deployment :=
  { name := childName parent "gateway"
    namespace_ := parent.metadata.namespace_
    replicas :=
      if autoscaled parent then none else some (effectiveReplicas parent)
    podAnnotations :=
      podAnnotations parent configHash pluginSetHash revocationList
        defaultPodAnnotations
    envFrom := buildEnvFrom parent extraEnvFromSecrets
    volumes := buildVolumes parent pluginMounts revocationList
    volumeMounts :=
      buildVolumeMounts pluginMounts revocationList parent.spec.secretMounts }

/-! ## The autoscaler -/

structure HorizontalPodAutoscaler where
  name : String
  namespace_ : Option String
  scaleTarget : String
  minReplicas : Int
  maxReplicas : Int
  deriving DecidableEq, Repr

def buildHpa (parent : MCPGGateway) : Option HorizontalPodAutoscaler :=
  match parent.spec.autoscaling with
  | none => none
  | some hpa =>
      if autoscaled parent = false then none
      else
        let min := max (hpa.minReplicas.getD 1) 1
        some
          { name := childName parent "gateway"
            namespace_ := parent.metadata.namespace_
            scaleTarget := childName parent "gateway"
            minReplicas := min
            maxReplicas :=
              max (hpa.maxReplicas.getD (max parent.spec.replicas min))
                min }

end McpgOperator.Templates
