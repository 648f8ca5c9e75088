import McpgOperator.Admission.Gateway
import McpgOperator.Plugin.Types
import McpgOperator.PluginSet.Types

/-!
# Tenants, and what they let in

`admission/validators/tenant.rs`, `admission/tenant_guard.rs` and
`admission/validators/plugin_set.rs`. A tenant is looked at when it is
written, and again when a plugin set is written into a namespace of its own:
each entry has to be one its `allowedPlugins` lets in. A lookup that fails
admits. The cap on the replicas of a gateway is in `Admission.Webhook`.
-/

namespace McpgOperator.Admission

open McpgOperator.Kube McpgOperator.Plugin McpgOperator.PluginSet
  McpgOperator.Text

/-! ## The resource -/

structure AllowedPlugin where
  name : Option String := none
  registryPrefix : Option String := none
  deriving DecidableEq, Repr

structure TenantQuotas where
  maxGateways : Option Int := none
  maxPluginSets : Option Int := none
  maxRoutes : Option Int := none
  maxReplicasPerGateway : Option Int := none
  deriving DecidableEq, Repr

/-- `identityAttributeKey` is `identityAttribute.key`. -/
structure MCPGTenantSpec where
  namespaces : List String
  allowedPlugins : List AllowedPlugin := []
  quotas : Option TenantQuotas := none
  identityAttributeKey : Option String := none
  deriving DecidableEq, Repr

structure TenantObservedCounts where
  gateways : Int
  pluginSets : Int
  routes : Int
  deriving DecidableEq, Repr

structure MCPGTenantStatus where
  conditions : List Condition
  observedGeneration : Option Int
  boundNamespaces : List String
  observed : Option TenantObservedCounts
  lastReconcileTime : Option DateTime
  deriving DecidableEq, Repr

structure MCPGTenant where
  metadata : ObjectMeta
  spec : MCPGTenantSpec
  status : Option MCPGTenantStatus := none
  deriving DecidableEq, Repr

/-- The methods of the API crate's `MCPGTenantSpec`. -/
structure TenantApi where
  ownsNamespace : MCPGTenantSpec → String → Bool
  /-- By the resource's name, the entry's id, or the image. -/
  pluginAllowed : MCPGTenantSpec → String → String → Option String → Bool
  overlappingNamespaces : MCPGTenantSpec → MCPGTenantSpec → List String

/-! ## The tenant's own validator -/

/-- The loop over the namespaces, with those before it. -/
def validateNamespaces (seen : List String) :
    List String → Except String Unit
  | [] => .ok ()
  | ns :: rest =>
      if trim ns = "" then
        .error "spec.namespaces[] entries must not be empty"
      else if seen.contains ns then
        .error ("spec.namespaces lists " ++ "`" ++ ns ++
          "` more than once")
      else validateNamespaces (ns :: seen) rest

/-- The loop over the matchers, from index `i` on. -/
def validateAllowedPlugins (i : Nat) :
    List AllowedPlugin → Except String Unit
  | [] => .ok ()
  | a :: rest =>
      let nameSet := a.name.any fun n => trim n ≠ ""
      let prefixSet := a.registryPrefix.any fun p => trim p ≠ ""
      if nameSet = false ∧ prefixSet = false then
        .error ("spec.allowedPlugins[" ++ toString i ++
          "] must set `name` or `registryPrefix` " ++
          "(an empty matcher matches nothing)")
      else validateAllowedPlugins (i + 1) rest

def TenantQuotas.fields (q : TenantQuotas) : List (String × Option Int) :=
  [("maxGateways", q.maxGateways), ("maxPluginSets", q.maxPluginSets),
    ("maxRoutes", q.maxRoutes),
    ("maxReplicasPerGateway", q.maxReplicasPerGateway)]

def validateQuotas : List (String × Option Int) → Except String Unit
  | [] => .ok ()
  | (_, none) :: rest => validateQuotas rest
  | (field, some v) :: rest =>
      if v < 0 then
        .error ("spec.quotas." ++ field ++ " must be ≥ 0 (got " ++
          toString v ++ ")")
      else validateQuotas rest

/-- `validate_spec`. -/
def validateTenant (obj : MCPGTenant) : Except String Unit := do
  let spec := obj.spec
  denyIf (spec.namespaces = []) "spec.namespaces must not be empty"
  validateNamespaces [] spec.namespaces
  validateAllowedPlugins 0 spec.allowedPlugins
  validateQuotas ((spec.quotas.map (·.fields)).getD [])
  denyIf (spec.identityAttributeKey.any fun key => trim key = "")
    "spec.identityAttribute.key must not be empty when set"

/-- The loop of `check_namespace_exclusivity`. -/
def checkOthers (api : TenantApi) (obj : MCPGTenant) (selfName : String) :
    List MCPGTenant → Except String Unit
  | [] => .ok ()
  | other :: rest =>
      let otherName := other.metadata.name.getD ""
      if otherName = selfName then checkOthers api obj selfName rest
      else
        match api.overlappingNamespaces obj.spec other.spec with
        | [] => checkOthers api obj selfName rest
        | overlap =>
            .error ("namespace(s) " ++ ", ".intercalate overlap ++
              " already owned by MCPGTenant `" ++ otherName ++
              "`; namespaces are exclusively owned")

def checkNamespaceExclusivity (api : TenantApi)
    (listed : Except KubeError (List MCPGTenant)) (obj : MCPGTenant)
    (selfName : String) : Except String Unit :=
  match listed with
  | .error _ => .ok ()
  | .ok existing => checkOthers api obj selfName existing

/-- `validate` of a tenant. -/
def admitTenant (api : TenantApi)
    (listed : Except KubeError (List MCPGTenant)) (obj : MCPGTenant) :
    Except String Unit := do
  validateTenant obj
  checkNamespaceExclusivity api listed obj (obj.metadata.name.getD "")

/-! ## The guard on plugin sets -/

def owningTenant (api : TenantApi)
    (listed : Except KubeError (List MCPGTenant)) (ns : String) :
    Option MCPGTenant :=
  match listed with
  | .error _ => none
  | .ok tenants => tenants.find? fun t => api.ownsNamespace t.spec ns

/-- The image of the plugin, where the lookup finds it. -/
def imageOf (answer : Except KubeError (Option MCPGPlugin)) :
    Option String :=
  match answer with
  | .ok (some plugin) => some plugin.spec.oci.image
  | _ => none

/-- The loop over the entries. A disabled one counts. -/
def enforceEntries (api : TenantApi)
    (getPlugin : String → Except KubeError (Option MCPGPlugin))
    (tenant : MCPGTenant) (ns : String) :
    List MCPGPluginSetEntry → Except String Unit
  | [] => .ok ()
  | entry :: rest =>
      if api.pluginAllowed tenant.spec entry.pluginRef entry.id
          (imageOf (getPlugin entry.pluginRef)) then
        enforceEntries api getPlugin tenant ns rest
      else
        .error ("plugin `" ++ entry.pluginRef ++ "` (id `" ++ entry.id ++
          "`) is not in tenant `" ++ tenant.metadata.name.getD "<tenant>" ++
          "`'s allowedPlugins; namespace `" ++ ns ++
          "` is governed by that tenant")

def enforcePluginsetAllowlist (api : TenantApi)
    (listed : Except KubeError (List MCPGTenant))
    (getPlugin : String → Except KubeError (Option MCPGPlugin))
    (obj : MCPGPluginSet) : Except String Unit :=
  match obj.metadata.namespace_ with
  | none => .ok ()
  | some ns =>
      match owningTenant api listed ns with
      | none => .ok ()
      | some tenant =>
          enforceEntries api getPlugin tenant ns obj.spec.entries

/-! ## The plugin set's own validator -/

/-- `Capability::parse_value` of a string, by the error it gives, and
`Capability::known_names`. -/
structure CapabilityLib where
  parseError : String → Option String
  knownNames : List String

/-- The loop over the entries, from index `i` on, with the ids before it. -/
def validateSetEntries (i : Nat) (seen : List String) :
    List MCPGPluginSetEntry → Except String Unit
  | [] => .ok ()
  | entry :: rest =>
      let at_ := "spec.entries[" ++ toString i ++ "]"
      if trim entry.id = "" then .error (at_ ++ ".id must not be empty")
      else if entry.id.toList.contains '.' = false then
        .error (at_ ++ ".id `" ++ entry.id ++ "` is not a valid plugin id " ++
          "(expected reverse-DNS form, e.g. `dev.mcpg.identity.workload`)")
      else if seen.contains entry.id then
        .error ("duplicate plugin id `" ++ entry.id ++ "` at " ++ at_ ++
          " — each id may appear at most once per set")
      else if trim entry.pluginRef = "" then
        .error (at_ ++ ".pluginRef.name must not be empty")
      else validateSetEntries (i + 1) (entry.id :: seen) rest

/-- The capabilities granted to one id. -/
def validateCapabilities (lib : CapabilityLib) (id : String) :
    List String → Except String Unit
  | [] => .ok ()
  | cap :: rest =>
      match lib.parseError cap with
      | some e =>
          .error ("spec.capabilityGrants[`" ++ id ++ "`] capability `" ++
            cap ++ "` is not a valid gateway capability (" ++ e ++
            "); valid kinds: " ++ ", ".intercalate lib.knownNames)
      | none => validateCapabilities lib id rest

/-- The loop over the grants. -/
def validateGrants (lib : CapabilityLib) (ids : List String) :
    List (String × List String) → Except String Unit
  | [] => .ok ()
  | (id, capabilities) :: rest => do
      denyIf (ids.contains id = false)
        ("spec.capabilityGrants[`" ++ id ++
          "`] names a plugin id not in spec.entries[]")
      denyIf (capabilities = [])
        ("spec.capabilityGrants[`" ++ id ++ "`] is empty — either remove " ++
          "the entry or list the capabilities the plugin needs")
      validateCapabilities lib id capabilities
      validateGrants lib ids rest

/-- `validate_spec`. -/
def validatePluginSet (lib : CapabilityLib) (obj : MCPGPluginSet) :
    Except String Unit := do
  denyIf (obj.spec.entries = []) "spec.entries must not be empty"
  validateSetEntries 0 [] obj.spec.entries
  validateGrants lib (obj.spec.entries.map (·.id)) obj.spec.capabilityGrants

/-- `validate` of a plugin set. -/
def admitPluginSet (lib : CapabilityLib) (api : TenantApi)
    (listed : Except KubeError (List MCPGTenant))
    (getPlugin : String → Except KubeError (Option MCPGPlugin))
    (obj : MCPGPluginSet) : Except String Unit := do
  validatePluginSet lib obj
  enforcePluginsetAllowlist api listed getPlugin obj

/-! ## What an admitted set satisfies -/

theorem pluginAllowed_of_enforceEntries {api : TenantApi}
    {getPlugin : String → Except KubeError (Option MCPGPlugin)}
    {tenant : MCPGTenant} {ns : String} {entries : List MCPGPluginSetEntry}
    (h : enforceEntries api getPlugin tenant ns entries = .ok ()) :
    ∀ entry ∈ entries,
      api.pluginAllowed tenant.spec entry.pluginRef entry.id
        (imageOf (getPlugin entry.pluginRef)) = true := by
  induction entries with
  | nil => exact fun _ hmem => nomatch hmem
  | cons entry rest ih =>
      unfold enforceEntries at h
      split at h
      · next hallowed => exact List.forall_mem_cons.mpr ⟨hallowed, ih h⟩
      · cases h

/-- Every entry is one the owner of the namespace lets in. -/
theorem pluginAllowed_of_admitPluginSet {lib : CapabilityLib}
    {api : TenantApi} {listed : Except KubeError (List MCPGTenant)}
    {getPlugin : String → Except KubeError (Option MCPGPlugin)}
    {obj : MCPGPluginSet} {ns : String} {tenant : MCPGTenant}
    (h : admitPluginSet lib api listed getPlugin obj = .ok ())
    (hns : obj.metadata.namespace_ = some ns)
    (howner : owningTenant api listed ns = some tenant) :
    ∀ entry ∈ obj.spec.entries,
      api.pluginAllowed tenant.spec entry.pluginRef entry.id
        (imageOf (getPlugin entry.pluginRef)) = true := by
  obtain ⟨_, _, h⟩ := Except.of_bind_ok h
  unfold enforcePluginsetAllowlist at h
  rw [hns] at h
  dsimp only at h
  rw [howner] at h
  exact pluginAllowed_of_enforceEntries h

end McpgOperator.Admission
