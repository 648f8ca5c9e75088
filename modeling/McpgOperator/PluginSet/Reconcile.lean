import McpgOperator.Kube.Finalizer
import McpgOperator.PluginSet.Resolve
import McpgOperator.Text

/-!
# One pass of the plugin-set controller

`reconcile_inner` of `controllers/plugin_set.rs`, loop by loop: resolve the
entries, project their Secrets into the namespace, publish the resolved set,
prune, report. Each loop is a stage of its own, since between two of them
other passes run. The entries are answered one by one, so what a read
answers is a function of the position in the loop.

The answers to the deletes, to the status patch and to the event are only
logged and are left out.
-/

namespace McpgOperator.PluginSet.Reconcile

open McpgOperator.Kube McpgOperator.Plugin McpgOperator.Text

/-! ## The surroundings of a pass -/

def managedBySetLabel : String := "mcpg.dev/managed-by-set"

def resolvedHashLabel : String := "mcpg.dev/resolved-hash"

def operatorNamespace : String := "mcpg-system"

inductive ReconcileError
  | kube (e : KubeError)
  | apply (e : KubeError)
  | finalizer (e : FinalizerError)
  | missingName
  | missingNamespace (name : String)
  | tenantRbac (e : KubeError)
  deriving DecidableEq, Repr

structure SetLibs where
  conditions : ConditionsApi
  /-- `serde_json::to_string_pretty`, which does not fail on a document. -/
  toStringPretty : Json → String
  sha256Hex : String → String

/-- What the requests of a pass answer. -/
structure SetAnswers where
  addFinalizer : Except KubeError Unit
  removeFinalizer : Except FinalizerError Unit
  /-- The plugin of the entry at this index of the spec. -/
  getPlugin : Nat → Except KubeError (Option MCPGPlugin)
  ensureTenantSecretBinding : Except KubeError Unit
  /-- The source Secret of the resolved entry at this index. -/
  getSource : Nat → Except KubeError (Option Secret)
  /-- The apply of its copy. -/
  applySecret : Nat → Except KubeError Unit
  applyConfigMap : Except KubeError Unit
  /-- The Secrets that carry the set's label. -/
  listSecrets : Except KubeError (List Secret)
  now : DateTime

/-- A request a pass issues. The ConfigMap comes with the document it was
rendered from. -/
inductive Effect
  | ensureTenantSecretBinding
  | applySecret (copy : Secret) (owner : OwnerReference)
  | applyConfigMap (doc : Json) (cm : ConfigMap) (owner : OwnerReference)
  | deleteSecret (name : String)
  | patchStatus (status : MCPGPluginSetStatus)
  | publish (evt : K8sEvent)
  deriving DecidableEq

/-- A stage of the pass. -/
structure Stage where
  trace : List Effect
  result : Except ReconcileError Unit
  deriving DecidableEq

structure Pass where
  trace : List Effect
  result : Except ReconcileError (Requeue × ReconcileOutcome)
  deriving DecidableEq

def Pass.fail (e : ReconcileError) : Pass := { trace := [], result := .error e }

/-- The stage, and the rest of the pass unless the stage failed. -/
def Stage.andThen (s : Stage) (p : Pass) : Pass :=
  match s.result with
  | .error e => { trace := s.trace, result := .error e }
  | .ok _ => { p with trace := s.trace ++ p.trace }

/-! ## Resolving the entries -/

/-- The entries that are not skipped, with their indices. -/
def enabledEntries (set : MCPGPluginSet) : List (MCPGPluginSetEntry × Nat) :=
  set.spec.entries.zipIdx.filter fun e => e.1.enabled

/-- The first loop. -/
def resolveEntries (ans : SetAnswers) (set : MCPGPluginSet) :
    List (MCPGPluginSetEntry × Except EntryRejection ResolvedEntry) :=
  (enabledEntries set).map fun e =>
    (e.1, resolveEntry (ans.getPlugin e.2) e.1)

def resolved (ans : SetAnswers) (set : MCPGPluginSet) : List ResolvedEntry :=
  (resolveEntries ans set).filterMap fun e => e.2.toOption

def failed (ans : SetAnswers) (set : MCPGPluginSet) : List FailedEntry :=
  (resolveEntries ans set).filterMap fun
    | (entry, .error rejection) =>
        some
          { id := entry.id, reason := rejection.reason
            message := rejection.message }
    | (_, .ok _) => none

def allResolved (ans : SetAnswers) (set : MCPGPluginSet) : Bool :=
  let total : Int := set.spec.entries.length
  let resolvedCount : Int := (resolved ans set).length
  let failedCount : Int := (failed ans set).length
  (failed ans set).isEmpty &&
    resolvedCount + (total - resolvedCount - failedCount) == total

/-! ## Projecting the Secrets -/

def ownerReference (parent : MCPGPluginSet) (name : String) :
    OwnerReference :=
  { apiVersion := "mcpg.dev/v1alpha1"
    kind := "MCPGPluginSet"
    name := name
    uid := parent.metadata.uid.getD "" }

/-- `build_namespace_copy`; the labels in key order. -/
def buildNamespaceCopy (parent : MCPGPluginSet) (ns : String)
    (source : Secret) (entry : ResolvedEntry) : Secret × OwnerReference :=
  ({ name := some entry.artefactSecretName
     namespace_ := some ns
     labels :=
       [("app.kubernetes.io/managed-by", "mcpg-operator"),
         (managedBySetLabel, parent.metadata.name.getD "unknown"),
         ("mcpg.dev/plugin", replaceChar '.' '-' entry.entryId),
         ("mcpg.dev/source-namespace", operatorNamespace),
         ("mcpg.dev/version", entry.pluginVersion)]
     type_ := some "mcpg.dev/plugin"
     immutable_ := some true
     data := source.data },
    ownerReference parent (parent.metadata.name.getD ""))

/-- The second loop, from index `i` on. A source that is gone is skipped. -/
def projectSecrets (ans : SetAnswers) (set : MCPGPluginSet) (ns : String)
    (i : Nat) : List ResolvedEntry → Stage
  | [] => { trace := [], result := .ok () }
  | r :: rest =>
      match ans.getSource i with
      | .error e => { trace := [], result := .error (.kube e) }
      | .ok none => projectSecrets ans set ns (i + 1) rest
      | .ok (some source) =>
          let (copy, owner) := buildNamespaceCopy set ns source r
          match ans.applySecret i with
          | .error e =>
              { trace := [.applySecret copy owner]
                result := .error (.apply e) }
          | .ok _ =>
              let stage := projectSecrets ans set ns (i + 1) rest
              { stage with
                trace := .applySecret copy owner :: stage.trace }

/-- `desired_secret_names`, of which only the membership is looked at. -/
def desiredSecretNames (entries : List ResolvedEntry) : List String :=
  entries.map (·.artefactSecretName)

/-! ## Publishing the resolved set -/

/-- One entry of `plugins.json`, its keys in order. -/
def renderResolvedEntry (parent : MCPGPluginSet) (r : ResolvedEntry) :
    Json :=
  let grants := (parent.spec.capabilityGrants.lookup r.entryId).getD []
  .obj
    [("artefactSecretName", .str r.artefactSecretName),
      ("capabilityGrants", .arr (grants.map .str)),
      ("config", r.config),
      ("id", .str r.entryId),
      ("pluginClass", .str r.pluginClass),
      ("pluginName", .str r.pluginName),
      ("pluginVersion", .str r.pluginVersion),
      ("resolvedDigest", .str r.resolvedDigest)]

def resolvedDoc (parent : MCPGPluginSet) (entries : List ResolvedEntry) :
    Json :=
  .obj
    [("entries", .arr (entries.map (renderResolvedEntry parent))),
      ("version", .num (.int 1))]

/-- `render_resolved_set`: the text and its hash. -/
def renderResolvedSet (libs : SetLibs) (parent : MCPGPluginSet)
    (entries : List ResolvedEntry) : String × String :=
  let json := libs.toStringPretty (resolvedDoc parent entries)
  (json, libs.sha256Hex json)

def buildResolvedConfigmap (parent : MCPGPluginSet)
    (ns rendered resolvedHash : String) : ConfigMap × OwnerReference :=
  let parentName := parent.metadata.name.getD "unknown"
  ({ name := some (parentName ++ "-resolved")
     namespace_ := some ns
     labels :=
       [("app.kubernetes.io/managed-by", "mcpg-operator"),
         (managedBySetLabel, parentName),
         (resolvedHashLabel, resolvedHash)]
     data := some [("plugins.json", rendered)] },
    ownerReference parent parentName)

def publishSet (libs : SetLibs) (ans : SetAnswers) (set : MCPGPluginSet)
    (ns : String) (entries : List ResolvedEntry) : Stage :=
  let (rendered, resolvedHash) := renderResolvedSet libs set entries
  let (cm, owner) := buildResolvedConfigmap set ns rendered resolvedHash
  { trace := [.applyConfigMap (resolvedDoc set entries) cm owner]
    result := ans.applyConfigMap.mapError .apply }

/-! ## Pruning -/

/-- `prune_stale_secrets`: the names it deletes. A list that fails deletes
nothing. -/
def pruneStaleSecrets (listed : Except KubeError (List Secret))
    (desired : List String) : List String :=
  match listed with
  | .error _ => []
  | .ok existing =>
      (existing.filterMap (·.name)).filter fun name => name ∉ desired

/-! ## The report -/

/-- The conditions of step 5. -/
def statusConditions (libs : SetLibs) (ans : SetAnswers)
    (set : MCPGPluginSet) : List Condition :=
  let generation := some (set.metadata.generation.getD 0)
  let carried := (set.status.map (·.conditions)).getD []
  let counts := toString (resolved ans set).length ++ "/" ++
    toString set.spec.entries.length ++ " entries resolved"
  if allResolved ans set then
    libs.conditions.setAll carried
      [{ type := CType.ready, status := "True", reason := Reasons.reconciled
         message := counts, observedGeneration := generation },
        { type := "EntriesResolved", status := "True"
          reason := Reasons.reconciled, message := ""
          observedGeneration := generation }]
  else
    let detail :=
      if (failed ans set).isEmpty then counts
      else counts ++ "; " ++ toString (failed ans set).length ++ " failed"
    libs.conditions.setAll carried
      [{ type := CType.ready, status := "False", reason := Reasons.progressing
         message := detail, observedGeneration := generation },
        { type := "EntriesResolved", status := "False"
          reason :=
            if (failed ans set).isEmpty then "DependencyPending"
            else "EntriesFailed"
          message := detail, observedGeneration := generation }]

/-- The status of step 5. -/
def reportedStatus (libs : SetLibs) (ans : SetAnswers)
    (set : MCPGPluginSet) : MCPGPluginSetStatus :=
  { conditions := statusConditions libs ans set
    observedGeneration := some (set.metadata.generation.getD 0)
    resolvedEntries := some (resolved ans set).length
    totalEntries := some set.spec.entries.length
    resolvedHash := some (renderResolvedSet libs set (resolved ans set)).2
    failedEntries := failed ans set
    lastReconcileTime := some ans.now }

/-- Step 5. -/
def report (libs : SetLibs) (ans : SetAnswers) (set : MCPGPluginSet) :
    Pass :=
  let counts := toString (resolved ans set).length ++ "/" ++
    toString set.spec.entries.length ++ " entries resolved"
  let status := Effect.patchStatus (reportedStatus libs ans set)
  if (failed ans set).isEmpty then
    { trace :=
        [status,
          .publish
            { type_ := "Normal", reason := "Reconciled"
              note := some counts, action := "Resolve" }]
      result := .ok (.after 300, .success) }
  else
    { trace := [status], result := .ok (.after 300, .dependencyPending) }

/-! ## The pass -/

def bindTenant (ans : SetAnswers) : Stage :=
  { trace := [.ensureTenantSecretBinding]
    result := ans.ensureTenantSecretBinding.mapError .tenantRbac }

/-- Steps 1 to 5. -/
def materialise (libs : SetLibs) (ans : SetAnswers) (set : MCPGPluginSet)
    (ns : String) : Pass :=
  let entries := resolved ans set
  (bindTenant ans).andThen <|
    (projectSecrets ans set ns 0 entries).andThen <|
      (publishSet libs ans set ns entries).andThen
        { report libs ans set with
          trace :=
            (pruneStaleSecrets ans.listSecrets
              (desiredSecretNames entries)).map .deleteSecret ++
            (report libs ans set).trace }

def reconcileInner (libs : SetLibs) (ans : SetAnswers)
    (set : MCPGPluginSet) : Pass :=
  match set.metadata.name with
  | none => .fail .missingName
  | some name =>
      match set.metadata.namespace_ with
      | none => .fail (.missingNamespace name)
      | some ns =>
          if set.metadata.deletionTimestamp.isSome then
            match ans.removeFinalizer with
            | .error e => .fail (.finalizer e)
            | .ok _ => { trace := [], result := .ok (.awaitChange, .success) }
          else
            match ensureFinalizer ans.addFinalizer set.metadata with
            | .error e => .fail (.finalizer e)
            | .ok _ => materialise libs ans set ns

end McpgOperator.PluginSet.Reconcile
