import McpgOperator.Proofs.ConfigFrame
import McpgOperator.Proofs.PluginHold

/-!
# The revocation list in the config and in the pod

A pass that resolved a revocation list, in whatever condition, renders the
mount path into the config and the volume into the Deployment: each of the
two goes with the other. Whether the ConfigMap behind the volume is there is
another matter. A list that is named and not found gives a volume without a
ConfigMap name, and an apply that fails leaves what was there before.
-/

namespace McpgOperator.Gateway

open McpgOperator.Kube McpgOperator.Templates McpgOperator.Cluster
  McpgOperator.Plugin McpgOperator.PluginHold Json

/-! ## The path in the config -/

def revocationPath : List String :=
  ["gateway", "plugin_registry", "revocation_list_path"]

/-- The config sends the gateway to the mounted list. -/
def carriesPath (config : Json) : Prop :=
  getPath revocationPath config = some (.str revocationListMountPath)

theorem revocationPath_mergePlugins (baseConfig : Json)
    (view : Option ResolvedSetView) (path : String) :
    getPath revocationPath (mergePlugins baseConfig view (some path)) =
      some (.str path) := by
  unfold mergePlugins
  exact (getPath_ensurePath_key ["gateway", "plugin_registry"]
    "revocation_list_path" _ _).trans (get_set_self _ _ _)

theorem carriesPath_renderConfig (libs : RenderLibs) (cfg : OperatorConfig)
    (obj : MCPGGateway) (ns : String) {inputs : RenderInputs}
    (h : inputs.revocationList = true) :
    carriesPath (renderConfig libs cfg obj ns inputs) := by
  have hcache : Keeps revocationPath (setPluginCacheDir pluginCacheDir) :=
    keeps_setPluginCacheDir pluginCacheDir (by decide)
  unfold carriesPath renderConfig
  dsimp only
  rw [keeps_applyCloudDefaultPlugins_of_cacheDir cfg obj (by decide) hcache
      (by decide),
    keeps_injectCloudIdentity libs cfg obj (by decide) (by decide)
      (by decide),
    keeps_mergeServers _ _ _ _ (by decide),
    keeps_mergeRoutes _ _ _ _ (by decide), if_pos h]
  split
  · exact revocationPath_mergePlugins _ _ _
  · rw [keeps_mergeClusterBlock _ (by decide)]
    exact revocationPath_mergePlugins _ _ _

/-! ## The mount in the Deployment -/

/-- The pod finds the key of the ConfigMap at the path. -/
def mountsFile (dep : Deployment) (path cmName key : String) : Prop :=
  ∃ volume dir file,
    { name := volume
      source := .configMap cmName (some [(key, file)]) } ∈ dep.volumes ∧
    { name := volume, mountPath := dir } ∈ dep.volumeMounts ∧
    path = dir ++ "/" ++ file

/-- The one volume of a single key is the revocation list's. -/
theorem configMap_items_mem_iff (parent : MCPGGateway)
    (pluginMounts : List PluginSecretMount)
    (revocationList : Option RevocationListMount)
    {volume cmName key file : String} :
    { name := volume, source := .configMap cmName (some [(key, file)]) } ∈
        buildVolumes parent pluginMounts revocationList ↔
      volume = "revocation-list" ∧ key = "list.json" ∧ file = "list.json" ∧
        ∃ r, revocationList = some r ∧ r.configMapName = cmName := by
  constructor
  · intro hmem
    unfold buildVolumes at hmem
    rcases List.mem_append.mp hmem with hmem | hmem
    · rcases List.mem_append.mp hmem with hmem | hmem
      · rcases List.mem_append.mp hmem with hmem | hmem
        · -- the config is mounted whole, the runtime directory is empty
          rcases List.mem_cons.mp hmem with heq | hmem
          · exact nomatch congrArg Volume.source heq
          · exact nomatch congrArg Volume.source (List.mem_singleton.mp hmem)
        · obtain ⟨m, _, heq⟩ := List.mem_map.mp hmem
          exact nomatch congrArg Volume.source heq
      · obtain ⟨r, hr, heq⟩ := Option.map_eq_some_iff.mp
          (Option.mem_toList.mp hmem)
        have hsource := congrArg Volume.source heq
        cases hsource
        exact ⟨(congrArg Volume.name heq).symm, rfl, rfl, r, hr, rfl⟩
    · obtain ⟨m, _, heq⟩ := List.mem_map.mp hmem
      exact nomatch congrArg Volume.source heq
  · rintro ⟨rfl, rfl, rfl, r, rfl, rfl⟩
    unfold buildVolumes
    exact List.mem_append_left _ (List.mem_append_right _
      (List.mem_singleton_self _))

/-! ## The ConfigMaps of the namespace -/

/-- Server-side apply, field by field of a map. -/
def applyEntries (old new : List (String × String)) :
    List (String × String) :=
  new.foldl (fun acc (k, v) => btreeInsert k v acc) old

/-- What the apply leaves: what other writers put there stays. -/
def mergeConfigMap (old : Option ConfigMap) (cm : ConfigMap) : ConfigMap :=
  { cm with
    labels := applyEntries ((old.map (·.labels)).getD []) cm.labels
    data := some (applyEntries ((old.bind (·.data)).getD [])
      (cm.data.getD [])) }

/-- The ConfigMaps of a namespace, by name. -/
abbrev ConfigMaps := String → Option ConfigMap

def ConfigMaps.apply (stored : ConfigMaps) (cm : ConfigMap) : ConfigMaps :=
  let name := cm.name.getD ""
  Function.update stored name (some (mergeConfigMap (stored name) cm))

/-- The text under a key of the ConfigMap. -/
def ConfigMaps.content (stored : ConfigMaps) (name key : String) :
    Option String :=
  ((stored name).bind (·.data)).bind (List.lookup key)

theorem content_apply_self (stored : ConfigMaps) {cm : ConfigMap}
    {name key value : String} (hname : cm.name = some name)
    (hdata : cm.data = some [(key, value)]) :
    (stored.apply cm).content name key = some value := by
  unfold ConfigMaps.apply ConfigMaps.content mergeConfigMap
  rw [hname, hdata]
  dsimp only [Option.getD_some]
  rw [Function.update_self]
  exact lookup_btreeInsert_self key value _

theorem content_apply_ne (stored : ConfigMaps) {cm : ConfigMap}
    {name : String} (key : String) (h : name ≠ cm.name.getD "") :
    (stored.apply cm).content name key = stored.content name key := by
  unfold ConfigMaps.apply ConfigMaps.content
  dsimp only
  rw [Function.update_of_ne h]

theorem toList_last_append {s suffix : String} {c : Char}
    (h : suffix.toList.getLast? = some c) :
    (s ++ suffix).toList.getLast? = some c := by
  rw [String.toList_append, List.getLast?_append, h]
  rfl

theorem revocationCmName_ne_childName (obj : MCPGGateway) :
    revocationCmName obj ≠ childName obj "config" := by
  intro heq
  have hs : (revocationCmName obj).toList.getLast? = some 's' :=
    toList_last_append (by decide)
  have hg : (childName obj "config").toList.getLast? = some 'g' := by
    unfold childName
    exact toList_last_append (by decide)
  rw [heq, hg] at hs
  cases hs

theorem revocationCmName_ne_empty (obj : MCPGGateway) :
    revocationCmName obj ≠ "" := by
  intro heq
  have hs : (revocationCmName obj).toList.getLast? = some 's' :=
    toList_last_append (by decide)
  rw [heq] at hs
  cases hs

section Passes

variable {Backend Managed : Type}

/-- The pass gets to the revocation list. -/
def reachesRevocationList (libs : GatewayLibs Backend Managed)
    (ans : GatewayAnswers Backend Managed) (obj : MCPGGateway) : Bool :=
  match passNamespace ans obj with
  | none => false
  | some ns => (resolvePluginSet libs.resolve ans.resolve ns obj).isOk

/-- The ConfigMaps a pass applies with success, in order. -/
def appliedConfigMaps (libs : GatewayLibs Backend Managed)
    (cfg : OperatorConfig) (ans : GatewayAnswers Backend Managed)
    (obj : MCPGGateway) : List ConfigMap :=
  (if reachesRevocationList libs ans obj && ans.resolve.applyRevocationCm.isOk
    then (revocationConfigmap libs.resolve ans.resolve obj).toList
    else []) ++
  (if ans.applyConfigMap.isOk then
    (reconcileInner libs cfg ans obj).trace.filterMap fun
      | .applyConfigMap _ cm => some cm
      | _ => none
    else [])

/-- The gateway's namespace after the pass. -/
def ConfigMaps.afterPass (stored : ConfigMaps)
    (libs : GatewayLibs Backend Managed) (cfg : OperatorConfig)
    (ans : GatewayAnswers Backend Managed) (obj : MCPGGateway) :
    ConfigMaps :=
  (appliedConfigMaps libs cfg ans obj).foldl ConfigMaps.apply stored

/-- The list the gateway names, or the default one. -/
def readRevocationList (ans : GatewayAnswers Backend Managed)
    (obj : MCPGGateway) :
    Except KubeError (Option MCPGRevocationList) :=
  ans.resolve.getRevocationList
    (obj.spec.revocationListRef.getD defaultRevocationListName)

/-- A config that carries the path because a list resolved goes with a
Deployment that finds that list there; and a Deployment that mounts a list
goes with a config that carries the path. -/
def PathIffMount (libs : GatewayLibs Backend Managed) (cfg : OperatorConfig)
    (stored : ConfigMaps) (ans : GatewayAnswers Backend Managed)
    (obj : MCPGGateway) : Prop :=
  ∀ config cm dep,
    .applyConfigMap config cm ∈ (reconcileInner libs cfg ans obj).trace →
    .applyDeployment dep ∈ (reconcileInner libs cfg ans obj).trace →
    ((∃ resolved, resolveRevocationList libs.resolve ans.resolve obj =
        .ok (some resolved)) → carriesPath config →
      ∃ rl cmName, readRevocationList ans obj = .ok (some rl) ∧
        cmName ≠ "" ∧
        mountsFile dep revocationListMountPath cmName "list.json" ∧
        (stored.afterPass libs cfg ans obj).content cmName "list.json" =
          some (libs.resolve.renderRevocationListJson rl.spec).1) ∧
    ((∃ cmName, mountsFile dep revocationListMountPath cmName "list.json") →
      carriesPath config)

/-- Where the pass comes to apply the Deployment, a list that the gateway
names is there, and the ConfigMap of a list that is there holds it: by the
apply of the pass, or from before. -/
def ListProjected (libs : GatewayLibs Backend Managed) (stored : ConfigMaps)
    (ans : GatewayAnswers Backend Managed) (obj : MCPGGateway) : Prop :=
  ∀ found ∈ comesToApply libs ans obj,
    reachesDeployment ans obj found.1 found.2 = true →
    (readRevocationList ans obj = .ok none →
      obj.spec.revocationListRef = none) ∧
    ∀ rl, readRevocationList ans obj = .ok (some rl) →
      ans.resolve.applyRevocationCm = .ok () ∨
        stored.content (revocationCmName obj) "list.json" =
          some (libs.resolve.renderRevocationListJson rl.spec).1

variable {libs : GatewayLibs Backend Managed} {cfg : OperatorConfig}
  {stored : ConfigMaps} {ans : GatewayAnswers Backend Managed}
  {obj : MCPGGateway} {ns : String} {r : Resolved}

theorem content_configMaps_of_trace (happlies : Applies libs ans obj ns r)
    (cms : List ConfigMap)
    (hcms : ∀ cm ∈ cms, ∃ config, .applyConfigMap config cm ∈
      (reconcileInner libs cfg ans obj).trace) (stored : ConfigMaps)
    (key : String) :
    (cms.foldl ConfigMaps.apply stored).content (revocationCmName obj) key =
      stored.content (revocationCmName obj) key := by
  induction cms generalizing stored with
  | nil => rfl
  | cons cm cms ih =>
      obtain ⟨config, hmem⟩ := hcms cm List.mem_cons_self
      have hcm : cm = (buildConfigmap libs obj config).1 :=
        (happlies.carries_of_mem hmem).2
      rw [List.foldl_cons,
        ih (fun cm' hcm' => hcms cm' (List.mem_cons_of_mem _ hcm'))]
      refine content_apply_ne stored key ?_
      rw [hcm]
      exact revocationCmName_ne_childName obj

theorem mem_configMaps_of_trace {trace : List Effect} {cm : ConfigMap}
    (h : cm ∈ trace.filterMap fun
      | .applyConfigMap _ cm => some cm
      | _ => none) : ∃ config, .applyConfigMap config cm ∈ trace := by
  obtain ⟨e, he, hcm⟩ := List.mem_filterMap.mp h
  cases e <;> cases hcm
  exact ⟨_, he⟩

theorem reachesRevocationList_of_applies
    (happlies : Applies libs ans obj ns r) :
    reachesRevocationList libs ans obj = true := by
  unfold reachesRevocationList
  rw [happlies.past]
  dsimp only
  rw [(of_resolveStep_ok happlies.resolved).1]
  rfl

theorem content_afterPass (happlies : Applies libs ans obj ns r)
    {rl : MCPGRevocationList}
    (hlist : readRevocationList ans obj = .ok (some rl)) :
    (stored.afterPass libs cfg ans obj).content (revocationCmName obj)
        "list.json" =
      if ans.resolve.applyRevocationCm.isOk then
        some (libs.resolve.renderRevocationListJson rl.spec).1
      else stored.content (revocationCmName obj) "list.json" := by
  have hreaches := reachesRevocationList_of_applies happlies
  have hcm : revocationConfigmap libs.resolve ans.resolve obj =
      some (buildRevocationConfigmap obj (revocationCmName obj)
        (libs.resolve.renderRevocationListJson rl.spec).1
        (libs.resolve.renderRevocationListJson rl.spec).2) := by
    unfold revocationConfigmap
    unfold readRevocationList at hlist
    rw [hlist]
  unfold ConfigMaps.afterPass appliedConfigMaps
  rw [List.foldl_append, content_configMaps_of_trace happlies]
  · rw [hreaches, Bool.true_and, hcm]
    split
    · exact content_apply_self stored rfl rfl
    · rfl
  · intro cm hmem
    split at hmem
    · exact mem_configMaps_of_trace hmem
    · cases hmem

/-- The resolver gives something for a list that is there, and for one that
is named. -/
theorem resolveRevocationList_isSome_iff
    {resolved : Option ResolvedRevocationList}
    (h : resolveRevocationList libs.resolve ans.resolve obj = .ok resolved) :
    resolved.isSome = true ↔
      readRevocationList ans obj ≠ .ok none ∨
        obj.spec.revocationListRef ≠ none := by
  unfold readRevocationList
  obtain ⟨found, hread, h⟩ := Except.of_bind_ok h
  rw [hread]
  cases found with
  | none =>
      dsimp only at h
      cases href : obj.spec.revocationListRef with
      | none =>
          rw [href] at h
          cases h
          simp
      | some name =>
          rw [href] at h
          cases h
          simp
  | some rl =>
      dsimp only at h
      cases happly : ans.resolve.applyRevocationCm with
      | error e =>
          rw [happly] at h
          cases h
          simp
      | ok _ =>
          rw [happly] at h
          cases h
          simp

theorem configMapName_of_resolveRevocationList
    {resolved : ResolvedRevocationList} {rl : MCPGRevocationList}
    (h : resolveRevocationList libs.resolve ans.resolve obj =
      .ok (some resolved))
    (hlist : readRevocationList ans obj = .ok (some rl)) :
    resolved.mount.configMapName = revocationCmName obj := by
  unfold readRevocationList at hlist
  obtain ⟨found, hread, h⟩ := Except.of_bind_ok h
  rw [hlist] at hread
  cases hread
  dsimp only at h
  cases happly : ans.resolve.applyRevocationCm with
  | error e =>
      rw [happly] at h
      cases h
      rfl
  | ok _ =>
      rw [happly] at h
      cases h
      rfl

/-- The Deployment of a pass mounts the list that resolved, and only such. -/
theorem mountsFile_deployment_iff (configHash cmName : String) :
    mountsFile (r.deployment cfg obj ns configHash) revocationListMountPath
        cmName "list.json" ↔
      ∃ resolved, r.revocationList = some resolved ∧
        resolved.mount.configMapName = cmName := by
  unfold mountsFile Resolved.deployment buildDeployment
  dsimp only
  constructor
  · rintro ⟨volume, dir, file, hvolume, _, _⟩
    obtain ⟨_, _, _, mount, hmount, hname⟩ :=
      (configMap_items_mem_iff _ _ _).mp hvolume
    obtain ⟨resolved, hresolved, rfl⟩ := Option.map_eq_some_iff.mp hmount
    exact ⟨resolved, hresolved, hname⟩
  · rintro ⟨resolved, hresolved, hname⟩
    refine ⟨"revocation-list", revocationListMountDir, "list.json",
      (configMap_items_mem_iff _ _ _).mpr ⟨rfl, rfl, rfl, _, ?_, hname⟩,
      ?_, by decide⟩
    · rw [hresolved]
      rfl
    · rw [hresolved]
      unfold buildVolumeMounts
      exact List.mem_append_left _ (List.mem_append_right _
        (List.mem_singleton_self _))

theorem pathIffMount_of_listProjected
    (h : ListProjected libs stored ans obj) :
    PathIffMount libs cfg stored ans obj := by
  intro config cm dep hconfig hdep
  obtain ⟨ns, r, happlies⟩ := applies_of_mem hconfig rfl
  obtain ⟨heq, _⟩ := happlies.carries_of_mem hconfig
  obtain ⟨rendered, _, hdeployment⟩ := happlies.carries_of_mem hdep
  have hresolve := (of_resolveStep_ok happlies.resolved).2.1
  have hreaches := (deployment_mem_iff happlies cfg).mp ⟨dep, hdep⟩
  obtain ⟨hnamed, hprojected⟩ :=
    h (ns, r) (comesToApply_eq_some.mpr happlies) hreaches
  constructor
  · rintro ⟨resolved, hresolved⟩ _
    have hr : r.revocationList = some resolved := by
      rw [hresolve] at hresolved
      exact Except.ok.inj hresolved
    rcases hread : readRevocationList ans obj with e | _ | rl
    · -- the resolver fails with the read
      unfold readRevocationList at hread
      obtain ⟨_, hfound, _⟩ := Except.of_bind_ok hresolve
      rw [hread] at hfound
      cases hfound
    · -- a list that is not there was not named, so nothing resolved
      have hsome := (resolveRevocationList_isSome_iff hresolve).mp
        (by rw [hr]; rfl)
      exact absurd (hnamed hread)
        (hsome.resolve_left fun hne => hne hread)
    · have hname := configMapName_of_resolveRevocationList hresolved hread
      refine ⟨rl, revocationCmName obj, rfl, revocationCmName_ne_empty obj,
        ?_, ?_⟩
      · rw [hdeployment]
        exact (mountsFile_deployment_iff _ _).mpr ⟨resolved, hr, hname⟩
      · rw [content_afterPass happlies hread]
        rcases hprojected rl hread with hok | hstored
        · rw [hok]
          rfl
        · rw [hstored]
          split <;> rfl
  · rintro ⟨cmName, hmounts⟩
    rw [hdeployment] at hmounts
    obtain ⟨resolved, hr, _⟩ := (mountsFile_deployment_iff _ _).mp hmounts
    rw [heq]
    refine carriesPath_renderConfig libs.render cfg obj ns ?_
    show r.revocationList.isSome = true
    rw [hr]
    rfl

theorem listProjected_of_pathIffMount
    (h : PathIffMount libs cfg stored ans obj) :
    ListProjected libs stored ans obj := by
  intro ⟨ns, r⟩ hcomes hreaches
  have happlies := comesToApply_eq_some.mp hcomes
  obtain ⟨cm, hconfig⟩ := happlies.configMap_mem cfg
  obtain ⟨dep, hdep⟩ := (deployment_mem_iff happlies cfg).mpr hreaches
  obtain ⟨rendered, _, hdeployment⟩ := happlies.carries_of_mem hdep
  have hresolve := (of_resolveStep_ok happlies.resolved).2.1
  have hsome := resolveRevocationList_isSome_iff hresolve
  -- whatever resolved is in the config, and so usable
  have husable : r.revocationList.isSome = true →
      ∃ rl cmName, readRevocationList ans obj = .ok (some rl) ∧
        cmName ≠ "" ∧
        mountsFile dep revocationListMountPath cmName "list.json" ∧
        (stored.afterPass libs cfg ans obj).content cmName "list.json" =
          some (libs.resolve.renderRevocationListJson rl.spec).1 := by
    intro hr
    obtain ⟨resolved, hresolved⟩ := Option.isSome_iff_exists.mp hr
    exact (h _ _ _ hconfig hdep).1 ⟨resolved, hresolve.trans
      (congrArg Except.ok hresolved)⟩
      (carriesPath_renderConfig libs.render cfg obj ns hr)
  constructor
  · intro hread
    by_contra hnamed
    obtain ⟨rl, _, hfound, _⟩ := husable (hsome.mpr (.inr hnamed))
    rw [hread] at hfound
    cases hfound
  · intro rl hread
    have hne : readRevocationList ans obj ≠ .ok none := by
      rw [hread]
      exact fun heq => nomatch heq
    obtain ⟨rl', cmName, hfound, _, hmounts, hcontent⟩ :=
      husable (hsome.mpr (.inl hne))
    rw [hread] at hfound
    cases hfound
    rw [hdeployment] at hmounts
    obtain ⟨resolved, hr, rfl⟩ := (mountsFile_deployment_iff _ _).mp hmounts
    rw [configMapName_of_resolveRevocationList (hresolve.trans
      (congrArg Except.ok hr)) hread, content_afterPass happlies hread]
      at hcontent
    cases happly : ans.resolve.applyRevocationCm with
    | ok _ => exact .inl rfl
    | error e =>
        rw [happly] at hcontent
        exact .inr hcontent

/-- Path and mount go together, exactly when a pass that comes to the
Deployment found the list it looked for and projected it. -/
theorem pathIffMount_iff :
    PathIffMount libs cfg stored ans obj ↔
      ListProjected libs stored ans obj :=
  ⟨listProjected_of_pathIffMount, pathIffMount_of_listProjected⟩

end Passes

namespace Sample

/-- A gateway that names a list of its own. -/
def naming : MCPGGateway :=
  { metadata :=
      { name := some "edge", namespace_ := some "payments"
        finalizers := some [operatorFinalizer] }
    spec :=
      { image := { tag := some "0.1.0-beta.60" }, config := .obj []
        revocationListRef := some "payments" } }

/-- What the resolver makes of a list that is not there. -/
def listNotFound : ResolvedRevocationList :=
  { mount := { configMapName := "", contentHash := "" }
    condition :=
      resolveCondition CondType.revocationListReady "False"
        RevocationReason.notFound "MCPGRevocationList/payments not found" }

end Sample

/-- A named list that is not there: the config points at the mount, the
volume has no ConfigMap. -/
theorem not_pathIffMount_notFound :
    ¬ PathIffMount Sample.libs Sample.cfg (fun _ => none) Sample.answers
      Sample.naming := by
  intro h
  have hcomes : ("payments",
      { pluginSet := none, revocationList := some Sample.listNotFound
        cluster := none }) ∈
      comesToApply Sample.libs Sample.answers Sample.naming :=
    comesToApply_eq_some.mpr ⟨rfl, rfl, rfl⟩
  have hnone := (listProjected_of_pathIffMount h _ hcomes rfl).1 rfl
  cases hnone

end McpgOperator.Gateway
