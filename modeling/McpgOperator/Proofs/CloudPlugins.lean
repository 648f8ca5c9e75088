import McpgOperator.Lib.FirstClaim
import McpgOperator.Proofs.ConfigFrame

/-!
# The plugins a managed-cloud gateway is given

Four passes append to `plugins`: the standard backends, the sinks that the
observability block selects, and the coordinator that the cluster block
selects, with a traces block put in before the sinks are looked at. Each
entry claims its id behind what the config has, under either key, so the
passes are one sequence of claims.

What a pass over its own output comes to is told key by key: every write goes
to a key of the config that stands where the write puts it (`Json.Settled`),
with a value that the write would not change.
-/

namespace McpgOperator.Gateway

open McpgOperator.Kube McpgOperator.Templates Json FirstClaim

/-- An id, a class and the grants. -/
abbrev Wanted := String × String × List String

/-! ## Entries and the ids they take -/

/-- The plugins of a config that has them, or nothing yet. -/
def InlinePlugins (config : Json) (plugins : List Json) : Prop :=
  match config.get "plugins" with
  | none => plugins = []
  | some v => v = .arr plugins

/-- The ids of the entries, under either key. -/
def entryIds (entries : List Json) : List String :=
  entries.flatMap fun e =>
    ["id", "ref"].filterMap fun k => (e.get k).bind asStr

def wantedEntry (version : String) (p : Wanted) : Json :=
  ociEntry version p.1 p.2.1 p.2.2

theorem pluginIds_eq (config : Json) :
    pluginIds config = entryIds (pluginEntries config) := rfl

theorem entryIds_append (es fs : List Json) :
    entryIds (es ++ fs) = entryIds es ++ entryIds fs :=
  List.flatMap_append

theorem id_wantedEntry (version : String) (p : Wanted) :
    (wantedEntry version p).get "id" = some (.str p.1) :=
  get_withGrants_ne (by decide) _ _

theorem entryIds_wantedEntry (version : String) (p : Wanted) :
    entryIds [wantedEntry version p] = [p.1] := by
  have href : (wantedEntry version p).get "ref" = none :=
    get_withGrants_ne (by decide) _ _
  unfold entryIds
  rw [List.flatMap_singleton, List.filterMap_cons, List.filterMap_cons,
    id_wantedEntry, href]
  rfl

theorem entryIds_map (version : String) (ps : List Wanted) :
    entryIds (ps.map (wantedEntry version)) = ps.map (·.1) := by
  induction ps with
  | nil => rfl
  | cons p ps ih =>
      rw [List.map_cons, List.map_cons, ← List.singleton_append,
        entryIds_append, entryIds_wantedEntry, ih]
      rfl

theorem pluginEntries_of_inline {config : Json} {plugins : List Json}
    (h : InlinePlugins config plugins) : pluginEntries config = plugins := by
  unfold InlinePlugins at h
  unfold pluginEntries
  cases hget : config.get "plugins" with
  | none =>
      rw [hget] at h
      exact h.symm
  | some v =>
      rw [hget] at h
      subst h
      rfl

/-! ## First seen, first kept -/

/-- The fold that removes the later of two equal items. -/
theorem foldl_unseen {α : Type} [DecidableEq α] (xs : List α) :
    xs.foldl (fun seen x => if seen.contains x then seen else seen ++ [x])
      [] = claims id [] xs := by
  have hpush : ∀ ys seen : List α,
      ys.foldl (fun seen x => seen ++ [x]) seen = seen ++ ys := by
    intro ys
    induction ys with
    | nil => exact fun seen => (List.append_nil seen).symm
    | cons y ys ih =>
        intro seen
        rw [List.foldl_cons, ih, List.append_assoc, List.singleton_append]
  rw [foldl_eq id id (fun seen x => seen ++ [x]) ?_ ?_ ?_, hpush]
  · rfl
  · intro seen x h
    exact if_pos (List.contains_iff_mem.mpr h)
  · intro seen x h
    exact if_neg fun hmem => h (List.contains_iff_mem.mp hmem)
  · exact fun _ _ => rfl

theorem nodup_cloudDefaultPluginIds (overrideCsv : Option String) :
    (cloudDefaultPluginIds overrideCsv).Nodup := by
  unfold cloudDefaultPluginIds
  cases overrideCsv with
  | none => decide
  | some csv =>
      dsimp only
      rw [foldl_unseen, ← List.map_id (claims id [] _)]
      exact nodup_claims _

/-! ## The passes as claims -/

/-- The standard backends, or the listed ones. -/
def standardPlugins (cfg : OperatorConfig) : List Wanted :=
  (cloudDefaultPluginIds cfg.cloudDefaultPlugins).map fun id =>
    (id, "backend", (cloudDefaultBackendPlugins.lookup id).getD [])

/-- The first-party sinks that the observability block selects. -/
def sinkPlugins (config : Json) : List Wanted :=
  (configuredSinkKinds config).filterMap fun kind =>
    firstPartySinkPlugins.find? (·.1 = kind)

/-- The first-party coordinator that the cluster block selects. -/
def coordinatorPlugin (config : Json) : List Wanted :=
  (((config.getPath ["cluster", "kind"]).bind asStr).bind fun kind =>
    firstPartyClusterCoordinators.lookup kind).toList

def selectedPlugins (config : Json) : List Wanted :=
  sinkPlugins config ++ coordinatorPlugin config

/-- The default pipeline, where the operator has a collector. -/
def withTraces (cfg : OperatorConfig) (obj : MCPGGateway) (config : Json) :
    Json :=
  match cfg.defaultOtlpTracesUrl with
  | none => config
  | some url =>
      appendDefaultTracesBlock url (obj.metadata.name.getD "")
        (obj.metadata.namespace_.getD "") config

/-- The config as it is when the sinks are looked at. -/
def prepared (cfg : OperatorConfig) (obj : MCPGGateway) (config : Json) :
    Json :=
  withTraces cfg obj
    (appendCloudDefaultPlugins cfg.defaultPluginVersion
      (cloudDefaultPluginIds cfg.cloudDefaultPlugins)
      (setPluginCacheDir pluginCacheDir config))

section

variable {cfg : OperatorConfig} {obj : MCPGGateway} {version : String}

theorem appendClusterCoordinatorPlugin_eq (config : Json) :
    appendClusterCoordinatorPlugin version config =
      (coordinatorPlugin config).foldl (pushUnlessLoaded version) config := by
  unfold appendClusterCoordinatorPlugin coordinatorPlugin
  cases hkind : (config.getPath ["cluster", "kind"]).bind asStr with
  | none => rfl
  | some kind =>
      dsimp only
      rw [Option.bind_some]
      cases firstPartyClusterCoordinators.lookup kind with
      | none => rfl
      | some plugin => rfl

theorem keeps_foldl_pushUnlessLoaded (ps : List Wanted) {p : List String}
    (h : Diverges ["plugins"] p) :
    Keeps p fun config => ps.foldl (pushUnlessLoaded version) config :=
  keeps_foldl (fun plugin => keeps_pushUnlessLoaded version plugin h) ps

/-- What the config selects is read off two places. -/
theorem selectedPlugins_congr {config config' : Json}
    (hsinks : ∀ signal, getPath ["observability", signal, "sinks"] config' =
      getPath ["observability", signal, "sinks"] config)
    (hkind : getPath ["cluster", "kind"] config' =
      getPath ["cluster", "kind"] config) :
    selectedPlugins config' = selectedPlugins config := by
  unfold selectedPlugins sinkPlugins coordinatorPlugin configuredSinkKinds
  simp only [hsinks, hkind]

theorem selectedPlugins_foldl (ps : List Wanted) (config : Json) :
    selectedPlugins (ps.foldl (pushUnlessLoaded version) config) =
      selectedPlugins config :=
  selectedPlugins_congr
    (fun _ => keeps_foldl_pushUnlessLoaded ps (.of_ne (by decide)) config)
    (keeps_foldl_pushUnlessLoaded ps (.of_ne (by decide)) config)

theorem applyCloudDefaultPlugins_eq (hcloud : obj.spec.cloud.isSome = true)
    (config : Json) :
    applyCloudDefaultPlugins cfg obj config =
      (selectedPlugins (prepared cfg obj config)).foldl
        (pushUnlessLoaded cfg.defaultPluginVersion)
        (prepared cfg obj config) := by
  have hkind : ∀ c, coordinatorPlugin
      (appendObservabilitySinkPlugins cfg.defaultPluginVersion c) =
      coordinatorPlugin c := by
    intro c
    have hkeeps : getPath ["cluster", "kind"]
        (appendObservabilitySinkPlugins cfg.defaultPluginVersion c) =
        getPath ["cluster", "kind"] c :=
      keeps_appendObservabilitySinkPlugins _ (.of_ne (by decide)) c
    unfold coordinatorPlugin
    rw [hkeeps]
  have hpresent : ¬ obj.spec.cloud.isNone = true := by
    rw [Option.isNone_iff_eq_none]
    exact Option.isSome_iff_ne_none.mp hcloud
  unfold applyCloudDefaultPlugins
  rw [if_neg hpresent]
  dsimp only
  rw [appendClusterCoordinatorPlugin_eq, hkind]
  unfold selectedPlugins
  rw [List.foldl_append]
  rfl

theorem pluginIds_push (config : Json) (p : Wanted) :
    pluginIds (pushPluginEntry (wantedEntry version p) config) =
      pluginIds config ++ [p.1] := by
  unfold pushPluginEntry
  rw [pluginIds_eq, pluginEntries_set, entryIds_append,
    entryIds_wantedEntry, pluginIds_eq]

theorem pluginEntries_foldl (ps : List Wanted) (config : Json) :
    pluginEntries (ps.foldl (pushUnlessLoaded version) config) =
      pluginEntries config ++
        (claims (·.1) (pluginIds config) ps).map (wantedEntry version) := by
  have hpushed : ∀ (qs : List Wanted) (c : Json),
      pluginEntries (qs.foldl
        (fun c p => pushPluginEntry (wantedEntry version p) c) c) =
        pluginEntries c ++ qs.map (wantedEntry version) := by
    intro qs
    induction qs with
    | nil => exact fun c => (List.append_nil _).symm
    | cons q qs ih =>
        intro c
        rw [List.foldl_cons, ih, pushPluginEntry, pluginEntries_set,
          List.append_assoc, List.singleton_append, List.map_cons]
  rw [foldl_eq (fun p : Wanted => p.1) pluginIds
    (fun c p => pushPluginEntry (wantedEntry version p) c) ?_ ?_ ?_,
    hpushed]
  · intro c p h
    exact if_pos (List.contains_iff_mem.mpr h)
  · intro c p h
    exact if_neg fun hmem => h (List.contains_iff_mem.mp hmem)
  · exact pluginIds_push

theorem pluginEntries_standard (config : Json) :
    pluginEntries (appendCloudDefaultPlugins version
        (cloudDefaultPluginIds cfg.cloudDefaultPlugins) config) =
      pluginEntries config ++
        (claims (·.1) (pluginIds config) (standardPlugins cfg)).map
          (wantedEntry version) := by
  have hids : (standardPlugins cfg).map (·.1) =
      cloudDefaultPluginIds cfg.cloudDefaultPlugins := by
    unfold standardPlugins
    rw [List.map_map]
    exact List.map_id _
  have hnodup : ((standardPlugins cfg).map (·.1)).Nodup :=
    hids ▸ nodup_cloudDefaultPluginIds _
  rw [claims_eq_filter hnodup]
  unfold appendCloudDefaultPlugins standardPlugins
  cases cloudDefaultPluginIds cfg.cloudDefaultPlugins with
  | nil => exact (List.append_nil _).symm
  | cons id ids =>
      dsimp only [List.isEmpty_cons]
      rw [if_neg Bool.false_ne_true, pluginEntries_set, List.filter_map,
        List.map_map]
      refine congrArg _ ?_
      show List.map (renderCloudDefaultEntry version) _ =
        List.map (renderCloudDefaultEntry version) _
      refine congrArg _ (List.filter_congr fun x _ => ?_)
      simp

theorem keeps_prepared {p : List String} (hplugins : Diverges ["plugins"] p)
    (hregistry : Diverges ["gateway", "plugin_registry"] p)
    (hobs : Diverges ["observability"] p) :
    Keeps p (prepared cfg obj) := by
  intro config
  unfold prepared withTraces
  cases cfg.defaultOtlpTracesUrl with
  | none =>
      exact (keeps_appendCloudDefaultPlugins _ _ hplugins _).trans
        (keeps_ensurePath hregistry _ config)
  | some url =>
      exact (keeps_appendDefaultTracesBlock _ _ _ hobs _).trans
        ((keeps_appendCloudDefaultPlugins _ _ hplugins _).trans
          (keeps_ensurePath hregistry _ config))

theorem pluginEntries_prepared (config : Json) :
    pluginEntries (prepared cfg obj config) =
      pluginEntries config ++
        (claims (·.1) (pluginIds config) (standardPlugins cfg)).map
          (wantedEntry cfg.defaultPluginVersion) := by
  have hcache : pluginEntries (setPluginCacheDir pluginCacheDir config) =
      pluginEntries config :=
    pluginEntries_of_keeps (keeps_ensurePath (.of_ne (by decide)) _) config
  have htraces : ∀ c, pluginEntries (withTraces cfg obj c) =
      pluginEntries c := by
    intro c
    unfold withTraces
    cases cfg.defaultOtlpTracesUrl with
    | none => rfl
    | some url =>
        exact pluginEntries_of_keeps
          (keeps_appendDefaultTracesBlock _ _ _ (.of_ne (by decide))) c
  unfold prepared
  rw [htraces, pluginEntries_standard, pluginIds_eq, hcache]
  rfl

/-- All the passes wrote to the array. -/
theorem pluginEntries_applied (hcloud : obj.spec.cloud.isSome = true)
    (config : Json) :
    pluginEntries (applyCloudDefaultPlugins cfg obj config) =
      pluginEntries config ++
        (claims (·.1) (pluginIds config)
          (standardPlugins cfg ++
            selectedPlugins (prepared cfg obj config))).map
          (wantedEntry cfg.defaultPluginVersion) := by
  rw [applyCloudDefaultPlugins_eq hcloud, pluginEntries_foldl,
    pluginIds_eq (prepared cfg obj config), pluginEntries_prepared,
    claims_append, List.map_append, List.append_assoc, entryIds_append,
    entryIds_map]
  rfl

theorem selectedPlugins_applied (hcloud : obj.spec.cloud.isSome = true)
    (config : Json) :
    selectedPlugins (applyCloudDefaultPlugins cfg obj config) =
      selectedPlugins (prepared cfg obj config) := by
  rw [applyCloudDefaultPlugins_eq hcloud]
  exact selectedPlugins_foldl _ _

/-- What a pass wants loaded has an entry that names it. -/
theorem mem_pluginIds_applied (hcloud : obj.spec.cloud.isSome = true)
    (config : Json) {p : Wanted}
    (h : p ∈ standardPlugins cfg ++
      selectedPlugins (applyCloudDefaultPlugins cfg obj config)) :
    p.1 ∈ pluginIds (applyCloudDefaultPlugins cfg obj config) := by
  rw [selectedPlugins_applied hcloud] at h
  rw [pluginIds_eq, pluginEntries_applied hcloud, entryIds_append,
    entryIds_map, List.mem_append, mem_keys_iff]
  by_cases htaken : p.1 ∈ entryIds (pluginEntries config)
  · exact .inl htaken
  · exact .inr ⟨List.mem_map_of_mem h, htaken⟩

end

/-! ## A pass over its own output -/

section

variable {cfg : OperatorConfig} {obj : MCPGGateway} {version : String}

theorem foldl_loaded {ps : List Wanted} {config : Json}
    (h : ∀ p ∈ ps, p.1 ∈ pluginIds config) :
    ps.foldl (pushUnlessLoaded version) config = config := by
  induction ps with
  | nil => rfl
  | cons p ps ih =>
      obtain ⟨hfirst, hrest⟩ := List.forall_mem_cons.mp h
      have hskip : pushUnlessLoaded version config p = config :=
        if_pos (List.contains_iff_mem.mpr hfirst)
      rw [List.foldl_cons, hskip]
      exact ih hrest

/-- What the passes after the first do to a config: they write the array of
plugins, and under `observability`. -/
inductive Written (config : Json) : Json → Prop
  | refl : Written config config
  | plugins {c : Json} (h : Written config c) (es : List Json) :
      Written config (Json.set "plugins" (.arr es) c)
  | observability {c : Json} (h : Written config c)
      (f : Option Json → Json) : Written config (update "observability" f c)

theorem Written.trans {a b c : Json} (hab : Written a b)
    (hbc : Written b c) : Written a c := by
  induction hbc with
  | refl => exact hab
  | plugins _ es ih => exact ih.plugins es
  | observability _ f ih => exact ih.observability f

theorem written_standard (ids : List String) (config : Json) :
    Written config (appendCloudDefaultPlugins version ids config) := by
  unfold appendCloudDefaultPlugins
  split
  · exact .refl
  · exact Written.refl.plugins _

theorem written_withTraces (config : Json) :
    Written config (withTraces cfg obj config) := by
  unfold withTraces
  cases cfg.defaultOtlpTracesUrl with
  | none => exact .refl
  | some url =>
      dsimp only
      unfold appendDefaultTracesBlock
      split
      · exact .refl
      · split
        · exact Written.refl.observability _
        · exact .refl

theorem written_foldl (ps : List Wanted) (config : Json) :
    Written config (ps.foldl (pushUnlessLoaded version) config) := by
  induction ps generalizing config with
  | nil => exact .refl
  | cons p ps ih =>
      have hfirst : Written config (pushUnlessLoaded version config p) := by
        obtain ⟨id, class_, grants⟩ := p
        dsimp only [pushUnlessLoaded]
        split
        · exact .refl
        · exact Written.refl.plugins _
      exact hfirst.trans (ih _)

theorem Written.settled {key : String} {c c' : Json} (h : Written c c')
    (hc : Settled key c) : Settled key c' := by
  induction h with
  | refl => exact hc
  | plugins _ es ih => exact ih.update _ _
  | observability _ f ih => exact ih.update _ _

theorem Written.get {key : String} (hplugins : key ≠ "plugins")
    (hobs : key ≠ "observability") {c c' : Json} (h : Written c c') :
    c'.get key = c.get key := by
  induction h with
  | refl => rfl
  | plugins _ es ih => rw [get_set_ne hplugins, ih]
  | observability _ f ih => rw [get_update_ne hobs, ih]

/-- Only the array is ever put under `plugins`. -/
theorem Written.array {c c' : Json} (h : Written c c')
    (hc : ∀ v, c.get "plugins" = some v → ∃ es, v = .arr es) :
    ∀ v, c'.get "plugins" = some v → ∃ es, v = .arr es := by
  induction h with
  | refl => exact hc
  | plugins _ es _ =>
      intro v hv
      rw [get_set_self] at hv
      exact ⟨es, (Option.some.inj hv).symm⟩
  | observability _ f ih =>
      intro v hv
      rw [get_update_ne (by decide)] at hv
      exact ih v hv

theorem Written.object {c c' : Json} (h : Written c c')
    (hc : ∃ m, c = .obj m) : ∃ m, c' = .obj m := by
  cases h with
  | refl => exact hc
  | plugins _ es => exact ⟨_, rfl⟩
  | observability _ f => exact ⟨_, rfl⟩

/-- A value that the write made, and that stands where it goes, is not
written again. -/
theorem update_again {key : String} {f : Option Json → Json}
    {config config' : Json} (hf : ∀ x, f (some (f x)) = f x)
    (hsettled : Settled key config')
    (hget : config'.get key = (update key f config).get key) :
    update key f config' = config' := by
  refine hsettled.update_self fun x hx => ?_
  rw [hget, get_update_self] at hx
  cases hx
  exact hf _

/-! ### The cache directory -/

/-- What `set_plugin_cache_dir` makes of `gateway`. -/
def cacheDirInto (dir : String) (x : Option Json) : Json :=
  ensurePath ["plugin_registry"]
    (update "cache_dir" fun x => x.getD (.str dir)) (x.getD (.obj []))

theorem setPluginCacheDir_eq (dir : String) (config : Json) :
    setPluginCacheDir dir config =
      update "gateway" (cacheDirInto dir) config := rfl

theorem cacheDirInto_again (dir : String) (x : Option Json) :
    cacheDirInto dir (some (cacheDirInto dir x)) = cacheDirInto dir x := by
  unfold cacheDirInto
  rw [Option.getD_some, ensurePath_ensurePath]
  refine ensurePath_congr ?_
  exact (settled_update "cache_dir" _ _).update_self fun _ _ => rfl

/-! ### The traces -/

/-- What `append_default_traces_block` makes of `observability`. -/
def tracesInto (url gatewayName ns : String) (x : Option Json) : Json :=
  match x.getD (.obj []) with
  | .obj obs =>
      if (Json.obj obs).get "traces" |>.isSome then .obj obs
      else Json.set "traces" (defaultTracesBlock url gatewayName ns) (.obj obs)
  | other => other

theorem appendDefaultTracesBlock_eq {url gatewayName ns : String}
    (hurl : url ≠ "") {config : Json} (hobj : ∃ m, config = .obj m) :
    appendDefaultTracesBlock url gatewayName ns config =
      update "observability" (tracesInto url gatewayName ns) config := by
  obtain ⟨m, rfl⟩ := hobj
  unfold appendDefaultTracesBlock
  rw [if_neg hurl]
  rfl

theorem tracesInto_of_traces {url gatewayName ns : String}
    {x : Option Json} {obs : JsonMap} (hx : x.getD (.obj []) = .obj obs)
    (h : (Json.obj obs).get "traces" ≠ none) :
    tracesInto url gatewayName ns x = .obj obs := by
  unfold tracesInto
  rw [hx]
  exact if_pos (Option.isSome_iff_ne_none.mpr h)

theorem tracesInto_of_none {url gatewayName ns : String}
    {x : Option Json} {obs : JsonMap} (hx : x.getD (.obj []) = .obj obs)
    (h : (Json.obj obs).get "traces" = none) :
    tracesInto url gatewayName ns x =
      Json.set "traces" (defaultTracesBlock url gatewayName ns)
        (.obj obs) := by
  unfold tracesInto
  rw [hx]
  dsimp only
  rw [h]
  rfl

theorem tracesInto_of_not_object {url gatewayName ns : String}
    {x : Option Json} (hx : ∀ obs, x.getD (.obj []) ≠ .obj obs) :
    tracesInto url gatewayName ns x = x.getD (.obj []) := by
  unfold tracesInto
  split
  · next obs hobs => exact absurd hobs (hx obs)
  · rfl

theorem tracesInto_again (url gatewayName ns : String) (x : Option Json) :
    tracesInto url gatewayName ns (some (tracesInto url gatewayName ns x)) =
      tracesInto url gatewayName ns x := by
  by_cases hobj : ∃ obs, x.getD (.obj []) = .obj obs
  · obtain ⟨obs, hx⟩ := hobj
    by_cases htraces : (Json.obj obs).get "traces" = none
    · rw [tracesInto_of_none hx htraces]
      refine tracesInto_of_traces rfl ?_
      have hset := get_set_self "traces"
        (defaultTracesBlock url gatewayName ns) (.obj obs)
      exact Option.ne_none_iff_exists'.mpr ⟨_, hset⟩
    · rw [tracesInto_of_traces hx htraces]
      exact tracesInto_of_traces rfl htraces
  · have hx := not_exists.mp hobj
    rw [tracesInto_of_not_object hx]
    exact tracesInto_of_not_object hx

/-! ### All of it -/

theorem written_applied (hcloud : obj.spec.cloud.isSome = true)
    (config : Json) :
    Written (setPluginCacheDir pluginCacheDir config)
      (applyCloudDefaultPlugins cfg obj config) := by
  rw [applyCloudDefaultPlugins_eq hcloud]
  exact ((written_standard _ _).trans (written_withTraces _)).trans
    (written_foldl _ _)

theorem setPluginCacheDir_applied (hcloud : obj.spec.cloud.isSome = true)
    (config : Json) :
    setPluginCacheDir pluginCacheDir
        (applyCloudDefaultPlugins cfg obj config) =
      applyCloudDefaultPlugins cfg obj config := by
  have hwritten : Written (setPluginCacheDir pluginCacheDir config)
      (applyCloudDefaultPlugins cfg obj config) :=
    written_applied hcloud config
  have hsettled : Settled "gateway"
      (setPluginCacheDir pluginCacheDir config) :=
    settled_update "gateway" (cacheDirInto pluginCacheDir) config
  exact update_again (cacheDirInto_again pluginCacheDir)
    (hwritten.settled hsettled) (hwritten.get (by decide) (by decide))

theorem array_applied (hcloud : obj.spec.cloud.isSome = true)
    {config : Json} {plugins : List Json}
    (hinline : InlinePlugins config plugins) :
    ∀ v, (applyCloudDefaultPlugins cfg obj config).get "plugins" = some v →
      v = .arr (pluginEntries (applyCloudDefaultPlugins cfg obj config)) := by
  have hstart : ∀ v, (setPluginCacheDir pluginCacheDir config).get
      "plugins" = some v → ∃ es, v = .arr es := by
    intro v hv
    rw [setPluginCacheDir_eq, get_update_ne (by decide)] at hv
    unfold InlinePlugins at hinline
    rw [hv] at hinline
    exact ⟨plugins, hinline⟩
  intro v hv
  obtain ⟨es, rfl⟩ := (written_applied hcloud config).array hstart v hv
  unfold pluginEntries
  rw [hv]
  rfl

theorem inline_applied_plugins (hcloud : obj.spec.cloud.isSome = true)
    {config : Json} {plugins : List Json}
    (hinline : InlinePlugins config plugins) :
    InlinePlugins (applyCloudDefaultPlugins cfg obj config)
      (pluginEntries (applyCloudDefaultPlugins cfg obj config)) := by
  unfold InlinePlugins
  cases hget : (applyCloudDefaultPlugins cfg obj config).get "plugins" with
  | none =>
      unfold pluginEntries
      rw [hget]
      rfl
  | some v => exact array_applied hcloud hinline v hget

theorem standard_applied (hcloud : obj.spec.cloud.isSome = true)
    {config : Json} {plugins : List Json}
    (hinline : InlinePlugins config plugins) :
    appendCloudDefaultPlugins cfg.defaultPluginVersion
        (cloudDefaultPluginIds cfg.cloudDefaultPlugins)
        (applyCloudDefaultPlugins cfg obj config) =
      applyCloudDefaultPlugins cfg obj config := by
  have hids : ∀ id ∈ cloudDefaultPluginIds cfg.cloudDefaultPlugins,
      id ∈ pluginIds (applyCloudDefaultPlugins cfg obj config) := by
    intro id hid
    exact mem_pluginIds_applied hcloud config
      (List.mem_append_left _ (List.mem_map_of_mem hid))
  have hfilter : (cloudDefaultPluginIds cfg.cloudDefaultPlugins).filter
      (fun id => !(pluginIds
        (applyCloudDefaultPlugins cfg obj config)).contains id) = [] := by
    rw [List.filter_eq_nil_iff]
    intro id hid
    rw [List.contains_iff_mem.mpr (hids id hid)]
    decide
  by_cases hnone : (cloudDefaultPluginIds cfg.cloudDefaultPlugins).isEmpty =
      true
  · exact if_pos hnone
  · have hsettled : Settled "plugins"
        (applyCloudDefaultPlugins cfg obj config) := by
      rw [applyCloudDefaultPlugins_eq hcloud]
      refine ((written_withTraces _).trans (written_foldl _ _)).settled ?_
      unfold appendCloudDefaultPlugins
      rw [if_neg hnone]
      exact settled_update _ _ _
    unfold appendCloudDefaultPlugins
    rw [if_neg hnone]
    dsimp only
    rw [hfilter, List.map_nil, List.append_nil]
    refine hsettled.update_self fun v hv => ?_
    exact (array_applied hcloud hinline v hv).symm

theorem withTraces_applied (hcloud : obj.spec.cloud.isSome = true)
    (config : Json) :
    withTraces cfg obj (applyCloudDefaultPlugins cfg obj config) =
      applyCloudDefaultPlugins cfg obj config := by
  have hobject : ∃ m, applyCloudDefaultPlugins cfg obj config = .obj m :=
    (written_applied hcloud config).object ⟨_, rfl⟩
  cases hurl : cfg.defaultOtlpTracesUrl with
  | none =>
      unfold withTraces
      rw [hurl]
  | some url =>
      have htraces : ∀ c, withTraces cfg obj c =
          appendDefaultTracesBlock url (obj.metadata.name.getD "")
            (obj.metadata.namespace_.getD "") c := by
        intro c
        unfold withTraces
        rw [hurl]
      rw [htraces]
      by_cases hempty : url = ""
      · exact if_pos hempty
      · -- what the first application wrote the sink pass left alone
        have hstandard : ∃ m, appendCloudDefaultPlugins
            cfg.defaultPluginVersion
            (cloudDefaultPluginIds cfg.cloudDefaultPlugins)
            (setPluginCacheDir pluginCacheDir config) = .obj m :=
          (written_standard _ _).object ⟨_, rfl⟩
        have hprepared := htraces (appendCloudDefaultPlugins
          cfg.defaultPluginVersion
          (cloudDefaultPluginIds cfg.cloudDefaultPlugins)
          (setPluginCacheDir pluginCacheDir config))
        rw [appendDefaultTracesBlock_eq hempty hstandard] at hprepared
        rw [appendDefaultTracesBlock_eq hempty hobject]
        have hsettled : Settled "observability"
            (applyCloudDefaultPlugins cfg obj config) := by
          rw [applyCloudDefaultPlugins_eq hcloud]
          refine (written_foldl _ _).settled ?_
          unfold prepared
          rw [hprepared]
          exact settled_update _ _ _
        have hget : (applyCloudDefaultPlugins cfg obj config).get
            "observability" =
            (prepared cfg obj config).get "observability" := by
          rw [applyCloudDefaultPlugins_eq hcloud, ← getPath_singleton,
            ← getPath_singleton]
          exact keeps_foldl_pushUnlessLoaded _ (.of_ne (by decide)) _
        unfold prepared at hget
        rw [hprepared] at hget
        exact update_again (tracesInto_again url _ _) hsettled hget

/-- The passes leave their own output alone. -/
theorem applied_twice (hcloud : obj.spec.cloud.isSome = true)
    {config : Json} {plugins : List Json}
    (hinline : InlinePlugins config plugins) :
    applyCloudDefaultPlugins cfg obj
        (applyCloudDefaultPlugins cfg obj config) =
      applyCloudDefaultPlugins cfg obj config := by
  have hprepared : prepared cfg obj
      (applyCloudDefaultPlugins cfg obj config) =
      applyCloudDefaultPlugins cfg obj config := by
    unfold prepared
    rw [setPluginCacheDir_applied hcloud, standard_applied hcloud hinline,
      withTraces_applied hcloud]
  rw [applyCloudDefaultPlugins_eq hcloud
    (applyCloudDefaultPlugins cfg obj config), hprepared]
  refine foldl_loaded fun p hp => ?_
  exact mem_pluginIds_applied hcloud config (List.mem_append_right _ hp)

end

/-! ## What is selected -/

/-- A signal of the observability block has a sink of the kind. -/
def SelectsSink (config : Json) (kind : String) : Prop :=
  ∃ signal ∈ ["metrics", "traces", "logs"], ∃ sinks s,
    config.getPath ["observability", signal, "sinks"] = some (.arr sinks) ∧
      s ∈ sinks ∧ s.get "kind" = some (.str kind)

theorem asStr_eq_some_iff {v : Json} {s : String} :
    asStr v = some s ↔ v = .str s := by
  cases v <;> simp [asStr]

theorem asArray_eq_some_iff {v : Json} {es : List Json} :
    asArray v = some es ↔ v = .arr es := by
  cases v <;> simp [asArray]

theorem mem_configuredSinkKinds {config : Json} {kind : String} :
    kind ∈ configuredSinkKinds config ↔ SelectsSink config kind := by
  unfold configuredSinkKinds
  dsimp only
  rw [foldl_unseen, ← List.map_id (claims id [] _), mem_keys_iff,
    List.map_id, List.mem_flatMap]
  constructor
  · rintro ⟨⟨signal, hsignal, hmem⟩, -⟩
    obtain ⟨s, hs, hkind⟩ := List.mem_filterMap.mp hmem
    obtain ⟨v, hv, hstr⟩ := Option.bind_eq_some_iff.mp hkind
    rw [asStr_eq_some_iff] at hstr
    subst hstr
    cases hsinks : (config.getPath ["observability", signal, "sinks"]).bind
        asArray with
    | none =>
        rw [hsinks] at hs
        exact absurd hs List.not_mem_nil
    | some sinks =>
        rw [hsinks] at hs
        obtain ⟨w, hw, harr⟩ := Option.bind_eq_some_iff.mp hsinks
        rw [asArray_eq_some_iff] at harr
        subst harr
        exact ⟨signal, hsignal, sinks, s, hw, hs, hv⟩
  · rintro ⟨signal, hsignal, sinks, s, hsinks, hs, hkind⟩
    refine ⟨⟨signal, hsignal, ?_⟩, List.not_mem_nil⟩
    rw [hsinks]
    refine List.mem_filterMap.mpr ⟨s, hs, ?_⟩
    rw [hkind]
    rfl

section

variable {cfg : OperatorConfig} {obj : MCPGGateway}

/-- The default pipeline takes nothing away. -/
theorem getPath_withTraces {signal : String} {rest : List String} {y : Json}
    {config : Json}
    (h : getPath ("observability" :: signal :: rest) config = some y) :
    getPath ("observability" :: signal :: rest)
      (withTraces cfg obj config) = some y := by
  unfold withTraces
  cases cfg.defaultOtlpTracesUrl with
  | none => exact h
  | some url =>
      dsimp only
      by_cases hempty : url = ""
      · unfold appendDefaultTracesBlock
        rw [if_pos hempty]
        exact h
      · rw [getPath_cons] at h
        obtain ⟨x, hx, hpath⟩ := Option.bind_eq_some_iff.mp h
        rw [getPath_cons] at hpath
        obtain ⟨z, hz, hrest⟩ := Option.bind_eq_some_iff.mp hpath
        have hconfig : ∃ m, config = .obj m := by
          cases config with
          | obj m => exact ⟨m, rfl⟩
          | _ => cases hx
        obtain ⟨obs, rfl⟩ : ∃ obs, x = .obj obs := by
          cases x with
          | obj obs => exact ⟨obs, rfl⟩
          | _ => cases hz
        rw [appendDefaultTracesBlock_eq hempty hconfig, getPath_cons,
          get_update_self, Option.bind_some, hx, getPath_cons]
        by_cases htraces : (Json.obj obs).get "traces" = none
        · have hne : signal ≠ "traces" := by
            rintro rfl
            rw [htraces] at hz
            cases hz
          rw [tracesInto_of_none rfl htraces, get_set_ne hne, hz]
          exact hrest
        · rw [tracesInto_of_traces rfl htraces, hz]
          exact hrest

theorem selects_applied (hcloud : obj.spec.cloud.isSome = true)
    {config : Json} {kind : String} (h : SelectsSink config kind) :
    SelectsSink (applyCloudDefaultPlugins cfg obj config) kind := by
  obtain ⟨signal, hsignal, sinks, s, hsinks, hs, hkind⟩ := h
  refine ⟨signal, hsignal, sinks, s, ?_, hs, hkind⟩
  rw [applyCloudDefaultPlugins_eq hcloud,
    keeps_foldl_pushUnlessLoaded _ (.of_ne (by decide))]
  refine getPath_withTraces ?_
  rw [keeps_appendCloudDefaultPlugins _ _ (.of_ne (by decide)),
    setPluginCacheDir, keeps_ensurePath (.of_ne (by decide))]
  exact hsinks

/-- The default pipeline selects the OTLP sink. -/
theorem selects_injected (hcloud : obj.spec.cloud.isSome = true)
    {config : Json} {url : String}
    (hurl : cfg.defaultOtlpTracesUrl = some url) (hempty : url ≠ "")
    (hobs : ∀ v, config.get "observability" = some v → ∃ obs, v = .obj obs)
    (hnone : config.getPath ["observability", "traces"] = none) :
    SelectsSink (applyCloudDefaultPlugins cfg obj config)
      "dev.mcpg.observability.otlp" := by
  have hobject : ∃ m, appendCloudDefaultPlugins cfg.defaultPluginVersion
      (cloudDefaultPluginIds cfg.cloudDefaultPlugins)
      (setPluginCacheDir pluginCacheDir config) = .obj m :=
    (written_standard _ _).object ⟨_, rfl⟩
  have hget : (appendCloudDefaultPlugins cfg.defaultPluginVersion
      (cloudDefaultPluginIds cfg.cloudDefaultPlugins)
      (setPluginCacheDir pluginCacheDir config)).get "observability" =
      config.get "observability" := by
    rw [← getPath_singleton, ← getPath_singleton,
      keeps_appendCloudDefaultPlugins _ _ (.of_ne (by decide)),
      setPluginCacheDir, keeps_ensurePath (.of_ne (by decide))]
  obtain ⟨obs, hx, htraces⟩ : ∃ obs,
      (config.get "observability").getD (.obj []) = .obj obs ∧
        (Json.obj obs).get "traces" = none := by
    cases hobservability : config.get "observability" with
    | none => exact ⟨[], rfl, rfl⟩
    | some v =>
        obtain ⟨obs, rfl⟩ := hobs v hobservability
        refine ⟨obs, rfl, ?_⟩
        rw [getPath_cons, hobservability] at hnone
        rw [← getPath_singleton]
        exact hnone
  obtain ⟨s, hsinks, hkind⟩ : ∃ s,
      (defaultTracesBlock url (obj.metadata.name.getD "")
        (obj.metadata.namespace_.getD "")).get "sinks" = some (.arr [s]) ∧
        s.get "kind" = some (.str "dev.mcpg.observability.otlp") :=
    ⟨_, rfl, rfl⟩
  refine ⟨"traces", by decide, [s], s, ?_, List.mem_singleton_self s, hkind⟩
  rw [applyCloudDefaultPlugins_eq hcloud,
    keeps_foldl_pushUnlessLoaded _ (.of_ne (by decide))]
  unfold prepared withTraces
  rw [hurl]
  dsimp only
  rw [appendDefaultTracesBlock_eq hempty hobject, getPath_cons,
    get_update_self, Option.bind_some, hget, tracesInto_of_none hx htraces,
    getPath_cons, get_set_self, Option.bind_some, getPath_singleton]
  exact hsinks

theorem named_sink (hcloud : obj.spec.cloud.isSome = true) {config : Json}
    {p : Wanted} (hp : p ∈ firstPartySinkPlugins)
    (h : SelectsSink (applyCloudDefaultPlugins cfg obj config) p.1) :
    p.1 ∈ pluginIds (applyCloudDefaultPlugins cfg obj config) := by
  have hfind : ∀ q ∈ firstPartySinkPlugins,
      firstPartySinkPlugins.find? (·.1 = q.1) = some q := by decide
  refine mem_pluginIds_applied hcloud config
    (List.mem_append_right _ (List.mem_append_left _ ?_))
  exact List.mem_filterMap.mpr
    ⟨p.1, mem_configuredSinkKinds.mpr h, hfind p hp⟩

theorem named_coordinator (hcloud : obj.spec.cloud.isSome = true)
    {config : Json} {kind : String} {p : Wanted}
    (hkind : config.getPath ["cluster", "kind"] = some (.str kind))
    (hp : firstPartyClusterCoordinators.lookup kind = some p) :
    p.1 ∈ pluginIds (applyCloudDefaultPlugins cfg obj config) := by
  refine mem_pluginIds_applied hcloud config
    (List.mem_append_right _ (List.mem_append_right _ ?_))
  have hkeeps : getPath ["cluster", "kind"]
      (applyCloudDefaultPlugins cfg obj config) =
      getPath ["cluster", "kind"] config :=
    keeps_applyCloudDefaultPlugins cfg obj (.of_ne (by decide))
      (.of_ne (by decide)) (.of_ne (by decide)) config
  unfold coordinatorPlugin
  rw [hkeeps, hkind]
  show p ∈ (firstPartyClusterCoordinators.lookup kind).toList
  rw [hp]
  exact List.mem_singleton_self p

end

/-! ## What the passes guarantee -/

/-- What the passes make of a config with these plugins: `added` goes behind
them, under ids that nothing names, and leaves what is selected named. -/
structure LoadsDefaults (cfg : OperatorConfig) (obj : MCPGGateway)
    (config : Json) (plugins added : List Json) : Prop where
  appends : InlinePlugins (applyCloudDefaultPlugins cfg obj config)
    (plugins ++ added)
  fresh : ∀ before e after, added = before ++ e :: after →
    ∃ id, e.get "id" = some (.str id) ∧ id ∉ entryIds (plugins ++ before)
  settles : applyCloudDefaultPlugins cfg obj
      (applyCloudDefaultPlugins cfg obj config) =
    applyCloudDefaultPlugins cfg obj config
  /-- The selection is read off the output, with what was injected. -/
  sinks : ∀ p ∈ firstPartySinkPlugins,
    SelectsSink (applyCloudDefaultPlugins cfg obj config) p.1 →
    p.1 ∈ entryIds (plugins ++ added)
  selected : ∀ kind, SelectsSink config kind →
    SelectsSink (applyCloudDefaultPlugins cfg obj config) kind
  injected : ∀ url, cfg.defaultOtlpTracesUrl = some url → url ≠ "" →
    (∀ v, config.get "observability" = some v → ∃ obs, v = .obj obs) →
    config.getPath ["observability", "traces"] = none →
    SelectsSink (applyCloudDefaultPlugins cfg obj config)
      "dev.mcpg.observability.otlp"
  coordinator : ∀ kind p,
    config.getPath ["cluster", "kind"] = some (.str kind) →
    firstPartyClusterCoordinators.lookup kind = some p →
    p.1 ∈ entryIds (plugins ++ added)

/-- The passes over a managed-cloud gateway whose plugins are an array or
not there. -/
theorem cloud_plugins_load (cfg : OperatorConfig) (obj : MCPGGateway)
    (config : JsonMap) (plugins : List Json)
    (hcloud : obj.spec.cloud.isSome = true)
    (hinline : InlinePlugins (.obj config) plugins) :
    ∃ added, LoadsDefaults cfg obj (.obj config) plugins added := by
  have hentries := pluginEntries_of_inline hinline
  have happlied : ∃ ps : List Wanted,
      pluginEntries (applyCloudDefaultPlugins cfg obj (.obj config)) =
        plugins ++ (claims (·.1) (entryIds plugins) ps).map
          (wantedEntry cfg.defaultPluginVersion) := by
    refine ⟨standardPlugins cfg ++
      selectedPlugins (prepared cfg obj (.obj config)), ?_⟩
    rw [pluginEntries_applied hcloud, pluginIds_eq, hentries]
  obtain ⟨ps, hps⟩ := happlied
  have hids := pluginIds_eq (applyCloudDefaultPlugins cfg obj (.obj config))
  rw [hps] at hids
  refine ⟨(claims (·.1) (entryIds plugins) ps).map
    (wantedEntry cfg.defaultPluginVersion), ?_⟩
  constructor
  case appends =>
    rw [← hps]
    exact inline_applied_plugins hcloud hinline
  case fresh =>
    intro before e after hadded
    obtain ⟨earlier, rest, hclaims, rfl, hrest⟩ :=
      List.map_eq_append_iff.mp hadded
    obtain ⟨p, later, rfl, rfl, -⟩ := List.map_eq_cons_iff.mp hrest
    refine ⟨_, id_wantedEntry _ _, ?_⟩
    rw [entryIds_append, entryIds_map]
    exact free_of_claims hclaims
  case settles => exact applied_twice hcloud hinline
  case sinks =>
    intro p hp hselects
    rw [← hids]
    exact named_sink hcloud hp hselects
  case selected =>
    intro kind h
    exact selects_applied hcloud h
  case injected =>
    intro url hurl hempty hobs hnone
    exact selects_injected hcloud hurl hempty hobs hnone
  case coordinator =>
    intro kind p hkind hp
    rw [← hids]
    exact named_coordinator hcloud hkind hp

namespace Sample

/-- One replica of a cluster on NATS, with metrics for Prometheus and the
HTTP backend loaded under a name of its own. -/
def selecting : JsonMap :=
  [("cluster", .obj [("kind", .str "nats")]),
    ("observability", .obj [("metrics", .obj [("sinks", .arr
      [.obj [("kind", .str "dev.mcpg.observability.prometheus")]])])]),
    ("plugins", .arr [.obj [("id", .str "http"),
      ("ref", .str "dev.mcpg.backend.http")]])]

def platform : OperatorConfig where
  defaultGatewayImageTag := "0.1.0-beta.60"
  defaultPluginVersion := "protocol-1"
  defaultOtlpTracesUrl := some "http://collector.observability:4318"

def tenantGateway : MCPGGateway where
  metadata := { name := some "acme-1", namespace_ := some "tenant-acme" }
  spec :=
    { cloud := some
        { instanceSlug := "acme-1", orgSlug := "acme"
          externalUrl := "https://acme-1.mcpg.example/mcp" } }

end Sample

open Sample in
/-- The passes over a gateway that selects a sink and a coordinator. -/
theorem cloud_plugins_load_selecting :
    ∃ added, LoadsDefaults platform tenantGateway (.obj selecting)
      [.obj [("id", .str "http"), ("ref", .str "dev.mcpg.backend.http")]]
      added :=
  cloud_plugins_load platform tenantGateway selecting _ rfl rfl

end McpgOperator.Gateway
