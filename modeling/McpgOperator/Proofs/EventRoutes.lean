import McpgOperator.Proofs.FanIn

/-!
# The event callbacks an HTTPRoute forwards

The route of a managed-cloud gateway forwards a callback prefix where the
config serves it. It is built from `spec.config`, and the gateway runs the
rendered config, which has the federations of the servers as well: the two
agree on the inbound prefix always, and on the federated prefix unless the
only federations that import events were fanned in.
-/

namespace McpgOperator.Gateway

open McpgOperator.Kube McpgOperator.Templates McpgOperator.Cluster Json

/-! ## What a server adds -/

/-- A federation of the config imports event types. -/
def federatesEvents (config : Json) : Bool :=
  (items federationsPath config).any importsEvents

/-- The federation of the server, when it has one, imports event types. -/
def serverImportsEvents (server : MCPGServer) : Bool :=
  (server.spec.federate.bind (·.import_)).any fun import_ =>
    import_.get "events" == some (.bool true)

def serverFederationName (api : ServerApi) (server : MCPGServer) : String :=
  api.federationName server.spec server.metadata.nameAny

/-- The upstream of a server in that namespace. -/
def serverEndpoint (api : ServerApi) (ns : String) (server : MCPGServer) :
    String :=
  api.endpoint server.spec (serverChildName server) ns

/-- The server federates with the gateway, and its governance is valid. -/
def targets (api : ServerApi) (gatewayName gatewayNs : String)
    (server : MCPGServer) : Bool :=
  server.metadata.namespace_ == some gatewayNs &&
    server.spec.federate.any fun federate =>
      federate.gatewayRef == gatewayName &&
        (federateGovernanceError api federate).isNone

/-- Some server of the kind targets the gateway under a name that is not
taken, by the config or by a server listed before. -/
def FansInSuch (api : ServerApi) (gatewayName gatewayNs : String)
    (such : MCPGServer → Bool) (taken : String → Prop)
    (servers : List MCPGServer) : Prop :=
  ∃ before server after, servers = before ++ server :: after ∧
    targets api gatewayName gatewayNs server = true ∧
    such server = true ∧
    ¬ taken (serverFederationName api server) ∧
    ∀ earlier ∈ before, targets api gatewayName gatewayNs earlier = true →
      serverFederationName api earlier ≠ serverFederationName api server

/-- Some server that imports event types targets the gateway under a name
that is not taken, by the config or by a server listed before. -/
def FansInEvents (api : ServerApi) (gatewayName gatewayNs : String)
    (taken : String → Prop) (servers : List MCPGServer) : Prop :=
  FansInSuch api gatewayName gatewayNs serverImportsEvents taken servers

theorem get_setOptional_ne {key other : String} (h : other ≠ key)
    (x : Option Json) (v : Json) :
    (setOptional key x v).get other = v.get other := by
  cases x with
  | none => rfl
  | some x => exact get_set_ne h x v

theorem get_name_federation (name endpoint toolPrefix : String)
    (federate : ServerFederate) :
    (federation name endpoint toolPrefix federate).get "name" =
      some (.str name) := by
  unfold federation
  dsimp only
  rw [get_setOptional_ne (by decide), get_setOptional_ne (by decide)]
  rfl

theorem get_import_federation (name endpoint toolPrefix : String)
    (federate : ServerFederate) :
    (federation name endpoint toolPrefix federate).get "import" =
      federate.import_ := by
  unfold federation
  dsimp only
  cases federate.import_ with
  | some import_ => exact get_set_self _ _ _
  | none =>
      rw [setOptional, get_setOptional_ne (by decide)]
      rfl

theorem importsEvents_federation (name endpoint toolPrefix : String)
    {server : MCPGServer} {federate : ServerFederate}
    (h : server.spec.federate = some federate) :
    importsEvents (federation name endpoint toolPrefix federate) =
      serverImportsEvents server := by
  unfold importsEvents serverImportsEvents
  rw [getPath_cons, get_import_federation, h, Option.bind_some]
  cases federate.import_ with
  | none => rfl
  | some import_ =>
      rw [Option.bind_some, getPath_singleton]
      rfl

/-! ## One server, and all of them -/

section Servers

variable {api : ServerApi} {gatewayName ns : String}

theorem applyServer_of_not_targets {server : MCPGServer}
    (acc : Json × Nat) (h : targets api gatewayName ns server = false) :
    applyServer api gatewayName ns acc server = acc := by
  unfold applyServer
  split
  · next serverNs federate hns hfederate =>
    dsimp only
    refine if_pos ?_
    by_contra hall
    rw [not_or, not_or] at hall
    unfold targets at h
    rw [hns, hfederate] at h
    simp_all
  · rfl

/-- A server that targets the gateway claims its name. -/
theorem applyServer_of_targets {server : MCPGServer} (acc : Json × Nat)
    (h : targets api gatewayName ns server = true) :
    ∃ federate, server.spec.federate = some federate ∧
      applyServer api gatewayName ns acc server =
        if hasFederation (serverFederationName api server)
            (items federationsPath acc.1) = true then
          (ensurePath federationsPath
            (fun _ => .arr (items federationsPath acc.1)) acc.1, acc.2)
        else
          (ensurePath federationsPath
            (fun _ => .arr (items federationsPath acc.1 ++
              [federation (serverFederationName api server)
                (serverEndpoint api ns server)
                (federate.toolPrefix.getD
                  (serverFederationName api server ++ ".")) federate]))
            acc.1, acc.2 + 1) := by
  unfold targets at h
  rw [Bool.and_eq_true, Option.any_eq_true] at h
  obtain ⟨hns, federate, hfederate, hvalid⟩ := h
  rw [Bool.and_eq_true, beq_iff_eq, Option.isNone_iff_eq_none] at hvalid
  rw [beq_iff_eq] at hns
  have hpass : ¬ (ns ≠ ns ∨ federate.gatewayRef ≠ gatewayName ∨
      (federateGovernanceError api federate).isSome = true) := by
    rw [hvalid.1, hvalid.2]
    simp
  refine ⟨federate, hfederate, ?_⟩
  unfold applyServer
  rw [hns, hfederate]
  dsimp only
  rw [if_neg hpass]
  by_cases htaken : hasFederation (serverFederationName api server)
      (items federationsPath acc.1) = true
  · rw [if_pos htaken]
    exact if_pos htaken
  · rw [if_neg htaken]
    exact if_neg htaken

/-- The federations of the config after a server. -/
theorem items_applyServer (api : ServerApi) (gatewayName ns : String)
    (acc : Json × Nat) (server : MCPGServer) :
    (targets api gatewayName ns server = true ∧
      hasFederation (serverFederationName api server)
        (items federationsPath acc.1) = false ∧
      ∃ federate toolPrefix, server.spec.federate = some federate ∧
        items federationsPath
          (applyServer api gatewayName ns acc server).1 =
          items federationsPath acc.1 ++
            [federation (serverFederationName api server)
              (serverEndpoint api ns server) toolPrefix federate]) ∨
    ((targets api gatewayName ns server = true →
        hasFederation (serverFederationName api server)
          (items federationsPath acc.1) = true) ∧
      items federationsPath (applyServer api gatewayName ns acc server).1 =
        items federationsPath acc.1) := by
  have hwrite : ∀ federations : List Json,
      items federationsPath (ensurePath federationsPath
        (fun _ => .arr federations) acc.1) = federations := by
    intro federations
    unfold items
    rw [getPath_ensurePath]
    rfl
  cases htargets : targets api gatewayName ns server with
  | false =>
      refine .inr ⟨fun h => absurd h Bool.false_ne_true, ?_⟩
      rw [applyServer_of_not_targets acc htargets]
  | true =>
      obtain ⟨federate, hfederate, happly⟩ :=
        applyServer_of_targets acc htargets
      rw [happly]
      split
      · next htaken => exact .inr ⟨fun _ => htaken, hwrite _⟩
      · next hfree =>
        exact .inl ⟨rfl, Bool.eq_false_iff.mpr hfree, federate, _,
          hfederate, hwrite _⟩

theorem hasFederation_concat {name name' : String} {fs : List Json}
    {f : Json} (h : f.get "name" = some (.str name')) :
    hasFederation name (fs ++ [f]) = true ↔
      hasFederation name fs = true ∨ name' = name := by
  unfold hasFederation
  rw [List.any_append, Bool.or_eq_true, List.any_cons, h]
  simp [asStr]

/-- A server takes its name, if only by finding it taken. -/
theorem hasFederation_applyServer (acc : Json × Nat) (server : MCPGServer)
    (name : String) :
    hasFederation name (items federationsPath
        (applyServer api gatewayName ns acc server).1) = true ↔
      hasFederation name (items federationsPath acc.1) = true ∨
        (targets api gatewayName ns server = true ∧
          serverFederationName api server = name) := by
  rcases items_applyServer api gatewayName ns acc server with
    ⟨htargets, -, federate, toolPrefix, -, hitems⟩ | ⟨htaken, hitems⟩
  · rw [hitems, hasFederation_concat (get_name_federation _ _ _ _),
      htargets]
    simp
  · rw [hitems]
    refine ⟨.inl, fun h => h.elim id ?_⟩
    rintro ⟨htargets, rfl⟩
    exact htaken htargets

section Such

variable {holds : Json → Bool} {such : MCPGServer → Bool}

/-- What holds of the federation of a server is what the other says of the
server. -/
def Reflects (api : ServerApi) (ns : String) (holds : Json → Bool)
    (such : MCPGServer → Bool) : Prop :=
  ∀ server federate toolPrefix, server.spec.federate = some federate →
    holds (federation (serverFederationName api server)
      (serverEndpoint api ns server) toolPrefix federate) = such server

theorem any_items_applyServer (h : Reflects api ns holds such)
    (acc : Json × Nat) (server : MCPGServer) :
    (items federationsPath
        (applyServer api gatewayName ns acc server).1).any holds = true ↔
      (items federationsPath acc.1).any holds = true ∨
        (targets api gatewayName ns server = true ∧
          such server = true ∧
          ¬ hasFederation (serverFederationName api server)
            (items federationsPath acc.1) = true) := by
  rcases items_applyServer api gatewayName ns acc server with
    ⟨htargets, hfree, federate, toolPrefix, hfederate, hitems⟩ |
    ⟨htaken, hitems⟩
  · rw [hitems, List.any_append, Bool.or_eq_true, List.any_cons,
      h server federate toolPrefix hfederate, htargets, hfree]
    simp
  · rw [hitems]
    refine ⟨.inl, fun h => h.elim id ?_⟩
    rintro ⟨htargets, -, hfree⟩
    exact absurd (htaken htargets) hfree

theorem fansInSuch_cons {taken : String → Prop} {server : MCPGServer}
    {servers : List MCPGServer} :
    FansInSuch api gatewayName ns such taken (server :: servers) ↔
      (targets api gatewayName ns server = true ∧
        such server = true ∧
        ¬ taken (serverFederationName api server)) ∨
      FansInSuch api gatewayName ns such
        (fun name => taken name ∨
          (targets api gatewayName ns server = true ∧
            serverFederationName api server = name)) servers := by
  constructor
  · rintro ⟨before, found, after, heq, htargets, hsuch, hfree, hearlier⟩
    cases before with
    | nil =>
        obtain ⟨rfl, -⟩ := List.cons.inj heq
        exact .inl ⟨htargets, hsuch, hfree⟩
    | cons first before =>
        obtain ⟨rfl, rfl⟩ := List.cons.inj heq
        rw [List.forall_mem_cons] at hearlier
        refine .inr ⟨before, found, after, rfl, htargets, hsuch, ?_,
          hearlier.2⟩
        rintro (htaken | ⟨hfirst, hname⟩)
        · exact hfree htaken
        · exact hearlier.1 hfirst hname
  · rintro (⟨htargets, hsuch, hfree⟩ |
      ⟨before, found, after, rfl, htargets, hsuch, hfree, hearlier⟩)
    · exact ⟨[], server, servers, rfl, htargets, hsuch, hfree,
        fun _ h => absurd h List.not_mem_nil⟩
    · refine ⟨server :: before, found, after, rfl, htargets, hsuch,
        fun htaken => hfree (.inl htaken), List.forall_mem_cons.mpr
        ⟨fun hfirst hname => hfree (.inr ⟨hfirst, hname⟩), hearlier⟩⟩

/-- The servers are gone through in order, and each sees the names of those
before it. -/
theorem any_items_foldl (h : Reflects api ns holds such)
    (servers : List MCPGServer) (acc : Json × Nat) :
    (items federationsPath (servers.foldl
        (applyServer api gatewayName ns) acc).1).any holds = true ↔
      (items federationsPath acc.1).any holds = true ∨
        FansInSuch api gatewayName ns such
          (fun name =>
            hasFederation name (items federationsPath acc.1) = true)
          servers := by
  induction servers generalizing acc with
  | nil =>
      refine ⟨.inl, fun h => h.elim id ?_⟩
      rintro ⟨before, _, _, hnil, -⟩
      cases before <;> cases hnil
  | cons server servers ih =>
      rw [List.foldl_cons, ih, any_items_applyServer h, fansInSuch_cons,
        or_assoc]
      simp only [hasFederation_applyServer]

end Such

theorem federatesEvents_foldl (servers : List MCPGServer)
    (acc : Json × Nat) :
    federatesEvents
        (servers.foldl (applyServer api gatewayName ns) acc).1 = true ↔
      federatesEvents acc.1 = true ∨
        FansInEvents api gatewayName ns
          (fun name =>
            hasFederation name (items federationsPath acc.1) = true)
          servers :=
  any_items_foldl
    (fun _ _ _ hfederate => importsEvents_federation _ _ _ hfederate)
    servers acc

end Servers

/-! ## The rendered config -/

/-- A listed server imports events, under a name that is its own. -/
def FansIn (api : ServerApi) (obj : MCPGGateway)
    (listed : Except KubeError (List MCPGServer)) : Prop :=
  ∃ servers, listed = .ok servers ∧
    FansInEvents api (obj.metadata.name.getD "")
      (obj.metadata.namespace_.getD "")
      (fun name =>
        hasFederation name (items federationsPath obj.spec.config) = true)
      servers

section Rendering

variable {libs : RenderLibs} {cfg : OperatorConfig} {obj : MCPGGateway}
  {ns : String} {inputs : RenderInputs}

/-- No overlay writes where events are declared or switched on. -/
theorem getPath_renderConfig_of_events {p : List String}
    (hplugins : Diverges ["plugins"] p)
    (hgateway : Diverges ["gateway"] p) (hcluster : Diverges ["cluster"] p)
    (hgovernance : Diverges ["governance"] p)
    (hfederations : Diverges ["mcp", "federations"] p)
    (hmodes : ∀ mode ∈ ["poll", "push", "webhook"],
      Diverges ["mcp", "configurations", "events", mode] p)
    (hobs : Diverges ["observability"] p) :
    getPath p (renderConfig libs cfg obj ns inputs) =
      getPath p obj.spec.config := by
  rw [renderConfig_eq,
    keeps_applyCloudDefaultPlugins cfg obj hplugins
      (hgateway.append ["plugin_registry"]) hobs,
    keeps_injectCloudIdentity_of_events libs cfg obj
      (hgovernance.append ["access", "resource_metadata"])
      (hgateway.append ["server"])
      fun tag => keeps_injectEventsPolicy_of_modes _ _ tag hmodes,
    keeps_mergeServers _ _ _ _ hfederations,
    keeps_mergeRoutes _ _ _ _
      (hgovernance.append ["policy", "tool_access", "rules"])]
  exact getPath_referencesMerged obj inputs hplugins
    (hgateway.append ["plugin_registry"]) hcluster

theorem eventsEnabled_renderConfig :
    eventsEnabled (renderConfig libs cfg obj ns inputs) =
      eventsEnabled obj.spec.config := by
  unfold eventsEnabled
  rw [getPath_renderConfig_of_events (by decide) (by decide) (by decide)
    (by decide) (by decide) (by decide) (by decide)]

theorem servesInboundEvents_renderConfig :
    servesInboundEvents (renderConfig libs cfg obj ns inputs) =
      servesInboundEvents obj.spec.config := by
  unfold servesInboundEvents
  rw [eventsEnabled_renderConfig, getPath_renderConfig_of_events
    (by decide) (by decide) (by decide) (by decide) (by decide) (by decide)
    (by decide)]

theorem importsFederatedEvents_renderConfig
    (hns : obj.metadata.namespace_ = some ns) :
    importsFederatedEvents (renderConfig libs cfg obj ns inputs) = true ↔
      eventsEnabled obj.spec.config = true ∧
        (federatesEvents obj.spec.config = true ∨
          FansIn libs.server obj inputs.servers) := by
  have hfederations : federatesEvents (renderConfig libs cfg obj ns inputs) =
      federatesEvents
        (mergeServers libs.server obj ns inputs.servers
          obj.spec.config) := by
    unfold federatesEvents items
    rw [federations_renderConfig]
  show (eventsEnabled _ && federatesEvents _) = true ↔ _
  rw [eventsEnabled_renderConfig, Bool.and_eq_true, hfederations]
  refine and_congr_right fun _ => ?_
  unfold FansIn mergeServers applyServersToConfig
  rw [hns, Option.getD_some]
  cases inputs.servers with
  | error e =>
      refine ⟨.inl, fun h => h.elim id ?_⟩
      rintro ⟨servers, herror, -⟩
      cases herror
  | ok servers =>
      refine (federatesEvents_foldl servers (obj.spec.config, 0)).trans
        (or_congr_right ⟨fun h => ⟨servers, rfl, h⟩, ?_⟩)
      rintro ⟨servers', heq, h⟩
      obtain rfl := Except.ok.inj heq
      exact h

end Rendering

/-! ## The route of a pass -/

/-- The route forwards the event prefixes the config serves. -/
structure FollowsConfig (config : Json) (route : HTTPRoute) : Prop where
  federated : federatedEventsPrefix ∈ route.pathPrefixes ↔
    importsFederatedEvents config = true
  inbound : inboundEventsPrefix ∈ route.pathPrefixes ↔
    servesInboundEvents config = true

theorem mem_pathPrefixes {obj : MCPGGateway} {route : HTTPRoute}
    (h : buildHttproute obj = some route) :
    (federatedEventsPrefix ∈ route.pathPrefixes ↔
        importsFederatedEvents obj.spec.config = true) ∧
      (inboundEventsPrefix ∈ route.pathPrefixes ↔
        servesInboundEvents obj.spec.config = true) := by
  unfold buildHttproute at h
  split at h
  · cases h
  · cases h
    dsimp only
    cases servesInboundEvents obj.spec.config <;>
      cases importsFederatedEvents obj.spec.config <;> decide

/-- No event types come in by servers alone. -/
def NoneOnlyFannedIn (api : ServerApi) (obj : MCPGGateway)
    (listed : Except KubeError (List MCPGServer)) : Prop :=
  eventsEnabled obj.spec.config = true → FansIn api obj listed →
    federatesEvents obj.spec.config = true

theorem followsConfig_renderConfig_iff {libs : RenderLibs}
    {cfg : OperatorConfig} {obj : MCPGGateway} {ns : String}
    {inputs : RenderInputs} {route : HTTPRoute}
    (hns : obj.metadata.namespace_ = some ns)
    (hroute : buildHttproute obj = some route) :
    FollowsConfig (renderConfig libs cfg obj ns inputs) route ↔
      NoneOnlyFannedIn libs.server obj inputs.servers := by
  obtain ⟨hfederated, hinbound⟩ := mem_pathPrefixes hroute
  have hspec : importsFederatedEvents obj.spec.config = true ↔
      eventsEnabled obj.spec.config = true ∧
        federatesEvents obj.spec.config = true := by
    show (eventsEnabled _ && federatesEvents _) = true ↔ _
    rw [Bool.and_eq_true]
  constructor
  · intro h hevents hfans
    have himports : importsFederatedEvents
        (renderConfig libs cfg obj ns inputs) = true :=
      (importsFederatedEvents_renderConfig hns).mpr ⟨hevents, .inr hfans⟩
    exact (hspec.mp (hfederated.mp (h.federated.mpr himports))).2
  · intro h
    refine ⟨?_, ?_⟩
    · rw [hfederated, hspec, importsFederatedEvents_renderConfig hns]
      refine and_congr_right fun hevents => ⟨.inl, fun hany => ?_⟩
      exact hany.elim id (h hevents)
    · rw [hinbound, servesInboundEvents_renderConfig]

section Passes

variable {Backend Managed : Type} {libs : GatewayLibs Backend Managed}
  {cfg : OperatorConfig} {ans : GatewayAnswers Backend Managed}
  {obj : MCPGGateway}

/-- Every route the pass applies forwards what a config it applied
serves. -/
def RoutesFollow (p : Pass) : Prop :=
  ∀ route, .applyHttpRoute route ∈ p.trace →
    ∃ config cm, .applyConfigMap config cm ∈ p.trace ∧
      FollowsConfig config route

theorem routesFollow_iff {route : HTTPRoute}
    (h : .applyHttpRoute route ∈ (reconcileInner libs cfg ans obj).trace) :
    RoutesFollow (reconcileInner libs cfg ans obj) ↔
      NoneOnlyFannedIn libs.render.server obj ans.listServers := by
  obtain ⟨ns, r, happlies⟩ := applies_of_mem h rfl
  have hns := namespace_of_passNamespace happlies.past
  have hfollows : ∀ route, .applyHttpRoute route ∈
        (reconcileInner libs cfg ans obj).trace →
      (FollowsConfig (renderConfig libs.render cfg obj ns (r.inputs ans))
          route ↔ NoneOnlyFannedIn libs.render.server obj ans.listServers) :=
    fun _ hmem =>
      followsConfig_renderConfig_iff hns (happlies.carries_of_mem hmem)
  constructor
  · intro hall
    obtain ⟨config, cm, hmem, hconfig⟩ := hall route h
    rw [(happlies.carries_of_mem hmem).1] at hconfig
    exact (hfollows route h).mp hconfig
  · intro hnone route' hroute'
    obtain ⟨cm, hmem⟩ := happlies.configMap_mem cfg
    exact ⟨_, cm, hmem, (hfollows route' hroute').mpr hnone⟩

end Passes

namespace Sample

/-- A managed-cloud gateway that serves events, with these federations. -/
def eventful (federations : List Json) : MCPGGateway :=
  { metadata :=
      { name := some "edge", namespace_ := some "payments"
        finalizers := some [operatorFinalizer] }
    spec :=
      { image := { tag := some "0.1.0-beta.60" }
        cloud := some
          { instanceSlug := "edge", orgSlug := "acme"
            externalUrl := "https://edge.mcpg.example/mcp" }
        config := .obj
          [("mcp", .obj
            [("configurations", .obj
                [("events", .obj [("enabled", .bool true)])]),
              ("federations", .arr federations)])] } }

/-- A federation the author of the config wrote. -/
def mailbox : Json :=
  .obj
    [("import", .obj [("events", .bool true)]), ("name", .str "mailbox")]

/-- A server that federates with the gateway and imports event types. -/
def calendar : MCPGServer :=
  { metadata := { name := some "calendar", namespace_ := some "payments" }
    spec :=
      { federate := some
          { gatewayRef := "edge"
            import_ := some (.obj [("events", .bool true)]) } } }

def withCalendar : GatewayAnswers String Unit :=
  { answers with listServers := .ok [calendar] }

/-- The route without the event prefixes, and with the federated one. -/
def eventfulRoute (federated : Bool) : HTTPRoute :=
  { name := "edge-mcp", namespace_ := some "payments"
    parentName := "mcpg-cloud-gateway", parentNamespace := "mcpg-edge"
    hostnames := ["edge.mcpg.example"]
    pathPrefixes := ["/mcp", "/.well-known", "/oauth", "/aauth"] ++
      if federated then ["/webhooks/mcp-events"] else []
    backendName := "edge", backendPort := 8787 }

end Sample

/-- The inline federation brings the prefix, whoever fans in. -/
theorem routesFollow_mailbox :
    RoutesFollow (reconcileInner Sample.libs Sample.cfg Sample.withCalendar
      (Sample.eventful [Sample.mailbox])) := by
  have hroute : .applyHttpRoute (Sample.eventfulRoute true) ∈
      (reconcileInner Sample.libs Sample.cfg Sample.withCalendar
        (Sample.eventful [Sample.mailbox])).trace := by decide +kernel
  exact (routesFollow_iff hroute).mpr fun _ _ => by decide +kernel

/-- The pass of a gateway with nothing inline renders a config that imports
the calendar's events, and a route that drops their callbacks. -/
theorem not_routesFollow_calendar :
    ¬ RoutesFollow (reconcileInner Sample.libs Sample.cfg
      Sample.withCalendar (Sample.eventful [])) := by
  intro h
  have hroute : .applyHttpRoute (Sample.eventfulRoute false) ∈
      (reconcileInner Sample.libs Sample.cfg Sample.withCalendar
        (Sample.eventful [])).trace := by decide +kernel
  obtain ⟨config, cm, hmem, hfollows⟩ := h _ hroute
  obtain ⟨ns, r, happlies⟩ := applies_of_mem hmem rfl
  have hns := namespace_of_passNamespace happlies.past
  have himports : importsFederatedEvents config = true := by
    rw [(happlies.carries_of_mem hmem).1,
      importsFederatedEvents_renderConfig hns]
    refine ⟨by decide +kernel, .inr ⟨[Sample.calendar], rfl, [],
      Sample.calendar, [], rfl, by decide +kernel, by decide +kernel,
      by decide +kernel, fun _ h => nomatch h⟩⟩
  have hforwarded := hfollows.federated.mpr himports
  revert hforwarded
  decide

end McpgOperator.Gateway
