import McpgOperator.Lib.FirstClaim
import McpgOperator.Proofs.EventRoutes

/-!
# The federations a gateway is given

The servers that target a gateway claim their federation names one after the
other, behind the federations the config has of its own. What the loop writes
is therefore those federations, and one more for each claim that succeeds;
made again over its own output, every claim fails.

`FirstClaim` has the claims. What is left is the document: the place the
loop writes to is an array from the first server that targets the gateway.
-/

namespace McpgOperator.Gateway

open McpgOperator.Kube McpgOperator.Templates Json FirstClaim

/-! ## The loop as claims -/

/-- The names a reader of the federations finds. -/
def federationNames (federations : List Json) : List String :=
  federations.filterMap fun f => (f.get "name").bind asStr

/-- The federations of a config that has them, or nothing yet. -/
def InlineFederations (config : Json) (federations : List Json) : Prop :=
  match config.getPath federationsPath with
  | none => federations = []
  | some v => v = .arr federations

/-- The federation `apply_servers_to_config` makes of a server. -/
def serverFederation (api : ServerApi) (ns : String) (server : MCPGServer) :
    Json :=
  let name := serverFederationName api server
  let federate := server.spec.federate.getD { gatewayRef := "" }
  federation name (serverEndpoint api ns server)
    (federate.toolPrefix.getD (name ++ ".")) federate

/-- The servers whose federation goes in. -/
def fannedIn (api : ServerApi) (gatewayName ns : String)
    (servers : List MCPGServer) (federations : List Json) :
    List MCPGServer :=
  claims (serverFederationName api) (federationNames federations)
    (servers.filter (targets api gatewayName ns))

/-- The federations of the config replaced. -/
def writeFederations (federations : List Json) (config : Json) : Json :=
  ensurePath federationsPath (fun _ => .arr federations) config

theorem items_writeFederations (federations : List Json) (config : Json) :
    items federationsPath (writeFederations federations config) =
      federations := by
  unfold items writeFederations
  rw [getPath_ensurePath]
  rfl

theorem writeFederations_again (fs gs : List Json) (config : Json) :
    writeFederations gs (writeFederations fs config) =
      writeFederations gs config :=
  ensurePath_ensurePath _ _ _ _

theorem items_of_inline {config : Json} {federations : List Json}
    (h : InlineFederations config federations) :
    items federationsPath config = federations := by
  unfold InlineFederations at h
  unfold items
  cases hpath : config.getPath federationsPath with
  | none =>
      rw [hpath] at h
      exact h.symm
  | some v =>
      rw [hpath] at h
      subst h
      rfl

theorem inline_writeFederations (federations : List Json) (config : Json) :
    InlineFederations (writeFederations federations config)
      federations := by
  unfold InlineFederations writeFederations
  rw [getPath_ensurePath]

theorem hasFederation_iff {name : String} {federations : List Json} :
    hasFederation name federations = true ↔
      name ∈ federationNames federations := by
  unfold hasFederation federationNames
  rw [List.any_eq_true, List.mem_filterMap]
  simp only [beq_iff_eq]

theorem federationNames_append (fs gs : List Json) :
    federationNames (fs ++ gs) =
      federationNames fs ++ federationNames gs :=
  List.filterMap_append

section

variable {api : ServerApi} {gatewayName ns : String} {server : MCPGServer}

theorem name_serverFederation :
    (serverFederation api ns server).get "name" =
      some (.str (serverFederationName api server)) :=
  get_name_federation _ _ _ _

theorem url_serverFederation :
    (serverFederation api ns server).getPath ["upstream", "url"] =
      some (.str (serverEndpoint api ns server)) := by
  unfold serverFederation federation
  dsimp only
  rw [getPath_cons, get_setOptional_ne (by decide),
    get_setOptional_ne (by decide)]
  show getPath ["url"] (setOptional "auth" _ _) = _
  rw [getPath_singleton, get_setOptional_ne (by decide)]
  rfl

theorem federationNames_map (servers : List MCPGServer) :
    federationNames (servers.map (serverFederation api ns)) =
      servers.map (serverFederationName api) := by
  induction servers with
  | nil => rfl
  | cons server servers ih =>
      unfold federationNames at ih ⊢
      rw [List.map_cons, List.map_cons, List.filterMap_cons,
        name_serverFederation, ih]
      rfl

/-- A server that targets the gateway claims its name among those of the
config. -/
theorem applyServer_eq_claim (acc : Json × Nat)
    (h : targets api gatewayName ns server = true) :
    applyServer api gatewayName ns acc server =
      if serverFederationName api server ∈
          federationNames (items federationsPath acc.1) then
        (writeFederations (items federationsPath acc.1) acc.1, acc.2)
      else
        (writeFederations (items federationsPath acc.1 ++
            [serverFederation api ns server]) acc.1, acc.2 + 1) := by
  obtain ⟨federate, hfederate, happly⟩ := applyServer_of_targets acc h
  have hfederation : serverFederation api ns server =
      federation (serverFederationName api server)
        (serverEndpoint api ns server)
        (federate.toolPrefix.getD (serverFederationName api server ++ "."))
        federate := by
    unfold serverFederation
    rw [hfederate]
    rfl
  rw [happly, hfederation]
  by_cases htaken : hasFederation (serverFederationName api server)
      (items federationsPath acc.1) = true
  · rw [if_pos htaken, if_pos (hasFederation_iff.mp htaken)]
    rfl
  · rw [if_neg htaken, if_neg fun hmem => htaken (hasFederation_iff.mpr hmem)]
    rfl

/-- Over servers that all target the gateway, once the array is there. -/
theorem foldl_applyServer_write (config : Json) (n : Nat)
    {servers : List MCPGServer} (federations : List Json)
    (h : ∀ server ∈ servers, targets api gatewayName ns server = true) :
    servers.foldl (applyServer api gatewayName ns)
        (writeFederations federations config, n) =
      (writeFederations (federations ++
          (claims (serverFederationName api) (federationNames federations)
            servers).map (serverFederation api ns)) config,
        n + (claims (serverFederationName api)
          (federationNames federations) servers).length) := by
  induction servers generalizing federations n with
  | nil =>
      show (writeFederations federations config, n) =
        (writeFederations (federations ++ []) config, n + 0)
      rw [List.append_nil]
      rfl
  | cons server servers ih =>
      obtain ⟨hfirst, hrest⟩ := List.forall_mem_cons.mp h
      rw [List.foldl_cons, applyServer_eq_claim _ hfirst]
      dsimp only
      rw [items_writeFederations, writeFederations_again,
        writeFederations_again]
      by_cases htaken : serverFederationName api server ∈
          federationNames federations
      · rw [if_pos htaken, claims_cons_of_mem htaken]
        exact ih n federations hrest
      · have hnames : federationNames (federations ++
            [serverFederation api ns server]) =
            federationNames federations ++
              [serverFederationName api server] := by
          rw [federationNames_append]
          exact congrArg _ (federationNames_map [server])
        rw [if_neg htaken, claims_cons_of_free htaken, ih _ _ hrest, hnames,
          List.map_cons, List.length_cons, List.append_assoc,
          List.singleton_append, Nat.add_assoc, Nat.add_comm 1]

variable (api gatewayName ns) in
/-- What the pass makes of a config: nothing where no server targets the
gateway. -/
theorem applyServersToConfig_eq (servers : List MCPGServer)
    (config : Json) :
    applyServersToConfig api servers gatewayName ns config =
      if servers.any (targets api gatewayName ns) then
        (writeFederations (items federationsPath config ++
          (fannedIn api gatewayName ns servers
            (items federationsPath config)).map (serverFederation api ns))
            config,
          (fannedIn api gatewayName ns servers
            (items federationsPath config)).length)
      else (config, 0) := by
  -- the loop runs over the servers that target the gateway
  have hfilter : applyServersToConfig api servers gatewayName ns config =
      (servers.filter (targets api gatewayName ns)).foldl
        (applyServer api gatewayName ns) (config, 0) := by
    rw [List.foldl_filter]
    refine congrArg (fun step => servers.foldl step (config, 0)) ?_
    funext acc server
    cases htargets : targets api gatewayName ns server with
    | false => exact applyServer_of_not_targets acc htargets
    | true => rfl
  rw [hfilter]
  unfold fannedIn
  cases hthose : servers.filter (targets api gatewayName ns) with
  | nil =>
      have hnone : servers.any (targets api gatewayName ns) = false := by
        rw [List.any_eq_false]
        exact List.filter_eq_nil_iff.mp hthose
      rw [hnone]
      rfl
  | cons server rest =>
      have hall : ∀ s ∈ server :: rest,
          targets api gatewayName ns s = true := by
        intro s hs
        rw [← hthose] at hs
        exact (List.mem_filter.mp hs).2
      have hsome : servers.any (targets api gatewayName ns) = true := by
        rw [List.any_eq_true]
        have hmem : server ∈ servers.filter (targets api gatewayName ns) :=
          hthose ▸ List.mem_cons_self
        exact ⟨server, (List.mem_filter.mp hmem).1,
          (List.mem_filter.mp hmem).2⟩
      -- the first of them may as well find the array written
      have hstart : (server :: rest).foldl (applyServer api gatewayName ns)
          (config, 0) =
          (server :: rest).foldl (applyServer api gatewayName ns)
            (writeFederations (items federationsPath config) config, 0) := by
        have hfirst := hall server List.mem_cons_self
        rw [List.foldl_cons, List.foldl_cons,
          applyServer_eq_claim _ hfirst, applyServer_eq_claim _ hfirst]
        dsimp only
        rw [items_writeFederations, writeFederations_again,
          writeFederations_again]
      rw [hstart, foldl_applyServer_write _ _ _ hall, if_pos hsome,
        Nat.zero_add]

end

/-! ## What the fan-in guarantees -/

/-- What `apply_servers_to_config` does with a config that has these
federations: `added` goes behind them, and nothing else into the array. -/
structure FansInto (api : ServerApi) (gatewayName ns : String)
    (servers : List MCPGServer) (config : Json)
    (federations added : List Json) : Prop where
  appends : InlineFederations
    (applyServersToConfig api servers gatewayName ns config).1
    (federations ++ added)
  eligible : ∀ f ∈ added, ∃ server ∈ servers,
    targets api gatewayName ns server = true ∧
      f = serverFederation api ns server
  fresh : ∀ before f after, added = before ++ f :: after →
    ∃ name, f.get "name" = some (.str name) ∧
      name ∉ federationNames (federations ++ before)
  /-- Nobody listed before it has the name, nor the config. -/
  complete : ∀ before server after, servers = before ++ server :: after →
    targets api gatewayName ns server = true →
    serverFederationName api server ∉ federationNames federations →
    (∀ earlier ∈ before, targets api gatewayName ns earlier = true →
      serverFederationName api earlier ≠ serverFederationName api server) →
    ∃ f, (added.filter fun f => (f.get "name").bind asStr =
        some (serverFederationName api server)) = [f] ∧
      f.getPath ["upstream", "url"] =
        some (.str (serverEndpoint api ns server))
  counted : (applyServersToConfig api servers gatewayName ns config).2 =
    added.length
  settles : applyServersToConfig api servers gatewayName ns
      (applyServersToConfig api servers gatewayName ns config).1 =
    ((applyServersToConfig api servers gatewayName ns config).1, 0)

section

variable {api : ServerApi} {gatewayName ns : String}
  {servers : List MCPGServer} {config : Json} {federations : List Json}

theorem mem_fannedIn {server : MCPGServer}
    (h : server ∈ fannedIn api gatewayName ns servers federations) :
    server ∈ servers ∧ targets api gatewayName ns server = true :=
  List.mem_filter.mp ((claims_sublist _).subset h)

/-- Without a server that targets the gateway there is no claim. -/
theorem fannedIn_eq_nil
    (h : ¬ servers.any (targets api gatewayName ns) = true) :
    fannedIn api gatewayName ns servers federations = [] := by
  have hnone : servers.filter (targets api gatewayName ns) = [] := by
    rw [List.filter_eq_nil_iff]
    intro server hmem htargets
    exact h (List.any_eq_true.mpr ⟨server, hmem, htargets⟩)
  unfold fannedIn
  rw [hnone]
  rfl

theorem inline_applied (h : InlineFederations config federations) :
    InlineFederations
      (applyServersToConfig api servers gatewayName ns config).1
      (federations ++ (fannedIn api gatewayName ns servers
        federations).map (serverFederation api ns)) := by
  rw [applyServersToConfig_eq, items_of_inline h]
  split
  · exact inline_writeFederations _ _
  · next hnone =>
    rw [fannedIn_eq_nil hnone, List.map_nil, List.append_nil]
    exact h

theorem length_applied (h : InlineFederations config federations) :
    (applyServersToConfig api servers gatewayName ns config).2 =
      (fannedIn api gatewayName ns servers federations).length := by
  rw [applyServersToConfig_eq, items_of_inline h]
  split
  · rfl
  · next hnone =>
    rw [fannedIn_eq_nil hnone]
    rfl

/-- Over its own output every claim fails. -/
theorem applied_again (config : Json) :
    applyServersToConfig api servers gatewayName ns
        (applyServersToConfig api servers gatewayName ns config).1 =
      ((applyServersToConfig api servers gatewayName ns config).1, 0) := by
  by_cases hany : servers.any (targets api gatewayName ns) = true
  · have hfirst := applyServersToConfig_eq api gatewayName ns servers config
    rw [if_pos hany] at hfirst
    have hagain : fannedIn api gatewayName ns servers
        (items federationsPath config ++
          (fannedIn api gatewayName ns servers
            (items federationsPath config)).map
              (serverFederation api ns)) = [] := by
      unfold fannedIn
      rw [federationNames_append, federationNames_map]
      exact claims_again
    rw [hfirst, applyServersToConfig_eq, if_pos hany]
    dsimp only
    rw [items_writeFederations, hagain, List.map_nil, List.append_nil,
      writeFederations_again]
    rfl
  · have hidle : ∀ config, applyServersToConfig api servers gatewayName ns
        config = (config, 0) := by
      intro config
      rw [applyServersToConfig_eq, if_neg hany]
    rw [hidle, hidle]

theorem fresh_of_split {before after : List Json} {f : Json}
    (h : (fannedIn api gatewayName ns servers federations).map
      (serverFederation api ns) = before ++ f :: after) :
    ∃ name, f.get "name" = some (.str name) ∧
      name ∉ federationNames (federations ++ before) := by
  obtain ⟨earlier, rest, hclaims, rfl, hrest⟩ := List.map_eq_append_iff.mp h
  obtain ⟨server, later, rfl, rfl, -⟩ := List.map_eq_cons_iff.mp hrest
  refine ⟨_, name_serverFederation, ?_⟩
  rw [federationNames_append, federationNames_map]
  exact free_of_claims hclaims

/-- A server that comes with a free name has its federation, and no other
has the name. -/
theorem filter_of_split {before after : List MCPGServer}
    {server : MCPGServer} (hservers : servers = before ++ server :: after)
    (htargets : targets api gatewayName ns server = true)
    (hfree : serverFederationName api server ∉ federationNames federations)
    (hfirst : ∀ earlier ∈ before,
      targets api gatewayName ns earlier = true →
      serverFederationName api earlier ≠
        serverFederationName api server) :
    (((fannedIn api gatewayName ns servers federations).map
      (serverFederation api ns)).filter fun f =>
        (f.get "name").bind asStr =
          some (serverFederationName api server)) =
      [serverFederation api ns server] := by
  have hothers : ∀ earlier ∈ before.filter (targets api gatewayName ns),
      serverFederationName api earlier ≠
        serverFederationName api server := by
    intro earlier hmem
    obtain ⟨hmem, hearlier⟩ := List.mem_filter.mp hmem
    exact hfirst earlier hmem hearlier
  have hname : (fun f : Json => decide ((f.get "name").bind asStr =
      some (serverFederationName api server))) ∘ serverFederation api ns =
      fun other => decide (serverFederationName api other =
        serverFederationName api server) := by
    funext other
    show decide (((serverFederation api ns other).get "name").bind asStr =
      _) = _
    rw [name_serverFederation, Option.bind_some, asStr, decide_eq_decide]
    exact Option.some_inj
  unfold fannedIn
  rw [List.filter_map, hname, hservers, List.filter_append,
    List.filter_cons_of_pos htargets, filter_claims hfree hothers]
  rfl

end

/-- The fan-in, over a config whose federations are an array or not there:
the array as it was, and one federation behind it for each server that
targets the gateway and finds its name free. -/
theorem federations_fan_in (api : ServerApi) (gatewayName ns : String)
    (servers : List MCPGServer) (config : JsonMap)
    (federations : List Json)
    (hinline : InlineFederations (.obj config) federations) :
    ∃ added,
      FansInto api gatewayName ns servers (.obj config) federations
        added := by
  refine ⟨(fannedIn api gatewayName ns servers federations).map
    (serverFederation api ns), ?_⟩
  constructor
  case appends => exact inline_applied hinline
  case eligible =>
    intro f hf
    obtain ⟨server, hmem, rfl⟩ := List.mem_map.mp hf
    obtain ⟨hserver, htargets⟩ := mem_fannedIn hmem
    exact ⟨server, hserver, htargets, rfl⟩
  case fresh =>
    intro before f after hadded
    exact fresh_of_split hadded
  case complete =>
    intro before server after hservers htargets hfree hfirst
    exact ⟨_, filter_of_split hservers htargets hfree hfirst,
      url_serverFederation⟩
  case counted =>
    rw [length_applied hinline, List.length_map]
  case settles => exact applied_again _

namespace Sample

/-- A gateway with a federation of its own. -/
def federated : JsonMap :=
  [("mcp", .obj
    [("federations", .arr [.obj [("name", .str "github")]])])]

end Sample

open Sample in
/-- Two servers, the first under the name of the federation that is there. -/
theorem federations_fan_in_federated :
    ∃ added, FansInto libs.render.server "edge" "payments"
      [{ metadata := { name := some "github", namespace_ := some "payments" }
         spec := { federate := some { gatewayRef := "edge" } } },
        { metadata := { name := some "jira", namespace_ := some "payments" }
          spec := { federate := some { gatewayRef := "edge" } } }]
      (.obj federated) [.obj [("name", .str "github")]] added :=
  federations_fan_in _ _ _ _ federated _ rfl

end McpgOperator.Gateway
