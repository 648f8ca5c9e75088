import McpgOperator.Kube.Conditions
import McpgOperator.Proofs.EventRoutes
import McpgOperator.Proofs.ImageGate
import McpgOperator.Proofs.ToolAccess
import McpgOperator.Route.Reconcile

/-!
# Whether a gateway has what claims to be bound to it

A route and a server report GatewayBound, each from its own controller; what
the gateway makes of them is decided where its config is rendered. For a
route the two decisions are the same one. For a server they are not: the
fan-in leaves a server out whose federation name is taken, and the server's
controller does not look at names.
-/

namespace McpgOperator.Gateway

open McpgOperator.Kube McpgOperator.Templates Json

/-! ## What is reported -/

theorem saysTrue_verdict {api : ConditionsApi} {cs us : List Condition}
    (hus : DistinctTypes us) {v : Route.Verdict} {type_ : String}
    {generation : Int} (hu : v.condition type_ generation ∈ us) :
    saysTrue type_ (api.setAll cs us) = v.ok := by
  refine (saysTrue_setAll hus hu).trans ?_
  unfold Route.Verdict.condition
  cases v.ok <;> rfl

theorem route_reports {libs : Route.RouteLibs} {ans : Route.RouteAnswers}
    {obj : MCPGRoute} {status : MCPGRouteStatus} {ns : String}
    {gateway : Option MCPGGateway}
    (hns : obj.metadata.namespace_ = some ns)
    (hget : ans.getGateway (libs.gateway.gatewayNamespace obj.spec ns)
      obj.spec.gatewayRef = .ok gateway)
    (h : .patchStatus status ∈ (Route.reconcileInner libs ans obj).trace) :
    saysTrue Route.CondType.gatewayBound status.conditions =
      (Route.gatewayBound libs.gateway obj ns gateway).ok := by
  unfold Route.reconcileInner at h
  split at h
  · cases h
  rw [hns] at h
  dsimp only at h
  split at h
  · split at h <;> cases h
  split at h
  · cases h
  rw [hget] at h
  rcases List.mem_cons.mp h with heq | hevent
  · cases heq
    refine saysTrue_verdict ?_ List.mem_cons_self
    show ["GatewayBound", "Ready", "ChainsEnforced"].Nodup
    decide
  · unfold Route.bindEvent at hevent
    split at hevent
    · cases hevent
    · cases List.mem_singleton.mp hevent

theorem bindingCondition_type (binding : Option Server.Binding)
    (generation : Int) :
    (Server.bindingCondition binding generation).type =
      Server.CondType.gatewayBound := by
  cases binding <;> rfl

theorem bindingCondition_true (binding : Option Server.Binding)
    (generation : Int) :
    ((Server.bindingCondition binding generation).status == "True") =
      binding.any (·.bound) := by
  cases binding with
  | none => rfl
  | some b =>
      obtain ⟨bound, reason, message⟩ := b
      cases bound <;> rfl

theorem readyCondition_type (libs : Server.ServerLibs) (obj : MCPGServer)
    (verdict : Server.ImageVerdict) (readyReplicas generation : Int) :
    (Server.readyCondition libs obj verdict readyReplicas generation).type =
      CType.ready := by
  unfold Server.readyCondition
  dsimp only
  split
  · rfl
  · split <;> rfl

theorem server_reports {libs : Server.ServerLibs}
    {ans : Server.ServerAnswers} {obj : MCPGServer}
    {status : MCPGServerStatus} {ns : String}
    {binding : Option Server.Binding}
    (hns : obj.metadata.namespace_ = some ns)
    (hbinding : Server.bindingOf libs ans obj ns = .ok binding)
    (h : .patchStatus status ∈ (Server.reconcileInner libs ans obj).trace) :
    saysTrue Server.CondType.gatewayBound status.conditions =
      binding.any (·.bound) := by
  unfold Server.reconcileInner at h
  split at h
  · cases h
  rw [hns] at h
  dsimp only at h
  split at h
  · split at h <;> cases h
  split at h
  · cases h
  have hreport := (Server.mem_applyThen h).resolve_left ?_
  · unfold Server.report at hreport
    dsimp only at hreport
    split at hreport
    · cases hreport
    rw [hbinding] at hreport
    rcases List.mem_append.mp hreport with hbind | hrest
    · obtain ⟨b, -, heq⟩ := Option.map_eq_some_iff.mp
        (Option.mem_toList.mp hbind)
      cases heq
    · rcases List.mem_cons.mp hrest with heq | hverify
      · cases heq
        rw [← bindingCondition_type binding (obj.metadata.generation.getD 0)]
        refine (saysTrue_setAll ?_ (by simp)).trans
          (bindingCondition_true _ _)
        show ["ImageVerified", (Server.readyCondition ..).type,
          (Server.bindingCondition ..).type].Nodup
        rw [readyCondition_type, bindingCondition_type]
        decide
      · unfold Server.verifyEvent at hverify
        split at hverify
        · cases hverify
        · cases List.mem_singleton.mp hverify
  · -- what is applied is a Deployment or a Service
    rintro ⟨before, answer, after, heq, -⟩
    have hmem : (.patchStatus status, answer) ∈ Server.workload libs ans obj
        (Server.imageVerdict ans.sigstore obj.spec) := by
      rw [heq]
      simp
    unfold Server.workload at hmem
    split at hmem
    · simp at hmem
    · cases hmem

/-! ## What is rendered -/

/-- The upstream of a federation. -/
def upstreamUrl (federation : Json) : Option String :=
  (federation.getPath ["upstream", "url"]).bind Json.asStr

theorem upstreamUrl_federation (name endpoint toolPrefix : String)
    (federate : ServerFederate) :
    upstreamUrl (federation name endpoint toolPrefix federate) =
      some endpoint := by
  unfold upstreamUrl federation
  dsimp only
  rw [getPath_cons, get_setOptional_ne (by decide),
    get_setOptional_ne (by decide)]
  show ((getPath ["url"] (setOptional "auth" federate.auth _)).bind
    Json.asStr) = _
  rw [getPath_singleton, get_setOptional_ne (by decide)]
  rfl

/-- A gateway, with what it resolved and what it lists when it renders. -/
structure FanIn where
  cfg : OperatorConfig
  gateway : MCPGGateway
  name : String
  named : gateway.metadata.name = some name
  ns : String
  view : Option ResolvedSetView := none
  revocationList : Bool := false
  clusterBlock : Option Json := none
  routes : List MCPGRoute
  servers : List MCPGServer

/-- The controllers' surroundings: they share the API crate. -/
structure Controllers where
  conditions : ConditionsApi
  render : RenderLibs
  workload : WorkloadApi

/-- An object that binds to a gateway, with the answers its controller
gets. -/
inductive Member
  | route (ans : Route.RouteAnswers) (route : MCPGRoute)
  | server (ans : Server.ServerAnswers) (server : MCPGServer)

/-- The conditions a pass of the object's controller reports. -/
def Member.reports (libs : Controllers) : Member → List (List Condition)
  | .route ans r =>
      (Route.reconcileInner
        { conditions := libs.conditions, gateway := libs.render.gateway }
        ans r).trace.filterMap fun
          | .patchStatus status => some status.conditions
          | _ => none
  | .server ans s =>
      (Server.reconcileInner
        { conditions := libs.conditions, server := libs.render.server
          workload := libs.workload } ans s).trace.filterMap fun
          | .patchStatus status => some status.conditions
          | _ => none

namespace FanIn

variable (libs : RenderLibs) (fan : FanIn)

def inputs : RenderInputs where
  view := fan.view
  revocationList := fan.revocationList
  clusterBlock := fan.clusterBlock
  routes := .ok fan.routes
  servers := .ok fan.servers

def config : Json :=
  renderConfig libs fan.cfg fan.gateway fan.ns fan.inputs

def target : RouteTarget where
  api := libs.gateway
  name := fan.name
  ns := fan.ns
  accepted := fan.gateway.spec.acceptedRouteNamespaces

/-- The gateway lists the object, and the object's controller finds the
gateway it names to be this one. -/
def Has : Member → Prop
  | .route ans route =>
      route ∈ fan.routes ∧ ∃ ns, route.metadata.namespace_ = some ns ∧
        libs.gateway.gatewayNamespace route.spec ns = fan.ns ∧
        route.spec.gatewayRef = fan.name ∧
        ans.getGateway fan.ns fan.name = .ok (some fan.gateway)
  | .server ans server =>
      server ∈ fan.servers ∧ server.metadata.namespace_ = some fan.ns ∧
        ∃ federate, server.spec.federate = some federate ∧
          federate.gatewayRef = fan.name ∧
          ans.getGateway fan.name = .ok true

/-- The fan-in merges the object: a route is selected and its predicate is on
the rule of each of its tools, a server is the upstream of a federation. -/
def Merges : Member → Prop
  | .route _ route =>
      route ∈ (fan.target libs).selected fan.routes ∧
        ∀ tool ∈ route.spec.tools,
          routePredicate route ∈ predicatesFor tool
            ((fan.target libs).selected fan.routes) ∧
          ∃ base, toolRule tool (fan.config libs) =
            some (foldedRule tool
              (toolCel tool ((fan.target libs).selected fan.routes)) base)
  | .server _ server =>
      ∃ f ∈ items federationsPath (fan.config libs),
        upstreamUrl f = some (serverEndpoint libs.server fan.ns server)

/-- The name is that of a federation of `spec.config`. -/
def Inline (name : String) : Prop :=
  hasFederation name (items federationsPath fan.gateway.spec.config) = true

/-- The server's federation name is nobody's before it. -/
def GetsName (server : MCPGServer) : Prop :=
  ¬ fan.Inline (serverFederationName libs.server server) ∧
    ∃ before after, fan.servers = before ++ server :: after ∧
      ∀ earlier ∈ before,
        targets libs.server fan.name fan.ns earlier = true →
        serverFederationName libs.server earlier ≠
          serverFederationName libs.server server

/-- A federation of `spec.config`, or a server that gets its name, has the
endpoint. -/
def Serves (endpoint : String) : Prop :=
  (∃ f ∈ items federationsPath fan.gateway.spec.config,
      upstreamUrl f = some endpoint) ∨
    ∃ server ∈ fan.servers,
      targets libs.server fan.name fan.ns server = true ∧
      fan.GetsName libs server ∧
      serverEndpoint libs.server fan.ns server = endpoint

/-- A server that is valid gets its name, unless its endpoint is served under
another, and the endpoint of one that is not is not served. -/
def Clear : Member → Prop
  | .route _ _ => True
  | .server _ server =>
      match server.spec.federate.bind (federateGovernanceError libs.server) with
      | none =>
          fan.GetsName libs server ∨
            fan.Serves libs (serverEndpoint libs.server fan.ns server)
      | some _ => ¬ fan.Serves libs (serverEndpoint libs.server fan.ns server)

theorem merges_server_iff {ans : Server.ServerAnswers} {server : MCPGServer} :
    fan.Merges libs (.server ans server) ↔
      fan.Serves libs (serverEndpoint libs.server fan.ns server) := by
  have hreflects : Reflects libs.server fan.ns
      (fun f =>
        upstreamUrl f == some (serverEndpoint libs.server fan.ns server))
      (fun s => serverEndpoint libs.server fan.ns s ==
        serverEndpoint libs.server fan.ns server) := by
    intro s federate toolPrefix _
    dsimp only
    rw [upstreamUrl_federation]
    rfl
  have hconfig : items federationsPath (fan.config libs) =
      items federationsPath (fan.servers.foldl
        (applyServer libs.server fan.name fan.ns)
        (fan.gateway.spec.config, 0)).1 := by
    unfold items config
    rw [federations_renderConfig]
    unfold mergeServers applyServersToConfig inputs
    dsimp only
    rw [fan.named, Option.getD_some]
  have hany := @any_items_foldl libs.server fan.name fan.ns _ _ hreflects
    fan.servers (fan.gateway.spec.config, 0)
  unfold Merges Serves
  rw [hconfig]
  rw [List.any_eq_true, List.any_eq_true] at hany
  simp only [beq_iff_eq] at hany
  refine hany.trans (or_congr_right ?_)
  constructor
  · rintro ⟨before, s, after, heq, htargets, hsame, hfree, hearlier⟩
    refine ⟨s, ?_, htargets, ⟨hfree, before, after, heq, hearlier⟩,
      beq_iff_eq.mp hsame⟩
    rw [heq]
    exact List.mem_append_right _ List.mem_cons_self
  · rintro ⟨s, -, htargets, ⟨hfree, before, after, heq, hearlier⟩, hsame⟩
    exact ⟨before, s, after, heq, htargets, beq_iff_eq.mpr hsame, hfree,
      hearlier⟩

theorem rules_config :
    items rulesPath (fan.config libs) =
      items rulesPath
        ((fan.target libs).apply fan.routes fan.gateway.spec.config).1 := by
  unfold items config
  rw [rules_renderConfig]
  unfold mergeRoutes inputs
  dsimp only
  rw [fan.named]
  rfl

/-- A route that is selected is on the rule of each of its tools. -/
theorem merges_route_iff {ans : Route.RouteAnswers} {route : MCPGRoute}
    (h : route ∈ fan.routes) :
    fan.Merges libs (.route ans route) ↔ (fan.target libs).Targets route := by
  constructor
  · rintro ⟨hselected, -⟩
    exact ((fan.target libs).mem_selected.mp hselected).2
  · intro htargets
    have hselected : route ∈ (fan.target libs).selected fan.routes :=
      (fan.target libs).mem_selected.mpr ⟨h, htargets⟩
    refine ⟨hselected, fun tool htool => ⟨mem_predicatesFor.mpr
      ⟨route, hselected, htool, rfl⟩, ?_⟩⟩
    have hrule := (fan.target libs).toolRule_apply
      ⟨route, h, htargets, htool⟩ fan.gateway.spec.config
    unfold toolRule at hrule ⊢
    rw [rules_config]
    exact ⟨_, hrule⟩

/-- The two controllers decide alike about routes. -/
theorem route_bound_iff {route : MCPGRoute} {ns : String}
    (hns : route.metadata.namespace_ = some ns)
    (hgatewayNs : libs.gateway.gatewayNamespace route.spec ns = fan.ns)
    (hname : route.spec.gatewayRef = fan.name) :
    (Route.gatewayBound libs.gateway route ns (some fan.gateway)).ok =
        true ↔ (fan.target libs).Targets route := by
  have hok : (Route.gatewayBound libs.gateway route ns
      (some fan.gateway)).ok = true ↔
      (fan.ns = ns ∨ ns ∈ fan.gateway.spec.acceptedRouteNamespaces) := by
    unfold Route.gatewayBound
    dsimp only
    rw [hgatewayNs]
    split
    · next h => exact iff_of_true rfl (h.imp_right List.contains_iff_mem.mp)
    · next h =>
      exact iff_of_false Bool.false_ne_true fun hns =>
        h (hns.imp_right List.contains_iff_mem.mpr)
  rw [hok]
  constructor
  · intro h
    exact ⟨ns, hns, hname, hgatewayNs, h.imp_left Eq.symm⟩
  · rintro ⟨ns', hns', -, -, h⟩
    rw [hns] at hns'
    obtain rfl := Option.some.inj hns'
    exact h.imp_left Eq.symm

theorem mem_reports_route {libs : Controllers} {ans : Route.RouteAnswers}
    {r : MCPGRoute} {cs : List Condition}
    (h : cs ∈ (Member.route ans r).reports libs) :
    ∃ status, .patchStatus status ∈
      (Route.reconcileInner
        { conditions := libs.conditions, gateway := libs.render.gateway }
        ans r).trace ∧ status.conditions = cs := by
  obtain ⟨e, he, hcs⟩ := List.mem_filterMap.mp h
  cases e with
  | patchStatus status => exact ⟨status, he, Option.some.inj hcs⟩
  | publish evt => cases hcs

theorem mem_reports_server {libs : Controllers}
    {ans : Server.ServerAnswers} {s : MCPGServer} {cs : List Condition}
    (h : cs ∈ (Member.server ans s).reports libs) :
    ∃ status, .patchStatus status ∈
      (Server.reconcileInner
        { conditions := libs.conditions, server := libs.render.server
          workload := libs.workload } ans s).trace ∧
      status.conditions = cs := by
  obtain ⟨e, he, hcs⟩ := List.mem_filterMap.mp h
  cases e with
  | patchStatus status => exact ⟨status, he, Option.some.inj hcs⟩
  | applyDeployment dep => cases hcs
  | applyService svc => cases hcs
  | publish evt => cases hcs

/-- A server that targets the gateway and gets its name is served. -/
theorem serves_of_getsName {server : MCPGServer}
    (htargets : targets libs.server fan.name fan.ns server = true)
    (h : fan.GetsName libs server) :
    fan.Serves libs (serverEndpoint libs.server fan.ns server) := by
  obtain ⟨-, before, after, heq, -⟩ := id h
  refine .inr ⟨server, ?_, htargets, h, rfl⟩
  rw [heq]
  exact List.mem_append_right _ List.mem_cons_self

/-- What is reported of a member agrees with what is rendered exactly when
the member is clear, which a route always is. -/
theorem agrees_iff {libs : Controllers} {fan : FanIn} {m : Member}
    (h : fan.Has libs.render m) {cs : List Condition}
    (hcs : cs ∈ m.reports libs) :
    (saysTrue "GatewayBound" cs = true ↔ fan.Merges libs.render m) ↔
      fan.Clear libs.render m := by
  cases m with
  | route ans r =>
      obtain ⟨hlisted, ns, hns, hgatewayNs, hname, hget⟩ := h
      obtain ⟨status, hstatus, rfl⟩ := mem_reports_route hcs
      have hget' : ans.getGateway
          (libs.render.gateway.gatewayNamespace r.spec ns)
          r.spec.gatewayRef = .ok (some fan.gateway) := by
        rw [hgatewayNs, hname, hget]
      have hreported := route_reports hns hget' hstatus
      refine iff_of_true ?_ trivial
      rw [merges_route_iff libs.render fan hlisted,
        ← route_bound_iff libs.render fan hns hgatewayNs hname, ← hreported]
      rfl
  | server ans s =>
      obtain ⟨hlisted, hns, federate, hfederate, hname, hget⟩ := h
      obtain ⟨status, hstatus, rfl⟩ := mem_reports_server hcs
      have hbinding : Server.bindingOf
          { conditions := libs.conditions, server := libs.render.server
            workload := libs.workload } ans s fan.ns =
          .ok (some (Server.gatewayBound libs.render.server federate fan.ns
            true)) := by
        unfold Server.bindingOf
        rw [hfederate]
        dsimp only
        rw [hname, hget]
        rfl
      have hreported := server_reports hns hbinding hstatus
      rw [merges_server_iff]
      unfold Clear
      dsimp only
      rw [hfederate, Option.bind_some]
      cases hgovernance :
          federateGovernanceError libs.render.server federate with
      | none =>
          have hbound : (Server.gatewayBound libs.render.server federate
              fan.ns true).bound = true := by
            unfold Server.gatewayBound
            rw [hgovernance]
            rfl
          have htargets : targets libs.render.server fan.name fan.ns s =
              true := by
            unfold targets
            rw [hns, hfederate, Option.any_some, hname, hgovernance]
            simp
          have htrue : saysTrue "GatewayBound" status.conditions = true :=
            hreported.trans hbound
          rw [iff_true_left htrue]
          exact (or_iff_right_of_imp
            (fan.serves_of_getsName libs.render htargets)).symm
      | some e =>
          have hbound : (Server.gatewayBound libs.render.server federate
              fan.ns true).bound = false := by
            unfold Server.gatewayBound
            rw [hgovernance]
          have hfalse : ¬ saysTrue "GatewayBound" status.conditions = true :=
            Bool.eq_false_iff.mp (hreported.trans hbound)
          exact iff_false_left hfalse

end FanIn

namespace Sample

/-- A gateway with these federations in its config, which lists one
server. -/
def lists (federations : List Json) (server : MCPGServer) : FanIn where
  cfg := cfg
  gateway := eventful federations
  name := "edge"
  named := rfl
  ns := "payments"
  routes := []
  servers := [server]

def controllers : Controllers where
  conditions := upsertConditions
  render := libs.render
  workload := Server.Sample.libs.workload

/-- A server whose finalizer is there already. -/
def settledCalendar : MCPGServer :=
  { calendar with
    metadata :=
      { calendar.metadata with finalizers := some [operatorFinalizer] } }

/-- Every request succeeds, and the gateway is there. -/
def calendarAnswers : Server.ServerAnswers :=
  { (Server.Sample.crmPass "" (.ok ())).ans with
    getGateway := fun _ => .ok true }

/-- The author's own federation of the calendar's name. -/
def inlineCalendar : Json :=
  .obj
    [("name", .str "calendar"),
      ("upstream", .obj [("url", .str "https://calendar.example/mcp")])]

end Sample

namespace FanIn

open Sample

/-- Nobody has the calendar's name: it is bound, and it is there. -/
theorem agrees_calendar :
    (Member.server calendarAnswers settledCalendar).reports controllers ≠
        [] ∧
      ∀ cs ∈ (Member.server calendarAnswers settledCalendar).reports
          controllers,
        (saysTrue "GatewayBound" cs = true ↔
          (lists [mailbox] settledCalendar).Merges libs.render
            (.server calendarAnswers settledCalendar)) := by
  refine ⟨List.ne_nil_of_length_pos (by decide +kernel), ?_⟩
  intro cs hcs
  have hhas : (lists [mailbox] settledCalendar).Has controllers.render
      (.server calendarAnswers settledCalendar) :=
    ⟨List.mem_cons_self, rfl, _, rfl, rfl, rfl⟩
  have hfree : ¬ (lists [mailbox] settledCalendar).Inline
      (serverFederationName libs.render.server settledCalendar) := by
    unfold FanIn.Inline
    decide +kernel
  refine (agrees_iff hhas hcs).mpr (.inl ⟨hfree, [], [], rfl, ?_⟩)
  intro earlier h
  exact absurd h List.not_mem_nil

/-- The name is taken: the calendar is bound, and the gateway has the
author's. -/
theorem not_agrees_inlineCalendar :
    (Member.server calendarAnswers settledCalendar).reports controllers ≠
        [] ∧
      ∀ cs ∈ (Member.server calendarAnswers settledCalendar).reports
          controllers,
        ¬ (saysTrue "GatewayBound" cs = true ↔
          (lists [inlineCalendar] settledCalendar).Merges libs.render
            (.server calendarAnswers settledCalendar)) := by
  refine ⟨List.ne_nil_of_length_pos (by decide +kernel), ?_⟩
  intro cs hcs hagrees
  have hbound : saysTrue "GatewayBound" cs = true :=
    List.all_eq_true.mp (by decide +kernel) cs hcs
  have hserves := (merges_server_iff _ _).mp (hagrees.mp hbound)
  rcases hserves with ⟨f, hf, hurl⟩ | ⟨s, hs, -, ⟨hfree, -⟩, -⟩
  · obtain rfl := List.mem_singleton.mp hf
    revert hurl
    decide +kernel
  · obtain rfl := List.mem_singleton.mp hs
    refine hfree ?_
    unfold FanIn.Inline
    decide +kernel

end FanIn

end McpgOperator.Gateway
