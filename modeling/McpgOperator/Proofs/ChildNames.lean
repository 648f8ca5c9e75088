import McpgOperator.Proofs.GatewayPass
import McpgOperator.Proofs.ImageGate

/-!
# Children of different parents

A child is named after its parent: the name itself or, where that does not
begin with a letter, the name behind a prefix; and behind it the role of the
child, which the Service of a gateway and both children of a server do
without. Applies are forced, so two parents of one namespace whose children
meet take turns at one object. Which names do meet is listed here, and no
others do.
-/

namespace McpgOperator.ChildNames

open McpgOperator.Kube McpgOperator.Gateway McpgOperator.Templates

/-! ## The children of a parent -/

inductive ChildKind
  | configMap
  | service
  | serviceAccount
  | deployment
  | httpRoute
  | horizontalPodAutoscaler
  | podDisruptionBudget
  deriving DecidableEq, Repr

abbrev Child := ChildKind × String

/-- What the passes of a gateway apply in its namespace. -/
def gatewayChildren (api : GatewayApi) (gw : MCPGGateway) : List Child :=
  [(.configMap, revocationCmName gw), (.configMap, childName gw "config"),
    (.service, serviceName gw), (.serviceAccount, serviceAccountName gw),
    (.deployment, childName gw "gateway")] ++
  ((buildHttproute gw).map fun route => (.httpRoute, route.name)).toList ++
  ((buildHpa gw).map fun hpa =>
    (.horizontalPodAutoscaler, hpa.name)).toList ++
  ((buildPdb api gw).map fun pdb => (.podDisruptionBudget, pdb.name)).toList

def serverChildren (server : MCPGServer) : List Child :=
  [(.deployment, serverChildName server), (.service, serverChildName server)]

inductive Parent
  | gateway (gw : MCPGGateway)
  | server (s : MCPGServer)

def Parent.name : Parent → String
  | .gateway gw => gw.metadata.name.getD ""
  | .server s => s.metadata.name.getD ""

def Parent.children (api : GatewayApi) : Parent → List Child
  | .gateway gw => gatewayChildren api gw
  | .server s => serverChildren s

/-- No child of the one has the kind and the name of a child of the
other. -/
def Apart (api : GatewayApi) (a b : Parent) : Prop :=
  ∀ c ∈ a.children api, c ∉ b.children api

instance (api : GatewayApi) (a b : Parent) : Decidable (Apart api a b) :=
  inferInstanceAs (Decidable (∀ c ∈ a.children api, c ∉ b.children api))

/-! ## What the passes apply is among them -/

section Passes

variable {Backend Managed : Type}

/-- The child an effect of the gateway's pass applies. -/
def appliedByGateway (gw : MCPGGateway) : Gateway.Effect → Option Child
  | .applyConfigMap _ cm => cm.name.map (.configMap, ·)
  | .applyService => some (.service, serviceName gw)
  | .applyServiceAccount => some (.serviceAccount, serviceAccountName gw)
  | .applyDeployment dep => some (.deployment, dep.name)
  | .applyHttpRoute route => some (.httpRoute, route.name)
  | .applyHpa hpa => some (.horizontalPodAutoscaler, hpa.name)
  | .applyPdb pdb => some (.podDisruptionBudget, pdb.name)
  | _ => none

theorem mem_gatewayChildren_of_applied
    {libs : GatewayLibs Backend Managed} {cfg : OperatorConfig}
    {ans : GatewayAnswers Backend Managed} {gw : MCPGGateway}
    {e : Gateway.Effect} {c : Child}
    (he : e ∈ (Gateway.reconcileInner libs cfg ans gw).trace)
    (hc : appliedByGateway gw e = some c) :
    c ∈ gatewayChildren libs.render.gateway gw := by
  have happly : e.isApply = true := by
    cases e <;> first | rfl | cases hc
  obtain ⟨ns, r, happlies⟩ := applies_of_mem he happly
  have hcarries := happlies.carries_of_mem he
  unfold gatewayChildren
  cases e with
  | applyConfigMap config cm =>
      obtain ⟨_, rfl⟩ := hcarries
      cases hc
      simp
  | applyDeployment dep =>
      obtain ⟨_, _, rfl⟩ := hcarries
      cases hc
      simp [Resolved.deployment, buildDeployment]
  | applyHttpRoute route =>
      cases hc
      simp [show buildHttproute gw = some route from hcarries]
  | applyHpa hpa =>
      cases hc
      simp [show buildHpa gw = some hpa from hcarries]
  | applyPdb pdb =>
      cases hc
      simp [show buildPdb libs.render.gateway gw = some pdb from hcarries]
  | applyService | applyServiceAccount =>
      cases hc
      simp
  | _ => cases hc

/-- The ConfigMap of the revocation list, which a pass applies before
those. -/
theorem mem_gatewayChildren_of_revocationList {libs : ResolveLibs}
    {ans : ResolveAnswers} {gw : MCPGGateway} {cm : ConfigMap}
    (api : GatewayApi) (h : revocationConfigmap libs ans gw = some cm) :
    ∃ name, cm.name = some name ∧
      (.configMap, name) ∈ gatewayChildren api gw := by
  unfold revocationConfigmap at h
  split at h
  · cases h
  · cases h
  · cases h
    refine ⟨revocationCmName gw, rfl, ?_⟩
    unfold gatewayChildren
    simp

/-- The child an effect of the server's pass applies. -/
def appliedByServer : Server.Effect → Option Child
  | .applyDeployment dep => some (.deployment, dep.name)
  | .applyService svc => some (.service, svc.name)
  | _ => none

theorem mem_serverChildren_of_applied {libs : Server.ServerLibs}
    {ans : Server.ServerAnswers} {s : MCPGServer} {e : Server.Effect}
    {c : Child} (he : e ∈ (Server.reconcileInner libs ans s).trace)
    (hc : appliedByServer e = some c) : c ∈ serverChildren s := by
  have hworkload : e.isWorkload = true := by
    cases e <;> first | rfl | cases hc
  obtain ⟨-, -, heq⟩ := Server.workload_of_mem he hworkload
  unfold serverChildren
  rcases heq with rfl | rfl
  · cases hc
    simp [buildServerDeployment]
  · cases hc
    simp [buildServerService]

end Passes

/-! ## Names -/

/-- What the names of the children begin with. -/
def childBase (name : String) : String :=
  if name.toList.head?.any Char.isAlpha then name else "mcpg-" ++ name

theorem append_right_cancel {a b suffix : String}
    (h : a ++ suffix = b ++ suffix) : a = b := by
  have hlist := congrArg String.toList h
  rw [String.toList_append, String.toList_append] at hlist
  exact String.toList_inj.mp (List.append_cancel_right hlist)

theorem append_left_cancel {a b front : String}
    (h : front ++ a = front ++ b) : a = b := by
  have hlist := congrArg String.toList h
  rw [String.toList_append, String.toList_append] at hlist
  exact String.toList_inj.mp (List.append_cancel_left hlist)

theorem ne_of_last {a b suffix suffix' : String}
    (h : suffix.toList.getLast? ≠ suffix'.toList.getLast?)
    (hsuffix : suffix ≠ "") (hsuffix' : suffix' ≠ "") :
    a ++ suffix ≠ b ++ suffix' := by
  intro heq
  have hlast : ∀ c d : String, d ≠ "" →
      (c ++ d).toList.getLast? = d.toList.getLast? := by
    intro c d hd
    rw [String.toList_append, List.getLast?_append_of_ne_nil]
    simpa using hd
  exact h ((hlast a suffix hsuffix).symm.trans
    ((congrArg (·.toList.getLast?) heq).trans (hlast b suffix' hsuffix')))

/-- The bases of two names meet only where the prefix of the one is written
out in the other. -/
theorem childBase_eq_iff {a b : String} (hne : a ≠ b) :
    childBase a = childBase b ↔
      (a.toList.head?.any Char.isAlpha = false ∧ b = "mcpg-" ++ a) ∨
        (b.toList.head?.any Char.isAlpha = false ∧ a = "mcpg-" ++ b) := by
  have hprefixed : ∀ name : String,
      ("mcpg-" ++ name).toList.head?.any Char.isAlpha = true := by
    intro name
    rw [String.toList_append]
    rfl
  unfold childBase
  cases ha : a.toList.head?.any Char.isAlpha <;>
    cases hb : b.toList.head?.any Char.isAlpha
  · simp only [Bool.false_eq_true, if_false, true_and]
    refine ⟨fun h => absurd (append_left_cancel h) hne, ?_⟩
    rintro (rfl | rfl)
    · rw [hprefixed] at hb
      cases hb
    · rw [hprefixed] at ha
      cases ha
  · simp [eq_comm]
  · simp
  · simp [hne]

theorem childName_eq (gw : MCPGGateway) {suffix : String}
    (h : suffix ≠ "") :
    childName gw suffix =
      childBase (gw.metadata.name.getD "") ++ ("-" ++ suffix) := by
  unfold childName
  rw [if_neg h, ← String.append_assoc]
  rfl

/-- The names of a gateway's children, by kind. -/
def gatewayNames (gw : MCPGGateway) : ChildKind → List String
  | .configMap =>
      [gw.metadata.name.getD "" ++ "-revocations",
        childBase (gw.metadata.name.getD "") ++ "-config"]
  | .service => [childBase (gw.metadata.name.getD "")]
  | .httpRoute => [childBase (gw.metadata.name.getD "") ++ "-mcp"]
  | _ => [childBase (gw.metadata.name.getD "") ++ "-gateway"]

theorem mem_gatewayNames {api : GatewayApi} {gw : MCPGGateway}
    {kind : ChildKind} {name : String}
    (h : (kind, name) ∈ gatewayChildren api gw) :
    name ∈ gatewayNames gw kind := by
  have hconfig := childName_eq gw (show "config" ≠ "" by decide)
  have hmcp := childName_eq gw (show "mcp" ≠ "" by decide)
  have hgateway := childName_eq gw (show "gateway" ≠ "" by decide)
  unfold gatewayChildren at h
  rcases List.mem_append.mp h with h | hpdb
  swap
  · obtain ⟨pdb, hbuild, heq⟩ := Option.map_eq_some_iff.mp
      (Option.mem_toList.mp hpdb)
    cases heq
    obtain ⟨_, _, rfl⟩ := Option.map_eq_some_iff.mp hbuild
    exact List.mem_singleton.mpr hgateway
  rcases List.mem_append.mp h with h | hhpa
  swap
  · obtain ⟨hpa, hbuild, heq⟩ := Option.map_eq_some_iff.mp
      (Option.mem_toList.mp hhpa)
    cases heq
    unfold buildHpa at hbuild
    split at hbuild
    · cases hbuild
    split at hbuild
    · cases hbuild
    · cases hbuild
      exact List.mem_singleton.mpr hgateway
  rcases List.mem_append.mp h with h | hroute
  swap
  · obtain ⟨route, hbuild, heq⟩ := Option.map_eq_some_iff.mp
      (Option.mem_toList.mp hroute)
    cases heq
    unfold buildHttproute at hbuild
    split at hbuild
    · cases hbuild
    · cases hbuild
      exact List.mem_singleton.mpr hmcp
  simp only [List.mem_cons, Prod.mk.injEq, List.not_mem_nil, or_false] at h
  rcases h with ⟨rfl, rfl⟩ | ⟨rfl, rfl⟩ | ⟨rfl, rfl⟩ | ⟨rfl, rfl⟩ |
    ⟨rfl, rfl⟩
  · exact List.mem_cons_self
  · exact List.mem_cons_of_mem _ (List.mem_singleton.mpr hconfig)
  · exact List.mem_singleton.mpr rfl
  · exact List.mem_singleton.mpr hgateway
  · exact List.mem_singleton.mpr hgateway

/-! ## Which parents meet -/

/-- Two gateways, or two servers, of one base; a server of a gateway's base,
or of the name of the gateway's Deployment. -/
def Meet : Parent → Parent → Prop
  | .gateway gw, .server s | .server s, .gateway gw =>
      childBase (s.metadata.name.getD "") =
          childBase (gw.metadata.name.getD "") ∨
        childBase (s.metadata.name.getD "") =
          childBase (gw.metadata.name.getD "") ++ "-gateway"
  | a, b => childBase a.name = childBase b.name

theorem apart_comm {api : GatewayApi} {a b : Parent} :
    Apart api a b ↔ Apart api b a :=
  ⟨fun h c hb ha => h c ha hb, fun h c ha hb => h c hb ha⟩

/-- Names that meet under one kind have one base. -/
theorem childBase_eq_of_gatewayNames {gw gw' : MCPGGateway}
    {kind : ChildKind} {name : String} (h : name ∈ gatewayNames gw kind)
    (h' : name ∈ gatewayNames gw' kind) :
    childBase (gw.metadata.name.getD "") =
      childBase (gw'.metadata.name.getD "") := by
  cases kind with
  | configMap =>
      simp only [gatewayNames, List.mem_cons, List.not_mem_nil, or_false]
        at h h'
      rcases h with rfl | rfl <;> rcases h' with h' | h'
      · rw [append_right_cancel h']
      · exact absurd h' (ne_of_last (by decide) (by decide) (by decide))
      · exact absurd h' (ne_of_last (by decide) (by decide) (by decide))
      · exact append_right_cancel h'
  | service =>
      exact (List.mem_singleton.mp h).symm.trans (List.mem_singleton.mp h')
  | serviceAccount | deployment | httpRoute | horizontalPodAutoscaler
  | podDisruptionBudget =>
      exact append_right_cancel
        ((List.mem_singleton.mp h).symm.trans (List.mem_singleton.mp h'))

theorem gateways_apart_iff {api : GatewayApi} {gw gw' : MCPGGateway} :
    Apart api (.gateway gw) (.gateway gw') ↔
      ¬ Meet (.gateway gw) (.gateway gw') := by
  constructor
  · intro h hmeet
    have hbase : serviceName gw = serviceName gw' := hmeet
    refine h (.service, serviceName gw) ?_ ?_
    · simp [Parent.children, gatewayChildren]
    · rw [hbase]
      simp [Parent.children, gatewayChildren]
  · rintro hmeet ⟨kind, name⟩ h h'
    exact hmeet (childBase_eq_of_gatewayNames (mem_gatewayNames h)
      (mem_gatewayNames h'))

theorem servers_apart_iff {api : GatewayApi} {s s' : MCPGServer} :
    Apart api (.server s) (.server s') ↔
      ¬ Meet (.server s) (.server s') := by
  constructor
  · intro h hmeet
    have hbase : serverChildName s = serverChildName s' := hmeet
    refine h (.service, serverChildName s) ?_ ?_
    · simp [Parent.children, serverChildren]
    · rw [hbase]
      simp [Parent.children, serverChildren]
  · rintro hmeet ⟨kind, name⟩ h h'
    simp only [Parent.children, serverChildren, List.mem_cons,
      Prod.mk.injEq, List.not_mem_nil, or_false] at h h'
    rcases h with ⟨_, rfl⟩ | ⟨_, rfl⟩ <;> rcases h' with ⟨_, h'⟩ | ⟨_, h'⟩ <;>
      exact hmeet h'

theorem gateway_server_apart_iff {api : GatewayApi} {gw : MCPGGateway}
    {s : MCPGServer} :
    Apart api (.gateway gw) (.server s) ↔
      ¬ Meet (.gateway gw) (.server s) := by
  have hgateway := childName_eq gw (show "gateway" ≠ "" by decide)
  constructor
  · rintro h (hservice | hdeployment)
    · have hname : serviceName gw = serverChildName s := hservice.symm
      refine h (.service, serviceName gw) ?_ ?_
      · simp [Parent.children, gatewayChildren]
      · rw [hname]
        simp [Parent.children, serverChildren]
    · have hname : childName gw "gateway" = serverChildName s :=
        hgateway.trans hdeployment.symm
      refine h (.deployment, childName gw "gateway") ?_ ?_
      · simp [Parent.children, gatewayChildren]
      · rw [hname]
        simp [Parent.children, serverChildren]
  · rintro hmeet ⟨kind, name⟩ h h'
    have hnames := mem_gatewayNames h
    simp only [Parent.children, serverChildren, List.mem_cons,
      Prod.mk.injEq, List.not_mem_nil, or_false] at h'
    rcases h' with ⟨rfl, rfl⟩ | ⟨rfl, rfl⟩
    · exact hmeet (.inr (List.mem_singleton.mp hnames))
    · exact hmeet (.inl (List.mem_singleton.mp hnames))

theorem apart_iff (api : GatewayApi) (a b : Parent) :
    Apart api a b ↔ ¬ Meet a b := by
  cases a with
  | gateway gw =>
      cases b with
      | gateway gw' => exact gateways_apart_iff
      | server s => exact gateway_server_apart_iff
  | server s =>
      cases b with
      | gateway gw => exact apart_comm.trans gateway_server_apart_iff
      | server s' => exact servers_apart_iff

namespace Sample

def named (name : String) : ObjectMeta :=
  { name := some name, namespace_ := some "team-a" }

def crmGateway : MCPGGateway := { metadata := named "crm", spec := {} }

def crmServer : MCPGServer := { metadata := named "crm", spec := {} }

end Sample

/-- A gateway and a server of one name have one Service. -/
theorem not_apart_crm :
    ¬ Apart Gateway.Sample.gatewayApi (.gateway Sample.crmGateway)
      (.server Sample.crmServer) := by
  decide +kernel

end McpgOperator.ChildNames
