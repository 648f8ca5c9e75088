import McpgOperator.Proofs.GatewayConditions

/-!
# Whether Ready tells of the rollout

A pass compares the available replicas of the Deployment it just applied with
the count it takes from the gateway. The Deployment has a count of its own,
which an autoscaler moves, and its status may be of the template before: the
apply answers with what the API server stored, and the Deployment controller
has not looked at it yet.
-/

namespace McpgOperator.Gateway

open McpgOperator.Kube McpgOperator.Templates McpgOperator.Cluster

/-- A Deployment as an apply returns it. The API server has numbered it, and
reads a count that nobody set as one. -/
structure AppliedDeployment where
  generation : Int
  replicas : Option Int
  observedGeneration : Option Int := none
  status : Option DeploymentStatus := none
  deriving DecidableEq, Repr

namespace AppliedDeployment

variable (d : AppliedDeployment)

def wanted : Int := d.replicas.getD 1

def available : Int := (d.status.getD {}).availableReplicas.getD 0

def updated : Int := (d.status.getD {}).updatedReplicas.getD 0

/-- It wants replicas, has them available, and they run what was applied. -/
structure RolledOut : Prop where
  wanted : 0 < d.wanted
  available : d.wanted ≤ d.available
  current : d.observedGeneration = some d.generation
  updated : d.updated = d.wanted

/-- Why the count does not tell of the rollout. In the first three as many
replicas are available as the gateway asks for, in the last two the
Deployment is rolled out. -/
inductive Misleads (obj : MCPGGateway) : Prop
  /-- The status is older than the apply. -/
  | stale : 0 < d.available → d.available = effectiveReplicas obj →
      d.observedGeneration ≠ some d.generation → Misleads obj
  /-- Some of the replicas run the template of before. -/
  | unfinished : 0 < d.available → d.available = effectiveReplicas obj →
      d.updated ≠ d.wanted → Misleads obj
  /-- The Deployment was scaled to none, or to more than that. -/
  | outgrown : 0 < d.available → d.available = effectiveReplicas obj →
      d.wanted ≤ 0 ∨ effectiveReplicas obj < d.wanted → Misleads obj
  /-- The Deployment was scaled to another count. -/
  | scaled : d.RolledOut → d.wanted ≠ effectiveReplicas obj →
      d.available ≠ effectiveReplicas obj → Misleads obj
  /-- The Deployment has the gateway's count, and pods to spare. -/
  | spare : d.RolledOut → d.wanted = effectiveReplicas obj →
      d.wanted < d.available → Misleads obj

theorem rolledOut_iff :
    d.RolledOut ↔
      0 < d.wanted ∧ d.wanted ≤ d.available ∧
        d.observedGeneration = some d.generation ∧ d.updated = d.wanted :=
  ⟨fun h => ⟨h.wanted, h.available, h.current, h.updated⟩,
    fun h => ⟨h.1, h.2.1, h.2.2.1, h.2.2.2⟩⟩

instance : Decidable d.RolledOut :=
  decidable_of_iff _ (rolledOut_iff d).symm

variable {d}

theorem allReplicasAvailable_iff_available {obj : MCPGGateway} :
    allReplicasAvailable obj d.available = true ↔
      0 < d.available ∧ d.available = effectiveReplicas obj := by
  rw [allReplicasAvailable_iff]
  show (0 < d.available ∧ effectiveReplicas obj ≤ d.available) ∧ _ ↔ _
  omega

/-- Nothing misleads a verdict that is the rollout. -/
theorem not_misleads_of_verdict {obj : MCPGGateway}
    (h : allReplicasAvailable obj d.available = true ↔ d.RolledOut) :
    ¬ d.Misleads obj := by
  rw [allReplicasAvailable_iff_available] at h
  intro hmisleads
  cases hmisleads with
  | stale hpos heq hstale => exact hstale (h.mp ⟨hpos, heq⟩).current
  | unfinished hpos heq hold => exact hold (h.mp ⟨hpos, heq⟩).updated
  | outgrown hpos heq hscaled =>
      have hout := h.mp ⟨hpos, heq⟩
      have hwanted := hout.wanted
      have hle := hout.available
      omega
  | scaled hout _ hother => exact hother (h.mpr hout).2
  | spare hout hpinned hspare =>
      have heq := (h.mpr hout).2
      omega

theorem rolledOut_of_verdict {obj : MCPGGateway}
    (hfree : ¬ d.Misleads obj)
    (h : 0 < d.available ∧ d.available = effectiveReplicas obj) :
    d.RolledOut := by
  obtain ⟨hpos, heq⟩ := h
  constructor
  · by_contra hnone
    exact hfree (.outgrown hpos heq (.inl (by omega)))
  · by_contra hmore
    exact hfree (.outgrown hpos heq (.inr (by omega)))
  · by_contra hstale
    exact hfree (.stale hpos heq hstale)
  · by_contra hold
    exact hfree (.unfinished hpos heq hold)

theorem verdict_of_rolledOut {obj : MCPGGateway}
    (hfree : ¬ d.Misleads obj) (hout : d.RolledOut) :
    0 < d.available ∧ d.available = effectiveReplicas obj := by
  have hwanted := hout.wanted
  have hle := hout.available
  refine ⟨by omega, ?_⟩
  by_contra hother
  by_cases hpinned : d.wanted = effectiveReplicas obj
  · exact hfree (.spare hout hpinned (by omega))
  · exact hfree (.scaled hout hpinned hother)

/-- The verdict is the rollout exactly where nothing misleads it. -/
theorem verdict_iff {obj : MCPGGateway} :
    (allReplicasAvailable obj d.available = true ↔ d.RolledOut) ↔
      ¬ d.Misleads obj := by
  refine ⟨not_misleads_of_verdict, fun hfree => ?_⟩
  rw [allReplicasAvailable_iff_available]
  exact ⟨rolledOut_of_verdict hfree, verdict_of_rolledOut hfree⟩

/-- Of a Deployment that the operator counts and that has no pod to spare,
only the template is left to ask. -/
theorem misleads_iff_of_pinned {obj : MCPGGateway}
    (hpinned : d.wanted = effectiveReplicas obj)
    (hspare : d.available ≤ d.wanted) :
    d.Misleads obj ↔ 0 < d.available ∧ d.available = d.wanted ∧
      (d.observedGeneration ≠ some d.generation ∨ d.updated ≠ d.wanted) := by
  constructor
  · intro hmisleads
    cases hmisleads with
    | stale hpos heq hstale =>
        exact ⟨hpos, heq.trans hpinned.symm, .inl hstale⟩
    | unfinished hpos heq hold =>
        exact ⟨hpos, heq.trans hpinned.symm, .inr hold⟩
    | outgrown hpos heq hscaled => omega
    | scaled _ hother _ => exact absurd hpinned hother
    | spare _ _ hmore => omega
  · rintro ⟨hpos, heq, hstale | hold⟩
    · exact .stale hpos (heq.trans hpinned) hstale
    · exact .unfinished hpos (heq.trans hpinned) hold

end AppliedDeployment

/-! ## The pass -/

section Pass

variable {Backend Managed : Type} {libs : GatewayLibs Backend Managed}
  {obj : MCPGGateway}

/-- A pass whose apply of the Deployment returns this one. -/
def Turn.returning (turn : Turn Backend Managed) (d : AppliedDeployment) :
    Turn Backend Managed :=
  { turn with deployment := d.status }

/-- A pass that applies writes Ready as it counted. -/
theorem readyTrue_of_report {turn : Turn Backend Managed} {rep : Reported}
    (h : turn.report libs obj = some rep)
    (hfree : rep.resolved.holding = none) :
    readyTrue rep.status.conditions =
      allReplicasAvailable obj
        ((turn.deployment.getD {}).availableReplicas.getD 0) := by
  obtain ⟨r, hr, h⟩ := Option.bind_eq_some_iff.mp h
  obtain ⟨status, hstatus, h⟩ := Option.bind_eq_some_iff.mp h
  cases h
  cases hpast : passNamespace turn.ans obj with
  | none =>
      rw [status_idle hpast] at hstatus
      cases hstatus
  | some ns =>
      have hstep := resolveStep_of_resolvedOf
        (namespace_of_passNamespace hpast) hr
      rcases status_applied hpast hstep hfree with
        ⟨-, hnone⟩ | ⟨hash, alignment, ha, hsome⟩
      · rw [hnone] at hstatus
        cases hstatus
      · rw [hsome] at hstatus
        cases hstatus
        exact readyTrue_merged (wellTyped_of_resolveStep hstep) ha

/-- Ready is the rollout of the Deployment that the pass applied exactly
where nothing misleads the count. -/
theorem ready_rollout_iff (libs : GatewayLibs Backend Managed)
    (turn : Turn Backend Managed) (obj : MCPGGateway)
    (d : AppliedDeployment) {rep : Reported}
    (hreport : (turn.returning d).report libs obj = some rep)
    (hfree : rep.resolved.holding = none) :
    (readyTrue rep.status.conditions = true ↔ d.RolledOut) ↔
      ¬ d.Misleads obj := by
  rw [readyTrue_of_report hreport hfree]
  exact d.verdict_iff

end Pass

namespace Sample

/-- Two replicas to start with, and up to six. -/
def scaling : MCPGGateway where
  metadata := storefront.metadata
  spec :=
    { replicas := 2
      autoscaling := some
        { enabled := true, minReplicas := some 2, maxReplicas := some 6 } }

/-- Two replicas throughout. -/
def fixed : MCPGGateway where
  metadata := storefront.metadata
  spec := { replicas := 2 }

def turn : Turn String Unit where
  cfg := cfg
  ans := answers
  deployment := none

/-- The autoscaler went to five, and all are up. -/
def scaled : AppliedDeployment where
  generation := 4
  replicas := some 5
  observedGeneration := some 4
  status := some
    { replicas := some 5, readyReplicas := some 5
      updatedReplicas := some 5, availableReplicas := some 5 }

/-- A new template, with the status of the one before. -/
def retemplated : AppliedDeployment where
  generation := 8
  replicas := some 2
  observedGeneration := some 7
  status := some
    { replicas := some 2, readyReplicas := some 2
      updatedReplicas := some 2, availableReplicas := some 2 }

/-- What a pass that applies writes for Ready. -/
def written (obj : MCPGGateway) (d : AppliedDeployment) : Option Bool := do
  let rep ← (turn.returning d).report libs obj
  if rep.resolved.holding.isSome then none
  else some (readyTrue rep.status.conditions)

theorem exists_of_written {obj : MCPGGateway} {d : AppliedDeployment}
    {ready : Bool} (h : written obj d = some ready) :
    ∃ rep, (turn.returning d).report libs obj = some rep ∧
      rep.resolved.holding = none ∧
      readyTrue rep.status.conditions = ready := by
  obtain ⟨rep, hreport, h⟩ := Option.bind_eq_some_iff.mp h
  refine ⟨rep, hreport, ?_⟩
  cases hheld : rep.resolved.holding with
  | some cluster =>
      rw [hheld] at h
      cases h
  | none =>
      rw [hheld] at h
      cases h
      exact ⟨rfl, rfl⟩

end Sample

open Sample in
/-- The pass over the fixed gateway with its two replicas rolled out. -/
theorem ready_rollout_settled :
    ∃ rep, (turn.returning { retemplated with
        observedGeneration := some 8 }).report libs fixed = some rep ∧
      rep.resolved.holding = none ∧
      ((readyTrue rep.status.conditions = true ↔
          { retemplated with
            observedGeneration := some 8 : AppliedDeployment }.RolledOut) ↔
        ¬ { retemplated with
            observedGeneration := some 8 : AppliedDeployment }.Misleads
              fixed) := by
  have hwritten : written fixed { retemplated with
      observedGeneration := some 8 } = some true := by decide +kernel
  obtain ⟨rep, hreport, hfree, -⟩ := exists_of_written hwritten
  exact ⟨rep, hreport, hfree,
    ready_rollout_iff libs turn fixed _ hreport hfree⟩

open Sample in
/-- Scaled out to five of five and not Ready, under an autoscaler that the
Deployment leaves its count to; and Ready on the pods of the last
template. -/
theorem not_ready_rollout :
    (autoscaled scaling = true ∧ scaled.RolledOut ∧
      ∃ rep, (turn.returning scaled).report libs scaling = some rep ∧
        rep.resolved.holding = none ∧
        readyTrue rep.status.conditions = false) ∧
    (¬ retemplated.RolledOut ∧
      ∃ rep, (turn.returning retemplated).report libs fixed = some rep ∧
        rep.resolved.holding = none ∧
        readyTrue rep.status.conditions = true) ∧
    ¬ ∀ (obj : MCPGGateway) (d : AppliedDeployment) (rep : Reported),
      (turn.returning d).report libs obj = some rep →
      rep.resolved.holding = none →
      (readyTrue rep.status.conditions = true ↔ d.RolledOut) := by
  have hscaled : written scaling scaled = some false := by decide +kernel
  have hstale : written fixed retemplated = some true := by decide +kernel
  have hnot : ¬ retemplated.RolledOut := by decide
  refine ⟨⟨by decide, by decide, exists_of_written hscaled⟩,
    ⟨hnot, exists_of_written hstale⟩, ?_⟩
  intro hall
  obtain ⟨rep, hreport, hfree, hready⟩ := exists_of_written hstale
  exact hnot ((hall fixed retemplated rep hreport hfree).mp hready)

end McpgOperator.Gateway
