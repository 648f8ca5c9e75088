import McpgOperator.Proofs.SupplyChain

/-!
# A plugin that is withdrawn

A plugin is withdrawn when its status keeps a plugin set from consuming it:
it is revoked, it is not Ready, or it names no Secret. Nothing else is told.
A set that resolved the plugin before may publish it still, and a gateway
that read the set's ConfigMap before may apply it still, however late.

As long as no pass over the plugin comes through again, a pass over a set
that starts now finds the plugin withdrawn, whatever happens meanwhile, and
a gateway pass that finds only such publications shows nothing of it.
-/

namespace McpgOperator.SupplyChain

open McpgOperator.Kube McpgOperator.Plugin McpgOperator.PluginSet Transition
open McpgOperator.PluginSet.Reconcile (SetLibs resolved)
open McpgOperator.Gateway (GatewayLibs OperatorConfig)

/-- A set could consume a plugin with this status. -/
def Consumable (status : Option MCPGPluginStatus) : Prop :=
  revoked status = false ∧ ready status = true ∧
    (status.bind (·.artefactSecretName)).isSome = true

instance (status : Option MCPGPluginStatus) : Decidable (Consumable status) :=
  inferInstanceAs (Decidable (_ ∧ _ ∧ _))

/-- The plugin `n` cannot be consumed, or is gone. -/
def World.Withdrawn (w : World) (n : String) : Prop :=
  ∀ p ∈ w.plugin n, ¬ Consumable p.read.status

instance (w : World) (n : String) : Decidable (w.Withdrawn n) :=
  inferInstanceAs (Decidable (∀ p ∈ w.plugin n, _))

section Runs

variable {Backend Managed : Type}

/-- A status that names a Secret. -/
def namesSecret : Plugin.Effect → Bool
  | .patchStatus status _ => status.artefactSecretName.isSome
  | _ => false

/-- No pass over the plugin `n` writes a status that names a Secret. -/
def Quiet (n : String) (s : State Backend Managed) :
    Action Backend Managed → Prop
  | .stepPlugin i _ => ∀ x ∈ s.verifying[i]?, x.1.obj.metadata.nameAny = n →
      ∀ e ∈ x.2.head?, namesSecret e = false
  | _ => True

instance (n : String) (s : State Backend Managed) :
    (a : Action Backend Managed) → Decidable (Quiet n s a)
  | .stepPlugin i _ =>
      inferInstanceAs (Decidable (∀ x ∈ s.verifying[i]?,
        x.1.obj.metadata.nameAny = n →
          ∀ e ∈ x.2.head?, namesSecret e = false))
  | .writePlugin _ _ | .deletePlugin _ | .startPlugin _ _ | .writeSet _ _
  | .deleteSet _ | .collectArtefact _ | .collectCopy _ | .collectPublished _
  | .startSet _ _ _ | .stepSet _ _ | .applyGateway _ => isTrue trivial

/-- What may follow on the state `s₀`. -/
def after (libs : PluginLibs) (setLibs : SetLibs) (ns : String)
    (s₀ : State Backend Managed) :
    System (State Backend Managed) (Action Backend Managed) :=
  { system Backend Managed libs setLibs ns with init := (· = s₀) }

variable {libs : PluginLibs} {setLibs : SetLibs} {ns n : String}
  {s₀ s s' : State Backend Managed}

/-! ## One step -/

/-- Every state the store has had since is one in which the plugin is
withdrawn. -/
structure StaysWithdrawn (libs : PluginLibs) (setLibs : SetLibs)
    (ns n : String) (start : Nat) (s : State Backend Managed) : Prop where
  inv : Inv libs setLibs ns s
  since : start ≤ s.past.length
  withdrawn : ∀ w ∈ s.worlds.drop start, w.Withdrawn n

theorem withdrawn_now {start : Nat}
    (h : StaysWithdrawn libs setLibs ns n start s) : s.now.Withdrawn n := by
  refine h.withdrawn s.now ?_
  show s.now ∈ (s.past ++ [s.now]).drop start
  rw [List.drop_append_of_le_length h.since]
  exact List.mem_append_right _ (List.mem_singleton_self _)

theorem withdrawn_writePlugin {w : World} (h : w.Withdrawn n) (name : String)
    (obj : MCPGPlugin) : (w.writePlugin name obj).Withdrawn n := by
  intro p hp
  rcases of_update_eq_some hp with ⟨rfl, hnew⟩ | hold
  · cases hnew
    cases hw : w.plugin n with
    | none =>
        rintro ⟨_, hready, _⟩
        cases hready
    | some q => exact h q hw
  · exact h p hold

theorem withdrawn_erasePlugin {w : World} (h : w.Withdrawn n)
    (name : String) :
    ({ w with plugin := Function.update w.plugin name none } :
      World).Withdrawn n := by
  intro p hp
  rcases of_update_eq_some hp with ⟨_, ⟨⟩⟩ | hold
  exact h p hold

/-- A status that lands and names no Secret leaves the plugin withdrawn,
whatever the status was before. -/
theorem withdrawn_applyPlugin {w : World} {runs : List PluginRun}
    (h : w.Withdrawn n) (hsound : w.Sound libs runs) {name : String}
    {served : Bool} {e : Plugin.Effect}
    (hquiet : name = n → namesSecret e = false) :
    (w.applyPlugin name served e).Withdrawn n := by
  cases e with
  | publish evt => exact h
  | recordSuccess key => exact h
  | applySecret secret answer =>
      simp only [World.applyPlugin]
      split <;> exact h
  | patchStatus status landed =>
      intro p hp
      rcases of_update_eq_some hp with ⟨rfl, hnew⟩ | hold
      · obtain ⟨q, hq, rfl⟩ := Option.map_eq_some_iff.mp hnew
        cases landed with
        | false => exact h q hq
        | true =>
            rintro ⟨_, _, hsecret⟩
            rw [read_patch (hsound.owner n q hq)] at hsecret
            have hnone : status.artefactSecretName.isSome = false :=
              hquiet rfl
            exact absurd hsecret (Bool.eq_false_iff.mp hnone)
      · exact h p hold

theorem withdrawn_applySet {w : World} (h : w.Withdrawn n) (name : String)
    (run : SetRun) (e : PluginSet.Reconcile.Effect) :
    (w.applySet name run e).Withdrawn n := by
  cases e <;> exact h

/-- A step leaves the store alone, or adds the state it was in to the
past. -/
theorem worlds_step {a : Action Backend Managed}
    (hstep : s.step libs setLibs ns a = some s') :
    (s'.past = s.past ∧ s'.now = s.now) ∨ s'.past = s.worlds := by
  cases a with
  | writePlugin name obj =>
      obtain ⟨_, ⟨⟩⟩ := Option.ite_none_right_eq_some.mp hstep
      exact .inr rfl
  | startPlugin name run =>
      obtain ⟨_, ⟨⟩⟩ := Option.ite_none_right_eq_some.mp hstep
      exact .inl ⟨rfl, rfl⟩
  | startSet name obj ans =>
      obtain ⟨_, ⟨⟩⟩ := Option.ite_none_right_eq_some.mp hstep
      exact .inl ⟨rfl, rfl⟩
  | applyGateway g =>
      obtain ⟨_, ⟨⟩⟩ := Option.ite_none_right_eq_some.mp hstep
      exact .inl ⟨rfl, rfl⟩
  | stepPlugin i served =>
      simp only [State.step] at hstep
      split at hstep
      · cases hstep
        exact .inr rfl
      · cases hstep
  | stepSet i served =>
      simp only [State.step] at hstep
      split at hstep
      · obtain ⟨_, ⟨⟩⟩ := Option.ite_none_right_eq_some.mp hstep
        exact .inr rfl
      · cases hstep
  | _ =>
      cases hstep
      exact .inr rfl

theorem withdrawn_step {a : Action Backend Managed}
    (hinv : Inv libs setLibs ns s) (h : s.now.Withdrawn n)
    (hquiet : Quiet n s a) (hstep : s.step libs setLibs ns a = some s') :
    s'.now.Withdrawn n := by
  cases a with
  | writePlugin name obj =>
      obtain ⟨_, ⟨⟩⟩ := Option.ite_none_right_eq_some.mp hstep
      exact withdrawn_writePlugin h name obj
  | deletePlugin name =>
      cases hstep
      exact withdrawn_erasePlugin h name
  | startPlugin name run =>
      obtain ⟨_, ⟨⟩⟩ := Option.ite_none_right_eq_some.mp hstep
      exact h
  | stepPlugin i served =>
      simp only [State.step] at hstep
      split at hstep
      · next run e rest hi =>
          cases hstep
          exact withdrawn_applyPlugin h (inv_now hinv)
            fun hname => hquiet _ hi hname e rfl
      · cases hstep
  | startSet name obj ans =>
      obtain ⟨_, ⟨⟩⟩ := Option.ite_none_right_eq_some.mp hstep
      exact h
  | stepSet i served =>
      simp only [State.step] at hstep
      split at hstep
      · next run e rest hi =>
          obtain ⟨_, ⟨⟩⟩ := Option.ite_none_right_eq_some.mp hstep
          show World.Withdrawn (if served then _ else _) n
          split
          · exact withdrawn_applySet h _ run e
          · exact h
      · cases hstep
  | applyGateway g =>
      obtain ⟨_, ⟨⟩⟩ := Option.ite_none_right_eq_some.mp hstep
      exact h
  | _ =>
      cases hstep
      exact h

theorem staysWithdrawn_step {start : Nat} {a : Action Backend Managed}
    (h : StaysWithdrawn libs setLibs ns n start s) (hquiet : Quiet n s a)
    (hstep : s.step libs setLibs ns a = some s') :
    StaysWithdrawn libs setLibs ns n start s' := by
  have hnow : s'.now.Withdrawn n :=
    withdrawn_step h.inv (withdrawn_now h) hquiet hstep
  have hinv : Inv libs setLibs ns s' := inv_step h.inv hstep
  rcases worlds_step hstep with ⟨hpast, hsame⟩ | hpast
  · have hworlds : s'.worlds = s.worlds := by
      unfold State.worlds
      rw [hpast, hsame]
    exact ⟨hinv, hpast ▸ h.since, hworlds ▸ h.withdrawn⟩
  · have hle : start ≤ s.worlds.length :=
      h.since.trans (by simp [State.worlds])
    refine ⟨hinv, hpast ▸ hle, fun w hw => ?_⟩
    rw [State.worlds, hpast, List.drop_append_of_le_length hle] at hw
    rcases List.mem_append.mp hw with hold | hnew
    · exact h.withdrawn w hold
    · exact List.mem_singleton.mp hnew ▸ hnow

/-! ## Every run -/

theorem staysWithdrawn_of_reachable
    (h₀ : Reachable (system Backend Managed libs setLibs ns) anyStep s₀)
    (hwithdrawn : s₀.now.Withdrawn n)
    (h : Reachable (after libs setLibs ns s₀) (Quiet n) s) :
    StaysWithdrawn libs setLibs ns n s₀.past.length s := by
  induction h with
  | init hinit =>
      cases hinit
      refine ⟨inv_of_reachable h₀, Nat.le_refl _, fun w hw => ?_⟩
      rw [State.worlds, List.drop_left] at hw
      exact List.mem_singleton.mp hw ▸ hwithdrawn
  | step _ hquiet hstep ih => exact staysWithdrawn_step ih hquiet hstep

theorem consumable_of_resolveEntry {plugin : MCPGPlugin}
    {entry : MCPGPluginSetEntry} {r : ResolvedEntry}
    (h : resolveEntry (.ok (some plugin)) entry = .ok r) :
    Consumable plugin.status := by
  obtain ⟨_, hrevoked, hready, s, hs, _⟩ := resolveEntry_ok_iff.mp h
  exact ⟨hrevoked, hready, hs ▸ rfl⟩

/-- A pass that finds the plugin withdrawn whenever it looks resolves no
entry to it. -/
theorem resolved_of_withdrawn {ws : List World} {run : SetRun}
    {r : ResolvedEntry} (hws : ∀ w ∈ ws, w.Withdrawn n)
    (hreads : run.Reads ws) (hr : r ∈ resolved run.ans run.obj) :
    r.pluginName ≠ n := by
  obtain ⟨x, hx, hok⟩ := List.mem_filterMap.mp hr
  obtain ⟨e, he, rfl⟩ := List.mem_map.mp hx
  cases hres : resolveEntry (run.ans.getPlugin e.2) e.1 with
  | error rejection =>
      rw [hres] at hok
      cases hok
  | ok r' =>
      rw [hres] at hok
      cases hok
      obtain ⟨plugin, hplugin, _, hname, _⟩ :=
        PluginSet.Reconcile.plugin_of_resolveEntry_ok hres
      rintro rfl
      have hread := hreads e he
      rw [hplugin] at hread hres
      obtain ⟨w, hw, hread⟩ := hread
      obtain ⟨p, hp, rfl⟩ := Option.map_eq_some_iff.mp hread.symm
      exact hws w hw p (hname ▸ hp) (consumable_of_resolveEntry hres)

variable {gatewayLibs : GatewayLibs Backend Managed} {cfg : OperatorConfig}
  {g : GatewayRun Backend Managed}

/-- Once every publication a gateway pass can find is by a pass that started
behind the withdrawal, the resolution it shows has no entry of the plugin.
The hash may be that of an earlier one. -/
theorem shows_of_withdrawn
    (h₀ : Reachable (system Backend Managed libs setLibs ns) anyStep s₀)
    (hwithdrawn : s₀.now.Withdrawn n)
    (h : Reachable (after libs setLibs ns s₀) (Quiet n) s)
    (hg : g ∈ s.gateways)
    (hround : g.RoundTrips gatewayLibs setLibs (s.worlds.drop g.since))
    (hfresh : ∀ w ∈ s.worlds.drop g.since,
      ∀ name ∈ g.gw.spec.pluginSetRef, ∀ run ∈ w.published name,
        s₀.past.length ≤ run.since)
    {e : Gateway.Effect}
    (he : e ∈ (Gateway.reconcileInner gatewayLibs cfg g.ans g.gw).trace)
    (happly : e.isApply = true) :
    Shows gatewayLibs setLibs cfg g
      (fun R => g.Finds setLibs ns (s.worlds.drop g.since) R ∧
        ∀ r ∈ R.entries, r.pluginName ≠ n)
      (g.Hears setLibs s.worlds) e := by
  have hstays := staysWithdrawn_of_reachable h₀ hwithdrawn h
  obtain ⟨_, hreads⟩ := hstays.inv.gateways g hg
  refine shows_of_reads hreads hround
    (fun w hw => hstays.inv.reports w (List.mem_of_mem_drop hw)) ?_
    (fun _ => id) he happly
  intro R hR
  refine ⟨hR, ?_⟩
  obtain ⟨name, href, _, w, hw, run, hrun, rfl⟩ := hR
  have hread := hstays.inv.publishedRead w (List.mem_of_mem_drop hw) name run
    hrun
  refine fun r hr => resolved_of_withdrawn (fun v hv => ?_) hread hr
  exact hstays.withdrawn v
    ((List.drop_subset_drop_left _ (hfresh w hw name href run hrun)) hv)

end Runs

/-! ## A plugin on a revocation list -/

namespace Sample

open Templates (Deployment buildDeployment)
open Plugin.Sample (libs plugin answers digest)

/-- The list of revocations has come to name the digest. -/
def revoking : PluginAnswers :=
  { Plugin.Sample.answers with
    getRevocationList :=
      .ok
        (some
          { version := 1, issuedAt := none
            revocations :=
              [{ artifactSha256 := digest, reason := "incident"
                 revokedAt := none }] }) }

/-- Another pass over the plugin, to its end. -/
def revocation : List (Action String Unit) :=
  .startPlugin "workload" { obj := verified, ans := revoking } ::
    List.replicate 3 (.stepPlugin 1 true)

def revokedPlugin : MCPGPlugin :=
  plugin.withLive
    (statusAfter
      (statusAfter unset (Plugin.reconcileInner libs answers plugin).trace)
      (Plugin.reconcileInner libs revoking verified).trace)

/-- The set finds it, and deletes its copy. -/
def setAnswersAfter : PluginSet.Reconcile.SetAnswers :=
  { setAnswers with
    getPlugin := fun _ => .ok (some revokedPlugin)
    listSecrets :=
      .ok
        (resolution.entries.map fun r =>
          (PluginSet.Reconcile.buildNamespaceCopy set "payments" source
            r).1) }

def gatewayRunAfter : GatewayRun String Unit where
  gw := gateway
  ans :=
    { gatewayAnswers with
      resolve :=
        { gatewayAnswers.resolve with
          getConfigMap := fun _ =>
            .ok (some (emptied.configMap setLibs "payments").1) } }
  since := 17

/-- The set is reconciled again; the gateway reads it before it reports. -/
def followUp : List (Action String Unit) :=
  .startSet "secure" set setAnswersAfter ::
    List.replicate 4 (.stepSet 1 true)

/-- Without a plugin's volume. -/
def deploymentAfter : Deployment :=
  buildDeployment gateway "9f86d081" [] (some (resolution.hash setLibs))
    none Gateway.Sample.cfg.gatewayPodAnnotations []

theorem run_revocation :
    ∃ s₀ s, (system String Unit libs setLibs "payments").run start
        (actions ++ revocation) = some s₀ ∧
      s₀.now.Withdrawn "workload" ∧
      (after libs setLibs "payments" s₀).checkedRun (Quiet "workload") s₀
        (followUp ++ [.applyGateway gatewayRunAfter]) = some s ∧
      gatewayRunAfter ∈ s.gateways ∧
      gatewayRunAfter.RoundTrips gatewayLibs setLibs
        (s.worlds.drop gatewayRunAfter.since) ∧
      ∀ w ∈ s.worlds.drop gatewayRunAfter.since,
        ∀ name ∈ gateway.spec.pluginSetRef, ∀ run ∈ w.published name,
          s₀.past.length ≤ run.since := by
  have hrun : (((system String Unit libs setLibs "payments").run start
      (actions ++ revocation)).bind fun s₀ =>
        ((after libs setLibs "payments" s₀).checkedRun (Quiet "workload") s₀
          followUp).map fun m =>
            (decide (s₀.now.Withdrawn "workload"),
              decide (gatewayRunAfter.Reads setLibs "payments"
                (m.worlds.drop gatewayRunAfter.since)),
              decide (gatewayRunAfter.RoundTrips gatewayLibs setLibs
                (m.worlds.drop gatewayRunAfter.since)),
              decide (∀ w ∈ m.worlds.drop gatewayRunAfter.since,
                ∀ name ∈ gateway.spec.pluginSetRef,
                  ∀ run ∈ w.published name, s₀.past.length ≤ run.since))) =
      some (true, true, true, true) := by
    decide +kernel
  obtain ⟨s₀, hs₀, hrun⟩ := Option.bind_eq_some_iff.mp hrun
  obtain ⟨m, hm, heq⟩ := Option.map_eq_some_iff.mp hrun
  obtain ⟨hwithdrawn, hreads, hround, hfresh⟩ := by
    simpa only [Prod.mk.injEq, decide_eq_true_eq] using heq
  have hstep : (after libs setLibs "payments" s₀).checkedRun
      (Quiet "workload") m [.applyGateway gatewayRunAfter] =
        some { m with gateways := m.gateways ++ [gatewayRunAfter] } := by
    have happly : m.step libs setLibs "payments"
        (.applyGateway gatewayRunAfter) =
          some { m with gateways := m.gateways ++ [gatewayRunAfter] } :=
      if_pos ⟨rfl, hreads⟩
    exact (if_pos trivial).trans (Option.bind_eq_some_iff.mpr
      ⟨_, happly, rfl⟩)
  exact ⟨s₀, _, hs₀, hwithdrawn, System.checkedRun_append hm hstep,
    by simp, hround, hfresh⟩

end Sample

/-- The revoked plugin is gone from the gateway that follows. -/
theorem shows_of_withdrawn_workload :
    ∃ s₀ s, (system String Unit Plugin.Sample.libs Sample.setLibs
        "payments").run Sample.start
        (Sample.actions ++ Sample.revocation) = some s₀ ∧
      (after Plugin.Sample.libs Sample.setLibs "payments" s₀).run s₀
        (Sample.followUp ++ [.applyGateway Sample.gatewayRunAfter]) =
          some s ∧
      Shows Sample.gatewayLibs Sample.setLibs Gateway.Sample.cfg
        Sample.gatewayRunAfter
        (fun R =>
          Sample.gatewayRunAfter.Finds Sample.setLibs "payments"
              (s.worlds.drop Sample.gatewayRunAfter.since) R ∧
            ∀ r ∈ R.entries, r.pluginName ≠ "workload")
        (Sample.gatewayRunAfter.Hears Sample.setLibs s.worlds)
        (.applyDeployment Sample.deploymentAfter) := by
  obtain ⟨s₀, s, hs₀, hwithdrawn, hs, hg, hround, hfresh⟩ :=
    Sample.run_revocation
  exact ⟨s₀, s, hs₀, System.run_of_checkedRun hs, shows_of_withdrawn
    (.of_run (.init rfl) (System.permitted_anyStep _ _ _) hs₀) hwithdrawn
    (.of_checkedRun (.init rfl) hs) hg hround hfresh
    (by decide +kernel) rfl⟩

end McpgOperator.SupplyChain
