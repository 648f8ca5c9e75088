import McpgOperator.Proofs.GateDecision
import McpgOperator.Proofs.PluginHold
import McpgOperator.Proofs.PluginSnapshot
import McpgOperator.Proofs.PluginTransparency
import McpgOperator.Proofs.TrustGate

/-!
# From a verified artefact to a gateway

Three controllers stand between a registry and a gateway's pod. A plugin
pass verifies an artefact, stores its files in a Secret of the operator
namespace and names Secret and digest in the plugin's status. A pass over a
plugin set reads those statuses, copies the Secrets and publishes the
entries. A gateway pass reads what is published. Nothing holds the three
together but what they read of each other, at any time while they run.

The system here has any number of plugins, of plugin sets of one namespace
and of gateways, with any number of passes under way. A pass issues its
writes one by one; each of its reads is answered by some state of the store
since it started. What is shown in the end goes back to a plugin pass that
went through every gate.
-/

namespace McpgOperator.SupplyChain

open McpgOperator.Kube McpgOperator.Plugin McpgOperator.PluginSet Transition
  Apply
open McpgOperator.PluginSet.Reconcile
  (SetLibs SetAnswers resolved enabledEntries buildNamespaceCopy)
open McpgOperator.PluginSnapshot (Resolution)
open McpgOperator.Gateway
  (MCPGGateway GatewayLibs GatewayAnswers OperatorConfig ResolveLibs
    ResolveAnswers Resolved ResolvedPluginSet Applies)
open McpgOperator.Templates

/-! ## The store -/

/-- A stored plugin; its status, once there is one, with the owners of the
fields. -/
structure StoredPlugin where
  obj : MCPGPlugin
  live : Option LiveStatus

def StoredPlugin.read (p : StoredPlugin) : MCPGPlugin :=
  { p.obj with status := p.live.map fun live => readStatus live.value }

/-- The status before its first patch. -/
def unset : LiveStatus := { value := fun _ => none, owners := fun _ => ∅ }

def StoredPlugin.patch (p : StoredPlugin) (status : MCPGPluginStatus)
    (landed : Bool) : StoredPlugin :=
  if landed then
    { p with
      live :=
        some (applyEffect (p.live.getD unset) (.patchStatus status true)) }
  else p

structure PluginRun where
  obj : MCPGPlugin
  ans : PluginAnswers

/-- A pass over a set, and the number of states the store had had when it
started. -/
structure SetRun where
  obj : MCPGPluginSet
  ans : SetAnswers
  since : Nat

def SetRun.resolution (run : SetRun) : Resolution where
  set := run.obj
  entries := resolved run.ans run.obj

/-- `artefact` are the Secrets of the operator namespace, `copy` those of the
namespace of the sets, `published` the pass whose ConfigMap stands. -/
structure World where
  plugin : String → Option StoredPlugin
  artefact : String → Option Secret
  copy : String → Option Secret
  set : String → Option MCPGPluginSet
  published : String → Option SetRun

def World.empty : World where
  plugin _ := none
  artefact _ := none
  copy _ := none
  set _ := none
  published _ := none

/-! ## What a write does to it -/

/-- A plugin is created, or its metadata or spec is edited; the status is a
subresource of its own. -/
def World.writePlugin (w : World) (name : String) (obj : MCPGPlugin) :
    World :=
  { w with
    plugin := Function.update w.plugin name
      (some { obj := obj, live := (w.plugin name).bind (·.live) }) }

/-- A set is created, or its metadata or spec is edited. -/
def World.writeSet (w : World) (name : String) (obj : MCPGPluginSet) :
    World :=
  { w with
    set := Function.update w.set name
      (some { obj with status := (w.set name).bind (·.status) }) }

/-- A write of a plugin pass. A Secret whose apply was answered by an error
may be there all the same. -/
def World.applyPlugin (w : World) (name : String) (served : Bool) :
    Plugin.Effect → World
  | .patchStatus status landed =>
      { w with
        plugin := Function.update w.plugin name
          ((w.plugin name).map (·.patch status landed)) }
  | .applySecret secret answer =>
      if answer.isOk || served then
        { w with
          artefact := Function.update w.artefact (secret.name.getD "")
            (some secret) }
      else w
  | .publish _ | .recordSuccess _ => w

/-- A write of a pass over the set `name`. -/
def World.applySet (w : World) (name : String) (run : SetRun) :
    PluginSet.Reconcile.Effect → World
  | .applySecret copy _ =>
      { w with
        copy := Function.update w.copy (copy.name.getD "") (some copy) }
  | .applyConfigMap _ _ _ =>
      { w with published := Function.update w.published name (some run) }
  | .deleteSecret secret =>
      { w with copy := Function.update w.copy secret none }
  | .patchStatus status =>
      { w with
        set := Function.update w.set name
          ((w.set name).map fun obj => { obj with status := some status }) }
  | .ensureTenantSecretBinding | .publish _ => w

/-! ## Reads -/

/-- Some of these states gives the answer; a read that fails gives none. -/
def Answered {α : Type} (ws : List World) (read : World → Option α) :
    Except KubeError (Option α) → Prop
  | .error _ => True
  | .ok answer => ∃ w ∈ ws, answer = read w

instance {α : Type} [DecidableEq α] (ws : List World)
    (read : World → Option α) (answer : Except KubeError (Option α)) :
    Decidable (Answered ws read answer) :=
  match answer with
  | .error _ => isTrue trivial
  | .ok answer => inferInstanceAs (Decidable (∃ w ∈ ws, answer = read w))

/-- The plugins the pass resolved its entries with. -/
def SetRun.Reads (ws : List World) (run : SetRun) : Prop :=
  ∀ e ∈ enabledEntries run.obj,
    Answered ws (fun w => (w.plugin e.1.pluginRef).map (·.read))
      (run.ans.getPlugin e.2)

instance (ws : List World) (run : SetRun) : Decidable (run.Reads ws) :=
  inferInstanceAs (Decidable (∀ e ∈ enabledEntries run.obj, _))

/-- A copy is of a source Secret that was stored. -/
def SetRun.Copies (ws : List World) (ns : String) (run : SetRun)
    (copy : Secret) : Prop :=
  ∃ w ∈ ws, ∃ r ∈ resolved run.ans run.obj,
    ∃ source ∈ w.artefact r.artefactSecretName,
      copy = (buildNamespaceCopy run.obj ns source r).1

instance (ws : List World) (ns : String) (run : SetRun) (copy : Secret) :
    Decidable (run.Copies ws ns copy) :=
  inferInstanceAs (Decidable (∃ w ∈ ws, ∃ r ∈ resolved run.ans run.obj, _))

/-- What the pass has read when it issues this write. -/
def SetRun.Justified (ws : List World) (ns : String) (run : SetRun)
    (e : PluginSet.Reconcile.Effect) : Prop :=
  run.Reads ws ∧
    match e with
    | .applySecret copy _ => run.Copies ws ns copy
    | _ => True

instance (ws : List World) (ns : String) (run : SetRun)
    (e : PluginSet.Reconcile.Effect) : Decidable (run.Justified ws ns e) :=
  match e with
  | .applySecret copy _ =>
      inferInstanceAs (Decidable (run.Reads ws ∧ run.Copies ws ns copy))
  | .ensureTenantSecretBinding | .applyConfigMap _ _ _ | .deleteSecret _
  | .patchStatus _ | .publish _ =>
      inferInstanceAs (Decidable (run.Reads ws ∧ True))

structure GatewayRun (Backend Managed : Type) where
  gw : MCPGGateway
  ans : GatewayAnswers Backend Managed
  since : Nat

variable {Backend Managed : Type}

/-- The plugin set, and then its ConfigMap. -/
def GatewayRun.Reads (setLibs : SetLibs) (ns : String) (ws : List World)
    (g : GatewayRun Backend Managed) : Prop :=
  ∀ name ∈ g.gw.spec.pluginSetRef,
    Answered ws (·.set name) (g.ans.resolve.getPluginSet name) ∧
    Answered ws
      (fun w => (w.published name).map fun run =>
        (run.resolution.configMap setLibs ns).1)
      (g.ans.resolve.getConfigMap (name ++ "-resolved"))

instance (setLibs : SetLibs) (ns : String) (ws : List World)
    (g : GatewayRun Backend Managed) : Decidable (g.Reads setLibs ns ws) :=
  inferInstanceAs (Decidable (∀ name ∈ g.gw.spec.pluginSetRef, _))

/-! ## The system -/

/-- `past` holds the states the store has had, `runs` every plugin pass that
was started. A pass under way comes with the writes it has yet to issue. -/
structure State (Backend Managed : Type) where
  past : List World
  now : World
  runs : List PluginRun
  verifying : List (PluginRun × List Plugin.Effect)
  projecting : List (SetRun × List PluginSet.Reconcile.Effect)
  gateways : List (GatewayRun Backend Managed)

def State.worlds (s : State Backend Managed) : List World := s.past ++ [s.now]

/-- The store goes over to `w`. -/
def State.advance (s : State Backend Managed) (w : World) :
    State Backend Managed :=
  { s with past := s.worlds, now := w }

inductive Action (Backend Managed : Type)
  | writePlugin (name : String) (obj : MCPGPlugin)
  | deletePlugin (name : String)
  | startPlugin (name : String) (run : PluginRun)
  | stepPlugin (i : Nat) (served : Bool)
  | writeSet (name : String) (obj : MCPGPluginSet)
  | deleteSet (name : String)
  /-- The garbage collector, once the owner of a Secret or ConfigMap is
  gone. -/
  | collectArtefact (secret : String)
  | collectCopy (secret : String)
  | collectPublished (name : String)
  | startSet (name : String) (obj : MCPGPluginSet) (ans : SetAnswers)
  | stepSet (i : Nat) (served : Bool)
  | applyGateway (g : GatewayRun Backend Managed)

/-- A version of the plugin that was stored; the controller reads a cache. -/
def State.Cached (s : State Backend Managed) (name : String)
    (obj : MCPGPlugin) : Prop :=
  ∃ w ∈ s.worlds, (w.plugin name).map (·.read) = some obj

instance (s : State Backend Managed) (name : String) (obj : MCPGPlugin) :
    Decidable (s.Cached name obj) :=
  inferInstanceAs (Decidable (∃ w ∈ s.worlds, _))

def State.step (libs : PluginLibs) (setLibs : SetLibs) (ns : String)
    (s : State Backend Managed) :
    Action Backend Managed → Option (State Backend Managed)
  | .writePlugin name obj =>
      if obj.metadata.name = some name then
        some (s.advance (s.now.writePlugin name obj))
      else none
  | .deletePlugin name =>
      some (s.advance
        { s.now with plugin := Function.update s.now.plugin name none })
  | .startPlugin name run =>
      if run.obj.metadata.name = some name ∧ s.Cached name run.obj then
        some
          { s with
            runs := s.runs ++ [run]
            verifying :=
              s.verifying ++
                [(run, (Plugin.reconcileInner libs run.ans run.obj).trace)] }
      else none
  | .stepPlugin i served =>
      match s.verifying[i]? with
      | some (run, e :: rest) =>
          some
            (({ s with verifying := s.verifying.set i (run, rest) } :
              State Backend Managed).advance
              (s.now.applyPlugin run.obj.metadata.nameAny served e))
      | _ => none
  | .writeSet name obj => some (s.advance (s.now.writeSet name obj))
  | .deleteSet name =>
      some (s.advance
        { s.now with set := Function.update s.now.set name none })
  | .collectArtefact secret =>
      some (s.advance
        { s.now with artefact := Function.update s.now.artefact secret none })
  | .collectCopy secret =>
      some (s.advance
        { s.now with copy := Function.update s.now.copy secret none })
  | .collectPublished name =>
      some (s.advance
        { s.now with
          published := Function.update s.now.published name none })
  | .startSet name obj ans =>
      if obj.metadata.name = some name then
        let run : SetRun :=
          { obj := obj, ans := ans, since := s.past.length }
        some
          { s with
            projecting :=
              s.projecting ++
                [(run,
                  (PluginSet.Reconcile.reconcileInner setLibs ans
                    obj).trace)] }
      else none
  | .stepSet i served =>
      match s.projecting[i]? with
      | some (run, e :: rest) =>
          if run.Justified (s.worlds.drop run.since) ns e then
            some
              (({ s with projecting := s.projecting.set i (run, rest) } :
                State Backend Managed).advance
                (if served then
                  s.now.applySet run.obj.metadata.nameAny run e
                else s.now))
          else none
      | _ => none
  | .applyGateway g =>
      if g.gw.metadata.namespace_ = some ns ∧
          g.Reads setLibs ns (s.worlds.drop g.since) then
        some { s with gateways := s.gateways ++ [g] }
      else none

def system (Backend Managed : Type) (libs : PluginLibs) (setLibs : SetLibs)
    (ns : String) :
    System (State Backend Managed) (Action Backend Managed) where
  init s :=
    s =
      { past := [], now := .empty, runs := [], verifying := []
        projecting := [], gateways := [] }
  step := State.step libs setLibs ns

/-! ## Going back to a pass -/

/-- One of the passes over the plugin `name` went through every gate: its
artefact has this digest, and its files are in this Secret. -/
structure Vouches (libs : PluginLibs) (run : PluginRun)
    (name secretName : String) (artefact : PullArtefact) (digest : String) :
    Prop where
  gates : ∃ result cosign slsa,
    GoesThrough libs run.ans run.obj name artefact result cosign slsa ∧
      result.artifactHash = digest
  secret : secretName = artefactSecretName libs name digest

/-- Moreover its Secret was applied. -/
def Attested (libs : PluginLibs) (runs : List PluginRun)
    (name secretName digest : String) : Prop :=
  ∃ run ∈ runs, ∃ artefact,
    Vouches libs run name secretName artefact digest ∧
      secretApplies libs run.ans run.obj name artefact digest

/-- The files are those of an artefact that went through. -/
def Verified (libs : PluginLibs) (runs : List PluginRun)
    (secretName : String) (data : Option (List (String × Bytes))) : Prop :=
  ∃ run ∈ runs, ∃ name artefact digest,
    Vouches libs run name secretName artefact digest ∧
      data = some (artefactData artefact)

theorem Attested.mono {libs : PluginLibs} {runs runs' : List PluginRun}
    {name secretName digest : String} (hsub : runs ⊆ runs')
    (h : Attested libs runs name secretName digest) :
    Attested libs runs' name secretName digest :=
  h.imp fun _ hrun => hrun.imp_left fun hmem => hsub hmem

theorem Verified.mono {libs : PluginLibs} {runs runs' : List PluginRun}
    {secretName : String} {data : Option (List (String × Bytes))}
    (hsub : runs ⊆ runs') (h : Verified libs runs secretName data) :
    Verified libs runs' secretName data :=
  h.imp fun _ hrun => hrun.imp_left fun hmem => hsub hmem

/-- Every name in the store goes back to a pass. -/
structure World.Sound (libs : PluginLibs) (runs : List PluginRun)
    (w : World) : Prop where
  owner : ∀ n p, w.plugin n = some p →
    ∀ live ∈ p.live, SoleOwner pluginFieldManager live
  plugin : ∀ n p s, w.plugin n = some p →
    p.read.status.bind (·.artefactSecretName) = some s →
    ∃ d, p.read.status.bind (·.resolvedDigest) = some d ∧
      Attested libs runs n s d
  artefact : ∀ s secret, w.artefact s = some secret →
    Verified libs runs s secret.data
  copy : ∀ s secret, w.copy s = some secret → Verified libs runs s secret.data
  published : ∀ n run, w.published n = some run →
    ∀ r ∈ resolved run.ans run.obj,
      Attested libs runs r.pluginName r.artefactSecretName r.resolvedDigest

section Provenance

variable {libs : PluginLibs} {setLibs : SetLibs} {ns : String}
  {runs : List PluginRun} {w : World}

theorem World.Sound.mono {runs' : List PluginRun} (hsub : runs ⊆ runs')
    (h : w.Sound libs runs) : w.Sound libs runs' where
  owner := h.owner
  plugin n p s hp hs :=
    (h.plugin n p s hp hs).imp fun _ hd => hd.imp_right (·.mono hsub)
  artefact s secret hs := (h.artefact s secret hs).mono hsub
  copy s secret hs := (h.copy s secret hs).mono hsub
  published n run hrun r hr := (h.published n run hrun r hr).mono hsub

theorem sound_empty : World.empty.Sound libs runs where
  owner := by rintro n p ⟨⟩
  plugin := by rintro n p s ⟨⟩
  artefact := by rintro s secret ⟨⟩
  copy := by rintro s secret ⟨⟩
  published := by rintro n run ⟨⟩

theorem soleOwner_unset : SoleOwner pluginFieldManager unset := by
  intro f
  refine ⟨Finset.empty_subset _, fun hset => ?_⟩
  exact absurd rfl hset

theorem soleOwner_getD {live : Option LiveStatus}
    (h : ∀ l ∈ live, SoleOwner pluginFieldManager l) :
    SoleOwner pluginFieldManager (live.getD unset) := by
  cases live with
  | none => exact soleOwner_unset
  | some l => exact h l rfl

theorem soleOwner_patch {p : StoredPlugin}
    (h : ∀ live ∈ p.live, SoleOwner pluginFieldManager live)
    (status : MCPGPluginStatus) (landed : Bool) :
    ∀ live ∈ (p.patch status landed).live,
      SoleOwner pluginFieldManager live := by
  cases landed with
  | false => exact h
  | true =>
      rintro live ⟨⟩
      exact soleOwner_applyEffect (soleOwner_getD h) _

/-- A patch that lands is what a reader gets: no other manager holds a
field of the status. -/
theorem read_patch {p : StoredPlugin}
    (h : ∀ live ∈ p.live, SoleOwner pluginFieldManager live)
    (status : MCPGPluginStatus) :
    (p.patch status true).read.status = some status :=
  congrArg some (readStatus_landed (soleOwner_getD h) status)

/-- A lookup in an updated map: the new value, or an old one. -/
theorem of_update_eq_some {α : Type} {f : String → Option α} {k k' : String}
    {new : Option α} {v : α} (h : Function.update f k new k' = some v) :
    (k' = k ∧ new = some v) ∨ f k' = some v := by
  rcases eq_or_ne k' k with rfl | hne
  · rw [Function.update_self] at h
    exact .inl ⟨rfl, h⟩
  · rw [Function.update_of_ne hne] at h
    exact .inr h

theorem sound_writePlugin (h : w.Sound libs runs) (name : String)
    (obj : MCPGPlugin) : (w.writePlugin name obj).Sound libs runs where
  owner := by
    intro n p hp
    rcases of_update_eq_some hp with ⟨rfl, hnew⟩ | hold
    · cases hnew
      cases hw : w.plugin n with
      | none => exact fun _ hnone => nomatch hnone
      | some q => exact h.owner n q hw
    · exact h.owner n p hold
  plugin := by
    intro n p s hp hs
    rcases of_update_eq_some hp with ⟨rfl, hnew⟩ | hold
    · cases hnew
      cases hw : w.plugin n with
      | none =>
          rw [hw] at hs
          cases hs
      | some q =>
          rw [hw] at hs
          exact h.plugin n q s hw hs
    · exact h.plugin n p s hold hs
  artefact := h.artefact
  copy := h.copy
  published := h.published

theorem sound_erasePlugin (h : w.Sound libs runs) (name : String) :
    ({ w with plugin := Function.update w.plugin name none } : World).Sound
      libs runs where
  owner := by
    intro n p hp
    rcases of_update_eq_some hp with ⟨_, ⟨⟩⟩ | hold
    exact h.owner n p hold
  plugin := by
    intro n p s hp hs
    rcases of_update_eq_some hp with ⟨_, ⟨⟩⟩ | hold
    exact h.plugin n p s hold hs
  artefact := h.artefact
  copy := h.copy
  published := h.published

theorem sound_eraseArtefact (h : w.Sound libs runs) (name : String) :
    ({ w with artefact := Function.update w.artefact name none } :
      World).Sound libs runs :=
  { h with
    artefact := by
      intro s secret hs
      rcases of_update_eq_some hs with ⟨_, ⟨⟩⟩ | hold
      exact h.artefact s secret hold }

theorem sound_eraseCopy (h : w.Sound libs runs) (name : String) :
    ({ w with copy := Function.update w.copy name none } : World).Sound
      libs runs :=
  { h with
    copy := by
      intro s secret hs
      rcases of_update_eq_some hs with ⟨_, ⟨⟩⟩ | hold
      exact h.copy s secret hold }

theorem sound_erasePublished (h : w.Sound libs runs) (name : String) :
    ({ w with published := Function.update w.published name none } :
      World).Sound libs runs :=
  { h with
    published := by
      intro n run hrun
      rcases of_update_eq_some hrun with ⟨_, ⟨⟩⟩ | hold
      exact h.published n run hold }

/-! ## A write of a plugin pass -/

/-- What a status write leaves behind names a Secret only if the write
does. -/
theorem sound_patchStatus {name : String}
    {status : MCPGPluginStatus} {landed served : Bool}
    (h : w.Sound libs runs)
    (hnames : ∀ s, status.artefactSecretName = some s →
      ∃ d, status.resolvedDigest = some d ∧ Attested libs runs name s d) :
    (w.applyPlugin name served (.patchStatus status landed)).Sound libs
      runs where
  owner := by
    intro n p hp
    rcases of_update_eq_some hp with ⟨rfl, hnew⟩ | hold
    · obtain ⟨q, hq, rfl⟩ := Option.map_eq_some_iff.mp hnew
      exact soleOwner_patch (h.owner n q hq) status landed
    · exact h.owner n p hold
  plugin := by
    intro n p s hp hs
    rcases of_update_eq_some hp with ⟨rfl, hnew⟩ | hold
    · obtain ⟨q, hq, rfl⟩ := Option.map_eq_some_iff.mp hnew
      cases landed with
      | false => exact h.plugin n q s hq hs
      | true =>
          rw [read_patch (h.owner n q hq)] at hs ⊢
          exact hnames s hs
    · exact h.plugin n p s hold hs
  artefact := h.artefact
  copy := h.copy
  published := h.published

theorem sound_applyArtefact {name : String} {secret : Secret}
    {answer : Except KubeError Unit} {served : Bool}
    (h : w.Sound libs runs)
    (hverified : Verified libs runs (secret.name.getD "") secret.data) :
    (w.applyPlugin name served (.applySecret secret answer)).Sound libs
      runs := by
  simp only [World.applyPlugin]
  split
  · exact
      { h with
        artefact := by
          intro s secret' hs
          rcases of_update_eq_some hs with ⟨rfl, ⟨⟩⟩ | hold
          · exact hverified
          · exact h.artefact s secret' hold }
  · exact h

theorem sound_applyPlugin {run : PluginRun} {e : Plugin.Effect}
    {served : Bool} (h : w.Sound libs runs) (hrun : run ∈ runs)
    (he : e ∈ (Plugin.reconcileInner libs run.ans run.obj).trace) :
    (w.applyPlugin run.obj.metadata.nameAny served e).Sound libs runs := by
  cases e with
  | publish evt => exact h
  | recordSuccess key => exact h
  | patchStatus status landed =>
      refine sound_patchStatus h fun s hs => ?_
      have hnames : status.artefactSecretName ≠ none := by simp [hs]
      obtain ⟨name, artefact, result, cosign, slsa, hgo⟩ :=
        goesThrough_of_commits he (Option.isSome_iff_ne_none.mpr hnames)
      obtain ⟨happly, rfl⟩ := patchStatus_mem_of_goesThrough hgo he hnames
      cases hs
      have hname : run.obj.metadata.nameAny = name := by
        rw [ObjectMeta.nameAny, hgo.named]
        rfl
      rw [hname]
      exact ⟨result.artifactHash, rfl, run, hrun, artefact,
        ⟨⟨result, cosign, slsa, hgo, rfl⟩, rfl⟩, happly⟩
  | applySecret secret answer =>
      obtain ⟨name, artefact, result, cosign, slsa, hgo⟩ :=
        goesThrough_of_commits he rfl
      obtain ⟨rfl, _⟩ := (applySecret_mem_iff_of_goesThrough hgo).mp he
      exact sound_applyArtefact h ⟨run, hrun, name, artefact,
        result.artifactHash, ⟨⟨result, cosign, slsa, hgo, rfl⟩, rfl⟩, rfl⟩

/-! ## A write of a pass over a set -/

/-- An entry that resolved names what some plugin's status names. -/
theorem attested_of_resolved {ws : List World} {run : SetRun}
    {r : ResolvedEntry} (hws : ∀ w ∈ ws, w.Sound libs runs)
    (hreads : run.Reads ws) (hr : r ∈ resolved run.ans run.obj) :
    Attested libs runs r.pluginName r.artefactSecretName
      r.resolvedDigest := by
  obtain ⟨x, hx, hok⟩ := List.mem_filterMap.mp hr
  obtain ⟨e, he, rfl⟩ := List.mem_map.mp hx
  cases hres : resolveEntry (run.ans.getPlugin e.2) e.1 with
  | error rejection =>
      rw [hres] at hok
      cases hok
  | ok r' =>
      rw [hres] at hok
      cases hok
      obtain ⟨plugin, hplugin, _⟩ :=
        PluginSet.Reconcile.plugin_of_resolveEntry_ok hres
      have hread := hreads e he
      rw [hplugin] at hread hres
      obtain ⟨w, hw, hread⟩ := hread
      obtain ⟨p, hp, rfl⟩ := Option.map_eq_some_iff.mp hread.symm
      obtain ⟨_, _, _, s, hs, _, rfl⟩ := resolveEntry_ok_iff.mp hres
      obtain ⟨d, hd, hattested⟩ := (hws w hw).plugin e.1.pluginRef p s hp hs
      dsimp only
      rw [hd]
      exact hattested

theorem sound_applySet {ws : List World} {run : SetRun} {name : String}
    {e : PluginSet.Reconcile.Effect} (h : w.Sound libs runs)
    (hws : ∀ w ∈ ws, w.Sound libs runs) (hjust : run.Justified ws ns e) :
    (w.applySet name run e).Sound libs runs := by
  obtain ⟨hreads, hcopies⟩ := hjust
  cases e with
  | ensureTenantSecretBinding => exact h
  | publish evt => exact h
  | patchStatus status => exact { h with }
  | deleteSecret secret => exact sound_eraseCopy h secret
  | applyConfigMap doc cm owner =>
      exact
        { h with
          published := by
            intro n run' hrun r hr
            rcases of_update_eq_some hrun with ⟨_, ⟨⟩⟩ | hold
            · exact attested_of_resolved hws hreads hr
            · exact h.published n run' hold r hr }
  | applySecret copy owner =>
      obtain ⟨w', hw', r, _, source, hsource, rfl⟩ := hcopies
      exact
        { h with
          copy := by
            intro s secret hs
            rcases of_update_eq_some hs with ⟨rfl, ⟨⟩⟩ | hold
            · exact (hws w' hw').artefact r.artefactSecretName source hsource
            · exact h.copy s secret hold }

/-! ## Every run -/

variable {s s' : State Backend Managed}

theorem mem_worlds_advance {w v : World} :
    v ∈ (s.advance w).worlds ↔ v ∈ s.worlds ∨ v = w := by
  simp [State.worlds, State.advance, or_assoc]

theorem now_mem_worlds (s : State Backend Managed) : s.now ∈ s.worlds :=
  List.mem_append_right _ (List.mem_singleton_self _)

/-- What was read in a window stays read in it. -/
theorem Answered.mono {α : Type} {ws ws' : List World}
    {read : World → Option α} {answer : Except KubeError (Option α)}
    (hsub : ws ⊆ ws') (h : Answered ws read answer) :
    Answered ws' read answer := by
  cases answer with
  | error x => trivial
  | ok a => exact h.imp fun _ hw => hw.imp_left fun hmem => hsub hmem

theorem GatewayRun.Reads.mono {ws ws' : List World}
    {g : GatewayRun Backend Managed} (hsub : ws ⊆ ws')
    (h : g.Reads setLibs ns ws) : g.Reads setLibs ns ws' :=
  fun name hname => ⟨(h name hname).1.mono hsub, (h name hname).2.mono hsub⟩

theorem SetRun.Reads.mono {ws ws' : List World} {run : SetRun}
    (hsub : ws ⊆ ws') (h : run.Reads ws) : run.Reads ws' :=
  fun e he => (h e he).mono hsub

theorem window_subset (s : State Backend Managed) (w : World) (k : Nat) :
    s.worlds.drop k ⊆ (s.advance w).worlds.drop k := by
  show s.worlds.drop k ⊆ (s.worlds ++ [w]).drop k
  rw [List.drop_append]
  exact List.subset_append_left _ _

/-- A published resolution was read from the store since its pass
started. -/
def State.PublishedRead (s : State Backend Managed) : Prop :=
  ∀ w ∈ s.worlds, ∀ n run, w.published n = some run →
    run.Reads (s.worlds.drop run.since)

/-- A pass over the set `name` came to this resolution, with plugins read
from these states. -/
def Resolves (ws : List World) (name : String) (R : Resolution) : Prop :=
  ∃ run : SetRun, run.obj.metadata.nameAny = name ∧ run.Reads ws ∧
    run.resolution = R

theorem Resolves.mono {ws ws' : List World} {name : String} {R : Resolution}
    (hsub : ws ⊆ ws') (h : Resolves ws name R) : Resolves ws' name R :=
  h.imp fun _ hrun => hrun.imp_right fun hread =>
    hread.imp_left (·.mono hsub)

/-- The hash in the status of the set is that of a pass over it. -/
def World.Reports (setLibs : SetLibs) (ws : List World) (w : World) : Prop :=
  ∀ n obj, w.set n = some obj → ∀ h ∈ obj.status.bind (·.resolvedHash),
    ∃ Q, Resolves ws n Q ∧ h = Q.hash setLibs

theorem World.Reports.mono {ws ws' : List World} (hsub : ws ⊆ ws')
    (h : w.Reports setLibs ws) : w.Reports setLibs ws' :=
  fun n obj hobj hash hhash =>
    (h n obj hobj hash hhash).imp fun _ hQ => hQ.imp_left (·.mono hsub)

structure Inv (libs : PluginLibs) (setLibs : SetLibs) (ns : String)
    (s : State Backend Managed) : Prop where
  sound : ∀ w ∈ s.worlds, w.Sound libs s.runs
  verifying : ∀ x ∈ s.verifying, x.1 ∈ s.runs ∧
    ∀ e ∈ x.2, e ∈ (Plugin.reconcileInner libs x.1.ans x.1.obj).trace
  projecting : ∀ x ∈ s.projecting,
    ∀ e ∈ x.2, e ∈
      (PluginSet.Reconcile.reconcileInner setLibs x.1.ans x.1.obj).trace
  publishedRead : s.PublishedRead
  reports : ∀ w ∈ s.worlds, w.Reports setLibs s.worlds
  gateways : ∀ g ∈ s.gateways, g.gw.metadata.namespace_ = some ns ∧
    g.Reads setLibs ns (s.worlds.drop g.since)

/-- The store goes over to a sound state, in which what is published was
published before or by a pass that has read, and likewise what is
reported. -/
theorem inv_advance (h : Inv libs setLibs ns s) {w : World}
    (hsound : w.Sound libs s.runs)
    (hpublished : ∀ n run, w.published n = some run →
      s.now.published n = some run ∨ run.Reads (s.worlds.drop run.since))
    (hreports : w.Reports setLibs s.worlds) :
    Inv libs setLibs ns (s.advance w) where
  sound v hv := by
    rcases mem_worlds_advance.mp hv with hold | rfl
    · exact h.sound v hold
    · exact hsound
  verifying := h.verifying
  projecting := h.projecting
  reports v hv := by
    refine World.Reports.mono (window_subset s w 0) ?_
    rcases mem_worlds_advance.mp hv with hold | rfl
    · exact h.reports v hold
    · exact hreports
  publishedRead v hv n run hrun := by
    refine SetRun.Reads.mono (window_subset s w run.since) ?_
    rcases mem_worlds_advance.mp hv with hold | rfl
    · exact h.publishedRead v hold n run hrun
    · rcases hpublished n run hrun with hnow | hreads
      · exact h.publishedRead s.now (now_mem_worlds s) n run hnow
      · exact hreads
  gateways g hg :=
    (h.gateways g hg).imp_right (·.mono (window_subset s w g.since))

theorem inv_now (h : Inv libs setLibs ns s) : s.now.Sound libs s.runs :=
  h.sound s.now (now_mem_worlds s)

theorem reports_now (h : Inv libs setLibs ns s) :
    s.now.Reports setLibs s.worlds :=
  h.reports s.now (now_mem_worlds s)

/-- An edit keeps the status. -/
theorem reports_writeSet {ws : List World} (h : w.Reports setLibs ws)
    (name : String) (obj : MCPGPluginSet) :
    (w.writeSet name obj).Reports setLibs ws := by
  intro n obj' hobj hash hhash
  rcases of_update_eq_some hobj with ⟨rfl, ⟨⟩⟩ | hold
  · obtain ⟨old, hset, hold⟩ := Option.bind_eq_some_iff.mp
      (Option.bind_assoc _ _ _ ▸ hhash)
    exact h n old hset hash hold
  · exact h n obj' hold hash hhash

theorem reports_eraseSet {ws : List World} (h : w.Reports setLibs ws)
    (name : String) :
    ({ w with set := Function.update w.set name none } : World).Reports
      setLibs ws := by
  intro n obj hobj
  rcases of_update_eq_some hobj with ⟨_, ⟨⟩⟩ | hold
  exact h n obj hold

/-- The status a pass over a set writes has the hash of its resolution. -/
theorem reports_applySet {ws : List World} {run : SetRun}
    {e : PluginSet.Reconcile.Effect} (h : w.Reports setLibs ws)
    (hreads : run.Reads ws)
    (he : e ∈
      (PluginSet.Reconcile.reconcileInner setLibs run.ans run.obj).trace) :
    (w.applySet run.obj.metadata.nameAny run e).Reports setLibs ws := by
  cases e with
  | patchStatus status =>
      intro n obj hobj hash hhash
      rcases of_update_eq_some hobj with ⟨rfl, hnew⟩ | hold
      · obtain ⟨old, _, rfl⟩ := Option.map_eq_some_iff.mp hnew
        obtain ⟨_, rfl⟩ := PluginSet.Reconcile.patchStatus_mem_iff.mp he
        cases hhash
        exact ⟨run.resolution, ⟨run, rfl, hreads, rfl⟩, rfl⟩
      · exact h n obj hold hash hhash
  | _ => exact h

theorem inv_stepPlugin (h : Inv libs setLibs ns s) {i : Nat} {served : Bool}
    {run : PluginRun} {e : Plugin.Effect} {rest : List Plugin.Effect}
    (hi : s.verifying[i]? = some (run, e :: rest)) :
    Inv libs setLibs ns
      (({ s with verifying := s.verifying.set i (run, rest) } :
        State Backend Managed).advance
        (s.now.applyPlugin run.obj.metadata.nameAny served e)) := by
  obtain ⟨hrun, htrace⟩ := h.verifying _ (List.mem_of_getElem? hi)
  have hpopped : Inv libs setLibs ns
      { s with verifying := s.verifying.set i (run, rest) } :=
    { h with
      verifying := by
        intro x hx
        rcases List.mem_or_eq_of_mem_set hx with hold | rfl
        · exact h.verifying x hold
        · exact ⟨hrun, fun e' he' =>
            htrace e' (List.mem_cons_of_mem e he')⟩ }
  have hnow : s.now.Sound libs s.runs := inv_now h
  -- no write of a plugin pass touches a set or what one published
  have hset : (s.now.applyPlugin run.obj.metadata.nameAny served e).set =
        s.now.set ∧
      (s.now.applyPlugin run.obj.metadata.nameAny served e).published =
        s.now.published := by
    cases e with
    | applySecret secret answer =>
        unfold World.applyPlugin
        dsimp only
        split <;> exact ⟨rfl, rfl⟩
    | _ => exact ⟨rfl, rfl⟩
  refine inv_advance hpopped
    (sound_applyPlugin hnow hrun (htrace e List.mem_cons_self)) ?_ ?_
  · intro n run' hrun'
    exact .inl (hset.2 ▸ hrun')
  · intro n obj hobj
    exact reports_now h n obj (hset.1 ▸ hobj)

theorem inv_stepSet (h : Inv libs setLibs ns s) {i : Nat} {served : Bool}
    {run : SetRun} {e : PluginSet.Reconcile.Effect}
    {rest : List PluginSet.Reconcile.Effect}
    (hi : s.projecting[i]? = some (run, e :: rest))
    (hjust : run.Justified (s.worlds.drop run.since) ns e) :
    Inv libs setLibs ns
      (({ s with projecting := s.projecting.set i (run, rest) } :
        State Backend Managed).advance
        (if served then s.now.applySet run.obj.metadata.nameAny run e
          else s.now)) := by
  have hwindow : ∀ v ∈ s.worlds.drop run.since, v.Sound libs s.runs :=
    fun v hv => h.sound v (List.mem_of_mem_drop hv)
  have htrace := h.projecting _ (List.mem_of_getElem? hi)
  have hpopped : Inv libs setLibs ns
      { s with projecting := s.projecting.set i (run, rest) } :=
    { h with
      projecting := by
        intro x hx
        rcases List.mem_or_eq_of_mem_set hx with hold | rfl
        · exact h.projecting x hold
        · exact fun e' he' => htrace e' (List.mem_cons_of_mem e he') }
  have hnow : s.now.Sound libs s.runs := inv_now h
  have hreads : run.Reads s.worlds :=
    hjust.1.mono (List.drop_subset _ _)
  have hreports : s.now.Reports setLibs s.worlds := reports_now h
  refine inv_advance hpopped ?_ ?_ ?_
  · split
    · exact sound_applySet hnow hwindow hjust
    · exact hnow
  · intro n run' hrun'
    split at hrun'
    · cases e with
      | applyConfigMap doc cm owner =>
          rcases of_update_eq_some hrun' with ⟨_, ⟨⟩⟩ | hold
          · exact .inr hjust.1
          · exact .inl hold
      | _ => exact .inl hrun'
    · exact .inl hrun'
  · split
    · exact reports_applySet hreports hreads (htrace e List.mem_cons_self)
    · exact hreports

theorem inv_step {a : Action Backend Managed} (h : Inv libs setLibs ns s)
    (hstep : s.step libs setLibs ns a = some s') : Inv libs setLibs ns s' := by
  have hkeep : ∀ n run, s.now.published n = some run →
      s.now.published n = some run ∨ run.Reads (s.worlds.drop run.since) :=
    fun _ _ => .inl
  cases a with
  | writePlugin name obj =>
      obtain ⟨_, ⟨⟩⟩ := Option.ite_none_right_eq_some.mp hstep
      exact inv_advance h (sound_writePlugin (inv_now h) name obj) hkeep
        (reports_now h)
  | deletePlugin name =>
      cases hstep
      exact inv_advance h (sound_erasePlugin (inv_now h) name) hkeep
        (reports_now h)
  | startPlugin name run =>
      obtain ⟨_, ⟨⟩⟩ := Option.ite_none_right_eq_some.mp hstep
      have hsub : s.runs ⊆ s.runs ++ [run] := List.subset_append_left _ _
      exact
        { sound := fun w hw => (h.sound w hw).mono hsub
          verifying := by
            intro x hx
            rcases List.mem_append.mp hx with hold | hnew
            · exact (h.verifying x hold).imp_left fun hmem => hsub hmem
            · rw [List.mem_singleton.mp hnew]
              exact ⟨by simp, fun _ => id⟩
          projecting := h.projecting
          publishedRead := h.publishedRead
          reports := h.reports
          gateways := h.gateways }
  | stepPlugin i served =>
      simp only [State.step] at hstep
      split at hstep
      · next run e rest hi =>
          cases hstep
          exact inv_stepPlugin h hi
      · cases hstep
  | writeSet name obj =>
      cases hstep
      exact inv_advance h { inv_now h with } hkeep
        (reports_writeSet (reports_now h) name obj)
  | deleteSet name =>
      cases hstep
      exact inv_advance h { inv_now h with } hkeep
        (reports_eraseSet (reports_now h) name)
  | collectArtefact secret =>
      cases hstep
      exact inv_advance h (sound_eraseArtefact (inv_now h) secret) hkeep
        (reports_now h)
  | collectCopy secret =>
      cases hstep
      exact inv_advance h (sound_eraseCopy (inv_now h) secret) hkeep
        (reports_now h)
  | collectPublished name =>
      cases hstep
      refine inv_advance h (sound_erasePublished (inv_now h) name) ?_
        (reports_now h)
      intro n run hrun
      rcases of_update_eq_some hrun with ⟨_, ⟨⟩⟩ | hold
      exact .inl hold
  | startSet name obj ans =>
      obtain ⟨_, ⟨⟩⟩ := Option.ite_none_right_eq_some.mp hstep
      exact
        { h with
          projecting := by
            intro x hx
            rcases List.mem_append.mp hx with hold | hnew
            · exact h.projecting x hold
            · rw [List.mem_singleton.mp hnew]
              exact fun _ => id }
  | stepSet i served =>
      simp only [State.step] at hstep
      split at hstep
      · next run e rest hi =>
          obtain ⟨hjust, ⟨⟩⟩ := Option.ite_none_right_eq_some.mp hstep
          exact inv_stepSet h hi hjust
      · cases hstep
  | applyGateway g =>
      obtain ⟨hreads, ⟨⟩⟩ := Option.ite_none_right_eq_some.mp hstep
      exact
        { h with
          gateways := by
            intro g' hg'
            rcases List.mem_append.mp hg' with hold | hnew
            · exact h.gateways g' hold
            · rw [List.mem_singleton.mp hnew]
              exact hreads }

theorem inv_init
    (hinit : (system Backend Managed libs setLibs ns).init s) :
    Inv libs setLibs ns s := by
  subst hinit
  refine ⟨?_, fun _ hx => (nomatch hx), fun _ hx => (nomatch hx), ?_, ?_,
    fun _ hg => (nomatch hg)⟩
  · intro w hw
    rw [List.mem_singleton.mp hw]
    exact sound_empty
  · intro w hw n run hrun
    rw [List.mem_singleton.mp hw] at hrun
    cases hrun
  · intro w hw n obj hobj
    rw [List.mem_singleton.mp hw] at hobj
    cases hobj

theorem inv_of_reachable
    (h : Reachable (system Backend Managed libs setLibs ns) anyStep s) :
    Inv libs setLibs ns s := by
  induction h with
  | init hinit => exact inv_init hinit
  | step _ _ hstep ih => exact inv_step ih hstep

/-! ## What a gateway shows -/

/-- What stood published for the gateway's set reads back as it was
written. -/
def GatewayRun.RoundTrips (libs : GatewayLibs Backend Managed)
    (setLibs : SetLibs) (ws : List World) (g : GatewayRun Backend Managed) :
    Prop :=
  ∀ w ∈ ws, ∀ name ∈ g.gw.spec.pluginSetRef, ∀ run ∈ w.published name,
    PluginSnapshot.RoundTrips libs setLibs run.resolution

instance (libs : GatewayLibs Backend Managed) (setLibs : SetLibs)
    (ws : List World) (g : GatewayRun Backend Managed) :
    Decidable (g.RoundTrips libs setLibs ws) :=
  inferInstanceAs (Decidable (∀ w ∈ ws, ∀ name ∈ g.gw.spec.pluginSetRef,
    ∀ run ∈ w.published name,
      libs.resolve.fromStr (run.resolution.text setLibs) =
        .ok run.resolution.doc))

variable {gatewayLibs : GatewayLibs Backend Managed}
  {cfg : OperatorConfig} {g : GatewayRun Backend Managed} {gwNs : String}
  {r : Resolved}

/-- The resolution that the pass read from the ConfigMap of its set: it
stood published in one of these states. -/
def GatewayRun.Finds (setLibs : SetLibs) (ns : String) (ws : List World)
    (g : GatewayRun Backend Managed) (R : Resolution) : Prop :=
  ∃ name ∈ g.gw.spec.pluginSetRef,
    g.ans.resolve.getConfigMap (name ++ "-resolved") =
      .ok (some (R.configMap setLibs ns).1) ∧
    ∃ w ∈ ws, ∃ run ∈ w.published name, run.resolution = R

/-- A resolution whose hash the pass read from the status of its set. -/
def GatewayRun.Hears (setLibs : SetLibs) (ws : List World)
    (g : GatewayRun Backend Managed) (Q : Resolution) : Prop :=
  ∃ name ∈ g.gw.spec.pluginSetRef, ∃ set,
    g.ans.resolve.getPluginSet name = .ok (some set) ∧
    set.status.bind (·.resolvedHash) = some (Q.hash setLibs) ∧
    Resolves ws name Q

/-- What the renderers get of a plugin set: the entries and the mounts of a
resolution that was found under the hash of one that was heard of, or no
entry and no mount at all. -/
inductive ShownBy (setLibs : SetLibs) (found heard : Resolution → Prop) :
    Option ResolvedPluginSet → Prop
  | unreferenced : ShownBy setLibs found heard none
  | whole {R Q : Resolution} (grants : List (String × List String))
      (condition : Condition) : found R → heard Q →
      ShownBy setLibs found heard
        (some (R.shown grants (Q.hash setLibs) condition))
  | bare {Q : Resolution} (reason message : String) : heard Q →
      ShownBy setLibs found heard
        (some (.unresolved (Q.hash setLibs) reason message))
  | nothing (reason message : String) :
      ShownBy setLibs found heard (some (.unresolved "" reason message))

theorem ShownBy.imp {found found' heard heard' : Resolution → Prop}
    {shown : Option ResolvedPluginSet} (hfound : ∀ R, found R → found' R)
    (hheard : ∀ Q, heard Q → heard' Q)
    (h : ShownBy setLibs found heard shown) :
    ShownBy setLibs found' heard' shown := by
  cases h with
  | unreferenced => exact .unreferenced
  | whole grants condition hR hQ =>
      exact .whole grants condition (hfound _ hR) (hheard _ hQ)
  | bare reason message hQ => exact .bare reason message (hheard _ hQ)
  | nothing reason message => exact .nothing reason message

/-- A request of the pass carries what its own references give; of the set
that is what these resolutions give: the plugins of the config, the plugin
volumes of the pods, and the hash their annotation has. -/
def Shows (gatewayLibs : GatewayLibs Backend Managed) (setLibs : SetLibs)
    (cfg : OperatorConfig) (g : GatewayRun Backend Managed)
    (found heard : Resolution → Prop) (e : Gateway.Effect) : Prop :=
  ∃ ns r, Applies gatewayLibs g.ans g.gw ns r ∧
    ShownBy setLibs found heard r.pluginSet ∧
    r.carries gatewayLibs cfg g.ans g.gw ns e

/-- A set that cannot be consumed shows its hash alone. -/
theorem shownBy_unresolved {ws : List World} {name : String}
    {set : MCPGPluginSet} {found : Resolution → Prop}
    (href : g.gw.spec.pluginSetRef = some name)
    (hset : g.ans.resolve.getPluginSet name = .ok (some set))
    (hreports : ∀ h ∈ set.status.bind (·.resolvedHash),
      ∃ Q, Resolves ws name Q ∧ h = Q.hash setLibs)
    (reason message : String) :
    ShownBy setLibs found (g.Hears setLibs ws)
      (some (.unresolved ((set.status.bind (·.resolvedHash)).getD "") reason
        message)) := by
  cases hhash : set.status.bind (·.resolvedHash) with
  | none => exact .nothing reason message
  | some h =>
      obtain ⟨Q, hQ, rfl⟩ := hreports h hhash
      exact .bare reason message ⟨name, href, set, hset, hhash, hQ⟩

/-- What the pass resolves of its set comes from its two reads. -/
theorem shownBy_of_resolvePluginSet {ws ws' : List World}
    {shown : Option ResolvedPluginSet} (hreads : g.Reads setLibs ns ws)
    (hround : g.RoundTrips gatewayLibs setLibs ws)
    (hreports : ∀ w ∈ ws, w.Reports setLibs ws')
    (h : Gateway.resolvePluginSet gatewayLibs.resolve g.ans.resolve gwNs
      g.gw = .ok shown) :
    ShownBy setLibs (g.Finds setLibs ns ws) (g.Hears setLibs ws') shown := by
  unfold Gateway.resolvePluginSet at h
  cases href : g.gw.spec.pluginSetRef with
  | none =>
      rw [href] at h
      cases h
      exact .unreferenced
  | some name =>
      rw [href] at h
      obtain ⟨hreadSet, hreadCm⟩ := hreads name href
      obtain ⟨answer, hset, h⟩ := Except.of_bind_ok h
      cases answer with
      | none =>
          cases h
          exact .nothing _ _
      | some set =>
          rw [hset] at hreadSet
          obtain ⟨v, hv, hstored⟩ := hreadSet
          have hreported := hreports v hv name set hstored.symm
          dsimp only at h
          split at h
          · cases h
            exact shownBy_unresolved href hset hreported _ _
          · next hready =>
              obtain ⟨answer, hcm, h⟩ := Except.of_bind_ok h
              cases h
              cases answer with
              | none => exact shownBy_unresolved href hset hreported _ _
              | some cm =>
                  rw [hcm] at hreadCm
                  obtain ⟨w, hw, hfound⟩ := hreadCm
                  obtain ⟨run, hrun, rfl⟩ :=
                    Option.map_eq_some_iff.mp hfound.symm
                  obtain ⟨condition, hview⟩ :=
                    PluginSnapshot.viewOfConfigMap_configMap ns name
                      (hround w hw name href run hrun) set
                      ((set.status.bind (·.resolvedHash)).getD "")
                  rw [hview]
                  -- a Ready set has a hash
                  have hsome : set.status.bind (·.resolvedHash) ≠ none := by
                    intro hnone
                    exact hready (.inr (by rw [hnone]; rfl))
                  obtain ⟨hash, hhash⟩ := Option.ne_none_iff_exists'.mp hsome
                  obtain ⟨Q, hQ, rfl⟩ := hreported hash hhash
                  rw [hhash]
                  exact .whole _ condition
                    ⟨name, href, hcm, w, hw, run, hrun, rfl⟩
                    ⟨name, href, set, hset, hhash, hQ⟩

/-- Every request of a gateway pass shows what its two reads found. -/
theorem shows_of_reads {ws ws' : List World}
    (hreads : g.Reads setLibs ns ws)
    (hround : g.RoundTrips gatewayLibs setLibs ws)
    (hreports : ∀ w ∈ ws, w.Reports setLibs ws')
    {found heard : Resolution → Prop}
    (hfound : ∀ R, g.Finds setLibs ns ws R → found R)
    (hheard : ∀ Q, g.Hears setLibs ws' Q → heard Q) {e : Gateway.Effect}
    (he : e ∈ (Gateway.reconcileInner gatewayLibs cfg g.ans g.gw).trace)
    (happly : e.isApply = true) :
    Shows gatewayLibs setLibs cfg g found heard e := by
  obtain ⟨gwNs, r, happlies⟩ := Gateway.applies_of_mem he happly
  have hshown := shownBy_of_resolvePluginSet hreads hround hreports
    (Gateway.of_resolveStep_ok happlies.resolved).1
  exact ⟨gwNs, r, happlies, hshown.imp hfound hheard,
    happlies.carries_of_mem he⟩

/-- Every artefact Secret and every copy of one holds the files of an
artefact that went through. -/
theorem verified_of_reachable
    (h : Reachable (system Backend Managed libs setLibs ns) anyStep s)
    {name : String} {secret : Secret}
    (hs : secret ∈ s.now.artefact name ∨ secret ∈ s.now.copy name) :
    Verified libs s.runs name secret.data := by
  have hnow : s.now.Sound libs s.runs := inv_now (inv_of_reachable h)
  rcases hs with hartefact | hcopy
  · exact hnow.artefact name secret hartefact
  · exact hnow.copy name secret hcopy

end Provenance

/-! ## A plugin on its way to a gateway -/

namespace Sample

open Plugin.Sample (libs plugin answers artefact digest secretName)

def pluginRun : PluginRun := { obj := plugin, ans := answers }

/-- The plugin as it is stored behind a pass that went through. -/
def verified : MCPGPlugin :=
  plugin.withLive
    (statusAfter unset (Plugin.reconcileInner libs answers plugin).trace)

def set : MCPGPluginSet where
  metadata :=
    { name := some "secure", namespace_ := some "payments"
      finalizers := some [operatorFinalizer], uid := some "6f1c" }
  spec :=
    { entries :=
        [{ id := "workload", pluginRef := "workload", enabled := true
           config := none }] }

def source : Secret :=
  buildArtefactSecret plugin Plugin.operatorNamespace secretName
    { artefact with artifactSha256 := some digest }

def setAnswers : SetAnswers :=
  { PluginSet.Reconcile.Sample.sourceGone with
    getPlugin := fun _ => .ok (some verified)
    getSource := fun _ => .ok (some source) }

def resolution : Resolution where
  set := set
  entries :=
    [{ entryId := "workload", pluginName := "workload"
       pluginVersion := "1.0.0", pluginClass := "identity_provider"
       artefactSecretName := secretName, resolvedDigest := digest
       config := .null }]

/-- What `to_string_pretty` makes of its document. -/
def text : String :=
  "\x7b\n  \"entries\": [\n    \x7b\n" ++
    "      \"artefactSecretName\": \"mcpg-plugin-workload-ba7816bf\",\n" ++
    "      \"capabilityGrants\": [],\n" ++
    "      \"config\": null,\n" ++
    "      \"id\": \"workload\",\n" ++
    "      \"pluginClass\": \"identity_provider\",\n" ++
    "      \"pluginName\": \"workload\",\n" ++
    "      \"pluginVersion\": \"1.0.0\",\n" ++
    "      \"resolvedDigest\": \"" ++ digest ++ "\"\n" ++
    "    \x7d\n  ],\n  \"version\": 1\n\x7d"

/-- Without the plugin. -/
def emptied : Resolution := { set := set, entries := [] }

def emptyText : String :=
  "\x7b\n  \"entries\": [],\n  \"version\": 1\n\x7d"

def setLibs : SetLibs where
  conditions := upsertConditions
  toStringPretty doc :=
    if doc = resolution.doc then text
    else if doc = emptied.doc then emptyText else ""
  sha256Hex s :=
    if s = text then
      "9d61dd2137ec9b395dc9d53de45293c1" ++
        "3817f8d4db22bec749ac7aced3f7e8b1"
    else
      "2f0520714e6591da6a2b5e38a0bdaad7" ++
        "ba43ac5b6d5649e3f32fc84e6f6e5d65"

def gatewayLibs : GatewayLibs String Unit :=
  { Gateway.Sample.libs with
    resolve :=
      { Gateway.Sample.libs.resolve with
        fromStr := fun json =>
          if json = text then .ok resolution.doc
          else if json = emptyText then .ok emptied.doc
          else .error "EOF while parsing a value at line 1 column 0" } }

def gateway : MCPGGateway where
  metadata :=
    { name := some "edge", namespace_ := some "payments"
      finalizers := some [operatorFinalizer] }
  spec :=
    { image := { tag := some "0.1.0-beta.60" }, config := .obj []
      pluginSetRef := some "secure" }

def gatewayAnswers : GatewayAnswers String Unit :=
  { Gateway.Sample.answers with
    resolve :=
      { Gateway.Sample.answers.resolve with
        getPluginSet := fun _ =>
          .ok
            (some
              { set with
                status :=
                  some
                    (PluginSet.Reconcile.reportedStatus setLibs setAnswers
                      set) })
        getConfigMap := fun _ =>
          .ok (some (resolution.configMap setLibs "payments").1) } }

/-- With the artefact's volume. -/
def deployment : Deployment :=
  buildDeployment gateway "9f86d081"
    [{ pluginId := "workload", secretName := secretName }]
    (some (resolution.hash setLibs)) none
    Gateway.Sample.cfg.gatewayPodAnnotations []

def gatewayRun : GatewayRun String Unit :=
  { gw := gateway, ans := gatewayAnswers, since := 12 }

/-- A pass over the plugin and one over the set, to their ends. -/
def actions : List (Action String Unit) :=
  [.writePlugin "workload" plugin, .startPlugin "workload" pluginRun] ++
    List.replicate 5 (.stepPlugin 0 true) ++
    [.writeSet "secure" set, .startSet "secure" set setAnswers] ++
    List.replicate 5 (.stepSet 0 true)

def start : State String Unit where
  past := []
  now := .empty
  runs := []
  verifying := []
  projecting := []
  gateways := []

theorem run_actions :
    ∃ s, (system String Unit libs setLibs "payments").run start
        (actions ++ [.applyGateway gatewayRun]) = some s ∧
      gatewayRun ∈ s.gateways ∧
      gatewayRun.RoundTrips gatewayLibs setLibs
        (s.worlds.drop gatewayRun.since) ∧
      s.now.artefact secretName = some source := by
  have hrun : ((system String Unit libs setLibs "payments").run start
      actions).map (fun m =>
        (decide (gatewayRun.Reads setLibs "payments"
            (m.worlds.drop gatewayRun.since)),
          decide (gatewayRun.RoundTrips gatewayLibs setLibs
            (m.worlds.drop gatewayRun.since)),
          decide (m.now.artefact secretName = some source))) =
      some (true, true, true) := by
    decide +kernel
  obtain ⟨m, hm, heq⟩ := Option.map_eq_some_iff.mp hrun
  obtain ⟨hreads, hround, hartefact⟩ := by
    simpa only [Prod.mk.injEq, decide_eq_true_eq] using heq
  have hstep : m.step libs setLibs "payments" (.applyGateway gatewayRun) =
      some { m with gateways := m.gateways ++ [gatewayRun] } :=
    if_pos ⟨rfl, hreads⟩
  exact ⟨_, System.run_append hm (Option.bind_eq_some_iff.mpr
    ⟨_, hstep, rfl⟩), by simp, hround, hartefact⟩

end Sample

theorem verified_of_reachable_workload :
    ∃ s, (system String Unit Plugin.Sample.libs Sample.setLibs
        "payments").run Sample.start
        (Sample.actions ++ [.applyGateway Sample.gatewayRun]) = some s ∧
      Verified Plugin.Sample.libs s.runs Plugin.Sample.secretName
        Sample.source.data := by
  obtain ⟨s, hs, _, _, hartefact⟩ := Sample.run_actions
  exact ⟨s, hs, verified_of_reachable
    (.of_run (.init rfl) (System.permitted_anyStep _ _ _) hs)
    (.inl hartefact)⟩

end McpgOperator.SupplyChain
