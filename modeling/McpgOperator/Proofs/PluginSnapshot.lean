import McpgOperator.Lib.Transition
import McpgOperator.Proofs.GatewayPass
import McpgOperator.Proofs.SetReadiness

/-!
# Which resolution a gateway shows

A pass over a plugin set publishes its ConfigMap first and reports the hash
in the status later. A gateway pass reads the set, spec and status together,
and then the ConfigMap. What it shows of the plugin set comes from both
reads: the entries and the mounts from the ConfigMap, the grants from the
spec, the hash from the status. Each of the three is from one resolution or
one version, and nothing ties them to each other.

One plugin set is followed, with the gateways that name it. Passes overlap
freely; what they read besides is arbitrary.
-/

namespace McpgOperator.PluginSnapshot

open McpgOperator.Kube McpgOperator.PluginSet Transition
open McpgOperator.PluginSet.Reconcile
  (SetLibs SetAnswers Effect resolved resolvedDoc renderResolvedSet
    renderResolvedEntry buildResolvedConfigmap reportedStatus)
open McpgOperator.Gateway
  (MCPGGateway GatewayLibs GatewayAnswers OperatorConfig Resolved
    ResolvedPluginSet Applies)
open McpgOperator.Templates (ResolvedSetEntry ResolvedSetView)

/-! ## Resolutions -/

/-- What a pass over the set publishes: what it resolved, under the version
it worked on. -/
structure Resolution where
  set : MCPGPluginSet
  entries : List ResolvedEntry
  deriving DecidableEq

namespace Resolution

def doc (R : Resolution) : Json := resolvedDoc R.set R.entries

def text (libs : SetLibs) (R : Resolution) : String :=
  (renderResolvedSet libs R.set R.entries).1

def hash (libs : SetLibs) (R : Resolution) : String :=
  (renderResolvedSet libs R.set R.entries).2

def configMap (libs : SetLibs) (ns : String) (R : Resolution) :
    ConfigMap × OwnerReference :=
  buildResolvedConfigmap R.set ns (R.text libs) (R.hash libs)

/-- The grants the document lists with an entry. -/
def grantsOf (R : Resolution) (id : String) : List String :=
  (R.set.spec.capabilityGrants.lookup id).getD []

/-- An entry as the gateway reads it back. -/
def setEntry (r : ResolvedEntry) : ResolvedSetEntry where
  id := r.entryId
  pluginClass := r.pluginClass
  pluginVersion := r.pluginVersion
  artefactSecretName := r.artefactSecretName
  resolvedDigest := r.resolvedDigest
  config := r.config

def view (R : Resolution) (grants : List (String × List String)) :
    ResolvedSetView :=
  { entries := R.entries.map setEntry, capabilityGrants := grants }

/-- What the renderers get of the entries, under some grants and a hash. -/
def shown (R : Resolution) (grants : List (String × List String))
    (hash : String) (condition : Condition) : ResolvedPluginSet :=
  { resolvedHash := hash
    view := some (R.view grants)
    mounts := Gateway.mountsOf (R.view grants)
    condition := condition }

end Resolution

/-- What a gateway shows is from one resolution: all of it, or the hash of
it alone, or there is nothing to show. -/
inductive OfOne (libs : SetLibs) (published : List Resolution) :
    ResolvedPluginSet → Prop
  | whole {R : Resolution} (condition : Condition) : R ∈ published →
      OfOne libs published
        (R.shown R.set.spec.capabilityGrants (R.hash libs) condition)
  | bare {R : Resolution} (reason message : String) : R ∈ published →
      OfOne libs published (.unresolved (R.hash libs) reason message)
  | nothing (reason message : String) :
      OfOne libs published (.unresolved "" reason message)

/-! ## Passes -/

structure SetPass where
  obj : MCPGPluginSet
  ans : SetAnswers

def SetPass.resolution (p : SetPass) : Resolution :=
  { set := p.obj, entries := resolved p.ans p.obj }

def SetPass.trace (libs : SetLibs) (p : SetPass) : List Effect :=
  (PluginSet.Reconcile.reconcileInner libs p.ans p.obj).trace

/-- The pass applies the ConfigMap of its resolution. -/
def SetPass.publication (libs : SetLibs) (ns : String) (p : SetPass) :
    Effect :=
  .applyConfigMap p.resolution.doc (p.resolution.configMap libs ns).1
    (p.resolution.configMap libs ns).2

structure Reading where
  gw : MCPGGateway
  set : Option MCPGPluginSet
  deriving DecidableEq

/-- A gateway pass, with what it found: the set at its first read, and the
resolution in the ConfigMap at its second. -/
structure GatewayPass (Backend Managed : Type) where
  gw : MCPGGateway
  ans : GatewayAnswers Backend Managed
  set : Option MCPGPluginSet
  found : Option Resolution

/-- A read that fails answers nothing. -/
def Answers {α : Type} (stored : Option α) :
    Except KubeError (Option α) → Prop
  | .error _ => True
  | .ok answer => answer = stored

instance {α : Type} [DecidableEq α] (stored : Option α)
    (answer : Except KubeError (Option α)) :
    Decidable (Answers stored answer) :=
  match answer with
  | .error _ => isTrue trivial
  | .ok answer => inferInstanceAs (Decidable (answer = stored))

/-! ## The system -/

structure State (Backend Managed : Type) where
  /-- Every version of the set that was ever stored. -/
  versions : List MCPGPluginSet
  set : Option MCPGPluginSet
  /-- What the ConfigMap was rendered from. -/
  configMap : Option Resolution
  published : List Resolution
  /-- Passes over the set that have yet to report. -/
  unreported : List SetPass
  readings : List Reading
  passes : List (GatewayPass Backend Managed)

inductive Action (Backend Managed : Type)
  /-- The set is created, or its spec is edited. -/
  | writeSet (obj : MCPGPluginSet)
  | deleteSet
  /-- The ConfigMap of a set that is gone. -/
  | collect
  | publish (p : SetPass)
  | report (i : Nat)
  | readSet (gw : MCPGGateway)
  /-- The gateway pass reads the ConfigMap, and applies. -/
  | apply (i : Nat) (ans : GatewayAnswers Backend Managed)

section Runs

variable {Backend Managed : Type}

def State.putSet (s : State Backend Managed) (obj : MCPGPluginSet) :
    State Backend Managed :=
  { s with set := some obj, versions := s.versions ++ [obj] }

def State.putStatus (s : State Backend Managed)
    (status : MCPGPluginSetStatus) : State Backend Managed :=
  match s.set with
  | none => s
  | some obj => s.putSet { obj with status := some status }

/-- What the gateway's reads of this set answer. -/
def faithful (libs : SetLibs) (ns name : String)
    (ans : GatewayAnswers Backend Managed) (set : Option MCPGPluginSet)
    (found : Option Resolution) : Prop :=
  Answers set (ans.resolve.getPluginSet name) ∧
    Answers (found.map fun R => (R.configMap libs ns).1)
      (ans.resolve.getConfigMap (name ++ "-resolved"))

instance (libs : SetLibs) (ns name : String)
    (ans : GatewayAnswers Backend Managed) (set : Option MCPGPluginSet)
    (found : Option Resolution) :
    Decidable (faithful libs ns name ans set found) :=
  inferInstanceAs (Decidable (_ ∧ _))

def State.step (libs : SetLibs) (ns name : String)
    (s : State Backend Managed) (a : Action Backend Managed) :
    Option (State Backend Managed) :=
  match a with
  | .writeSet obj =>
      if obj.metadata.name = some name ∧ obj.metadata.namespace_ = some ns
      then some (s.putSet { obj with status := s.set.bind (·.status) })
      else none
  | .deleteSet => some { s with set := none }
  | .collect => some { s with configMap := none }
  | .publish p =>
      if p.obj ∈ s.versions ∧ p.publication libs ns ∈ p.trace libs then
        some
          { s with
            configMap := some p.resolution
            published := s.published ++ [p.resolution]
            unreported := s.unreported ++ [p] }
      else none
  | .report i =>
      match s.unreported[i]? with
      | none => none
      | some p =>
          let status := reportedStatus libs p.ans p.obj
          if .patchStatus status ∈ p.trace libs then
            some
              { s.putStatus status with
                unreported := s.unreported.eraseIdx i }
          else none
  | .readSet gw =>
      if gw.spec.pluginSetRef = some name ∧
          gw.metadata.namespace_ = some ns then
        some { s with readings := s.readings ++ [{ gw := gw, set := s.set }] }
      else none
  | .apply i ans =>
      match s.readings[i]? with
      | none => none
      | some r =>
          if faithful libs ns name ans r.set s.configMap then
            some
              { s with
                readings := s.readings.eraseIdx i
                passes :=
                  s.passes ++
                    [{ gw := r.gw, ans := ans, set := r.set
                       found := s.configMap }] }
          else none

def system (Backend Managed : Type) (libs : SetLibs) (ns name : String) :
    System (State Backend Managed) (Action Backend Managed) where
  init s :=
    s =
      { versions := [], set := none, configMap := none, published := []
        unreported := [], readings := [], passes := [] }
  step := State.step libs ns name

/-! ## What a gateway pass shows -/

/-- The objects the pass applies are those that what is shown gives. -/
def GatewayPass.AppliesAs (libs : GatewayLibs Backend Managed)
    (cfg : OperatorConfig) (p : GatewayPass Backend Managed) (ns : String)
    (r : Resolved) (shown : ResolvedPluginSet) : Prop :=
  ∀ e ∈ (Gateway.reconcileInner libs cfg p.ans p.gw).trace,
    ({ r with pluginSet := some shown } : Resolved).carries libs cfg p.ans
      p.gw ns e

/-- Entries, grants, mounts and hash of the objects applied are those of
one published resolution. -/
def GatewayPass.Snapshot (libs : GatewayLibs Backend Managed)
    (setLibs : SetLibs) (cfg : OperatorConfig)
    (published : List Resolution) (p : GatewayPass Backend Managed) : Prop :=
  ∀ ns r, Applies libs p.ans p.gw ns r →
    ∃ shown, OfOne setLibs published shown ∧ p.AppliesAs libs cfg ns r shown

/-- What the first read gives: a version of the set, and the resolution
that was reported to it. -/
structure Reported (libs : SetLibs) (versions : List MCPGPluginSet)
    (published : List Resolution) (set : MCPGPluginSet) (Q : Resolution) :
    Prop where
  stored : set ∈ versions
  reported : Q ∈ published
  hash : set.status.bind (·.resolvedHash) = some (Q.hash libs)

/-- Entries and mounts are those of the resolution found, the grants those
of the version read, the hash the one reported to it. -/
inductive OfReads (libs : SetLibs) (versions : List MCPGPluginSet)
    (published : List Resolution) (set : Option MCPGPluginSet)
    (found : Option Resolution) : ResolvedPluginSet → Prop
  | whole {v : MCPGPluginSet} {R Q : Resolution} (condition : Condition) :
      set = some v → Reported libs versions published v Q →
      found = some R → R ∈ published →
      OfReads libs versions published set found
        (R.shown v.spec.capabilityGrants (Q.hash libs) condition)
  | bare {v : MCPGPluginSet} {Q : Resolution} (reason message : String) :
      set = some v → Reported libs versions published v Q →
      OfReads libs versions published set found
        (.unresolved (Q.hash libs) reason message)
  | nothing (reason message : String) :
      OfReads libs versions published set found
        (.unresolved "" reason message)

def GatewayPass.AsRead (libs : GatewayLibs Backend Managed)
    (setLibs : SetLibs) (cfg : OperatorConfig)
    (versions : List MCPGPluginSet) (published : List Resolution)
    (p : GatewayPass Backend Managed) : Prop :=
  ∀ ns r, Applies libs p.ans p.gw ns r →
    ∃ shown, OfReads setLibs versions published p.set p.found shown ∧
      p.AppliesAs libs cfg ns r shown

/-- The two reads go together: the hash reported is that of the resolution
found, and the spec still grants its entries what its document lists. -/
def GatewayPass.Agrees (setLibs : SetLibs)
    (p : GatewayPass Backend Managed) : Prop :=
  ∀ v ∈ p.set, ∀ R ∈ p.found,
    v.status.bind (·.resolvedHash) = some (R.hash setLibs) ∧
    ∀ e ∈ R.entries,
      (v.spec.capabilityGrants.lookup e.entryId).getD [] =
        R.grantsOf e.entryId

/-- The document of the resolution is read back as it was written. -/
def RoundTrips (libs : GatewayLibs Backend Managed) (setLibs : SetLibs)
    (R : Resolution) : Prop :=
  libs.resolve.fromStr (R.text setLibs) = .ok R.doc

variable {libs : GatewayLibs Backend Managed} {setLibs : SetLibs}
  {cfg : OperatorConfig} {ns name : String}
  {s s' : State Backend Managed} {p : GatewayPass Backend Managed}

/-! ## Reading a document back -/

theorem parseEntry_renderResolvedEntry (i : Nat) (set : MCPGPluginSet)
    (r : ResolvedEntry) :
    Gateway.parseEntry i (renderResolvedEntry set r) =
      .ok (Resolution.setEntry r) := rfl

theorem parseEntries_renderResolvedEntry (set : MCPGPluginSet)
    (entries : List ResolvedEntry) (i : Nat) :
    Gateway.parseEntries i (entries.map (renderResolvedEntry set)) =
      .ok (entries.map Resolution.setEntry) := by
  induction entries generalizing i with
  | nil => rfl
  | cons r rest ih =>
      rw [List.map_cons, Gateway.parseEntries,
        parseEntry_renderResolvedEntry, ih]
      rfl

/-- A text that reads as the document gives its entries; the grants are
those of the set it is read with. -/
theorem parse_resolvedDoc {fromStr : String → Except String Json}
    {text : String} {set : MCPGPluginSet} {entries : List ResolvedEntry}
    (hjson : fromStr text = .ok (resolvedDoc set entries))
    (current : MCPGPluginSet) :
    Gateway.parseResolvedPluginsJson fromStr text current =
      .ok
        { entries := entries.map Resolution.setEntry
          capabilityGrants := current.spec.capabilityGrants } := by
  have hentries : ((resolvedDoc set entries).get "entries").bind
      Json.asArray = some (entries.map (renderResolvedEntry set)) := rfl
  unfold Gateway.parseResolvedPluginsJson
  rw [hjson]
  dsimp only [Except.mapError, bind, Except.bind]
  rw [hentries]
  dsimp only
  rw [parseEntries_renderResolvedEntry]

theorem parse_text {R : Resolution} (h : RoundTrips libs setLibs R)
    (set : MCPGPluginSet) :
    Gateway.parseResolvedPluginsJson libs.resolve.fromStr (R.text setLibs)
      set = .ok (R.view set.spec.capabilityGrants) :=
  parse_resolvedDoc h set

/-! ## One gateway pass -/

/-- A stored version, whose hash, if it has one, was published. -/
structure Tracked (libs : SetLibs) (versions : List MCPGPluginSet)
    (published : List Resolution) (v : MCPGPluginSet) : Prop where
  stored : v ∈ versions
  hash : ∀ h ∈ v.status.bind (·.resolvedHash),
    ∃ Q ∈ published, h = Q.hash libs

theorem reported_of_tracked {versions : List MCPGPluginSet}
    {published : List Resolution} {v : MCPGPluginSet} {h : String}
    (hv : Tracked setLibs versions published v)
    (hhash : v.status.bind (·.resolvedHash) = some h) :
    ∃ Q, Reported setLibs versions published v Q ∧ h = Q.hash setLibs := by
  obtain ⟨Q, hQ, heq⟩ := hv.hash h hhash
  exact ⟨Q, ⟨hv.stored, hQ, hhash.trans (congrArg some heq)⟩, heq⟩

/-- A set that cannot be consumed shows its hash alone. -/
theorem ofReads_unresolved {versions : List MCPGPluginSet}
    {published : List Resolution} {v : MCPGPluginSet}
    {found : Option Resolution} (hv : Tracked setLibs versions published v)
    (reason message : String) :
    OfReads setLibs versions published (some v) found
      (.unresolved ((v.status.bind (·.resolvedHash)).getD "") reason
        message) := by
  cases hhash : v.status.bind (·.resolvedHash) with
  | none => exact .nothing reason message
  | some h =>
      obtain ⟨Q, hQ, rfl⟩ := reported_of_tracked hv hhash
      exact .bare reason message rfl hQ

/-- The ConfigMap of a resolution gives its entries, under the grants of
the version at hand. -/
theorem viewOfConfigMap_configMap {R : Resolution} (ns name : String)
    (h : RoundTrips libs setLibs R) (v : MCPGPluginSet) (hash : String) :
    ∃ condition, Gateway.viewOfConfigMap libs.resolve v name hash
        (some (R.configMap setLibs ns).1) =
      R.shown v.spec.capabilityGrants hash condition := by
  have hdata : (((R.configMap setLibs ns).1.data.getD []).lookup
      "plugins.json").getD "" = R.text setLibs := rfl
  unfold Gateway.viewOfConfigMap
  dsimp only
  rw [hdata, parse_text h v]
  exact ⟨_, rfl⟩

theorem ofReads_of_resolvePluginSet {gw : MCPGGateway}
    {ans : GatewayAnswers Backend Managed} {versions : List MCPGPluginSet}
    {published : List Resolution} {set : Option MCPGPluginSet}
    {found : Option Resolution} {resolved : Option ResolvedPluginSet}
    (href : gw.spec.pluginSetRef = some name)
    (hfaithful : faithful setLibs ns name ans set found)
    (hset : ∀ v ∈ set, Tracked setLibs versions published v)
    (hfound : ∀ R ∈ found, R ∈ published)
    (hround : ∀ R ∈ published, RoundTrips libs setLibs R)
    {gwNs : String} (h : Gateway.resolvePluginSet libs.resolve ans.resolve
      gwNs gw = .ok resolved) :
    ∃ shown, resolved = some shown ∧
      OfReads setLibs versions published set found shown := by
  obtain ⟨hread, hreadCm⟩ := hfaithful
  unfold Gateway.resolvePluginSet at h
  rw [href] at h
  obtain ⟨answer, hanswer, h⟩ := Except.of_bind_ok h
  rw [hanswer] at hread
  change answer = set at hread
  subst hread
  cases answer with
  | none =>
      cases h
      exact ⟨_, rfl, .nothing _ _⟩
  | some v =>
      have hv := hset v rfl
      dsimp only at h
      split at h
      · cases h
        exact ⟨_, rfl, ofReads_unresolved hv _ _⟩
      · next hready =>
          obtain ⟨cm, hcm, h⟩ := Except.of_bind_ok h
          cases h
          rw [hcm] at hreadCm
          change cm = _ at hreadCm
          subst hreadCm
          refine ⟨_, rfl, ?_⟩
          cases found with
          | none => exact ofReads_unresolved hv _ _
          | some R =>
              have hR := hfound R rfl
              obtain ⟨condition, hview⟩ := viewOfConfigMap_configMap
                ns name (hround R hR) v
                ((v.status.bind (·.resolvedHash)).getD "")
              show OfReads setLibs versions published (some v) (some R)
                (Gateway.viewOfConfigMap libs.resolve v name _
                  (some (R.configMap setLibs ns).1))
              rw [hview]
              -- a Ready set has a hash
              have hsome : v.status.bind (·.resolvedHash) ≠ none := by
                intro hnone
                exact hready (.inr (by rw [hnone]; rfl))
              obtain ⟨hash, hhash⟩ := Option.ne_none_iff_exists'.mp hsome
              obtain ⟨Q, hQ, rfl⟩ := reported_of_tracked hv hhash
              rw [hhash]
              exact .whole condition rfl hQ rfl hR

theorem asRead_of_reads {versions : List MCPGPluginSet}
    {published : List Resolution}
    (href : p.gw.spec.pluginSetRef = some name)
    (hfaithful : faithful setLibs ns name p.ans p.set p.found)
    (hset : ∀ v ∈ p.set, Tracked setLibs versions published v)
    (hfound : ∀ R ∈ p.found, R ∈ published)
    (hround : ∀ R ∈ published, RoundTrips libs setLibs R) :
    p.AsRead libs setLibs cfg versions published := by
  intro gwNs r happlies
  obtain ⟨shown, hshown, hreads⟩ := ofReads_of_resolvePluginSet href
    hfaithful hset hfound hround
    (Gateway.of_resolveStep_ok happlies.resolved).1
  refine ⟨shown, hreads, fun e he => ?_⟩
  rw [← hshown]
  exact happlies.carries_of_mem he

/-- The renderers look at what is shown through the entries it renders,
the mounts and the hash. -/
theorem carries_congr {r : Resolved} {shown shown' : ResolvedPluginSet}
    {obj : MCPGGateway} {ans : GatewayAnswers Backend Managed}
    (hview : shown.view.map ResolvedSetView.rendered =
      shown'.view.map ResolvedSetView.rendered)
    (hmounts : shown.mounts = shown'.mounts)
    (hhash : shown.resolvedHash = shown'.resolvedHash) {e : Gateway.Effect}
    (h : ({ r with pluginSet := some shown } : Resolved).carries libs cfg
      ans obj ns e) :
    ({ r with pluginSet := some shown' } : Resolved).carries libs cfg ans
      obj ns e := by
  have hmerge : ∀ base path,
      Templates.mergePlugins base shown.view path =
        Templates.mergePlugins base shown'.view path := by
    intro base path
    unfold Templates.mergePlugins
    cases hv : shown.view with
    | none =>
        rw [hv] at hview
        rw [Option.map_eq_none_iff.mp hview.symm]
    | some v =>
        rw [hv] at hview
        obtain ⟨v', hv', hrendered⟩ :=
          Option.map_eq_some_iff.mp hview.symm
        rw [hv']
        dsimp only
        rw [hrendered]
  have hconfig : Gateway.renderConfig libs.render cfg obj ns
        (({ r with pluginSet := some shown } : Resolved).inputs ans) =
      Gateway.renderConfig libs.render cfg obj ns
        (({ r with pluginSet := some shown' } : Resolved).inputs ans) := by
    unfold Gateway.renderConfig Resolved.inputs
    dsimp only [Option.bind_some]
    rw [hmerge]
  have hdeployment : ∀ configHash,
      ({ r with pluginSet := some shown } : Resolved).deployment cfg obj ns
          configHash =
        ({ r with pluginSet := some shown' } : Resolved).deployment cfg obj
          ns configHash := by
    intro configHash
    unfold Resolved.deployment
    dsimp only [Option.map_some]
    rw [hmounts, hhash]
    rfl
  cases e with
  | applyConfigMap config cm =>
      exact ⟨h.1.trans hconfig, h.2⟩
  | applyDeployment dep =>
      obtain ⟨config, heq, hdep⟩ := h
      exact ⟨config, heq.trans hconfig, hdep.trans (hdeployment _)⟩
  | _ => exact h

theorem rendered_view_congr {R : Resolution}
    {grants grants' : List (String × List String)}
    (h : ∀ e ∈ R.entries, (grants.lookup e.entryId).getD [] =
      (grants'.lookup e.entryId).getD []) :
    (R.view grants).rendered = (R.view grants').rendered := by
  unfold ResolvedSetView.rendered Resolution.view
  dsimp only
  rw [List.map_map, List.map_map]
  refine List.map_congr_left fun e he => ?_
  show Templates.renderEntry _ (grants.lookup e.entryId) =
    Templates.renderEntry _ (grants'.lookup e.entryId)
  unfold Templates.renderEntry
  rw [h e he]

/-- Where the two reads go together, all is from one resolution. -/
theorem snapshot_of_agrees {versions : List MCPGPluginSet}
    {published : List Resolution} (hagrees : p.Agrees setLibs)
    (h : p.AsRead libs setLibs cfg versions published) :
    p.Snapshot libs setLibs cfg published := by
  intro gwNs r happlies
  obtain ⟨shown, hreads, hobjects⟩ := h gwNs r happlies
  cases hreads with
  | @whole v R Q condition hset hQ hfound hR =>
      obtain ⟨hhash, hgrants⟩ := hagrees v hset R hfound
      have hsame : Q.hash setLibs = R.hash setLibs :=
        Option.some.inj (hQ.hash.symm.trans hhash)
      refine ⟨_, .whole condition hR, fun e he => ?_⟩
      refine carries_congr ?_ ?_ ?_ (hobjects e he)
      · exact congrArg some (rendered_view_congr hgrants)
      · rfl
      · exact hsame
  | @bare v Q reason message hset hQ =>
      exact ⟨_, .bare reason message hQ.reported, hobjects⟩
  | nothing reason message =>
      exact ⟨_, .nothing reason message, hobjects⟩

/-! ## Runs -/

structure Inv (libs : GatewayLibs Backend Managed) (setLibs : SetLibs)
    (cfg : OperatorConfig) (name : String) (s : State Backend Managed) :
    Prop where
  set : ∀ v ∈ s.set, Tracked setLibs s.versions s.published v
  configMap : ∀ R ∈ s.configMap, R ∈ s.published
  unreported : ∀ p ∈ s.unreported, p.resolution ∈ s.published
  readings : ∀ r ∈ s.readings, r.gw.spec.pluginSetRef = some name ∧
    ∀ v ∈ r.set, Tracked setLibs s.versions s.published v
  passes : (∀ R ∈ s.published, RoundTrips libs setLibs R) →
    ∀ p ∈ s.passes, p.AsRead libs setLibs cfg s.versions s.published

/-- Versions and resolutions are only ever added. -/
theorem Tracked.mono {versions versions' : List MCPGPluginSet}
    {published published' : List Resolution} {v : MCPGPluginSet}
    (hversions : versions ⊆ versions') (hpublished : published ⊆ published')
    (h : Tracked setLibs versions published v) :
    Tracked setLibs versions' published' v where
  stored := hversions h.stored
  hash := by
    intro hash hhash
    obtain ⟨Q, hQ, heq⟩ := h.hash hash hhash
    exact ⟨Q, hpublished hQ, heq⟩

theorem Reported.mono {versions versions' : List MCPGPluginSet}
    {published published' : List Resolution} {v : MCPGPluginSet}
    {Q : Resolution} (hversions : versions ⊆ versions')
    (hpublished : published ⊆ published')
    (h : Reported setLibs versions published v Q) :
    Reported setLibs versions' published' v Q :=
  ⟨hversions h.stored, hpublished h.reported, h.hash⟩

theorem GatewayPass.AsRead.mono {versions versions' : List MCPGPluginSet}
    {published published' : List Resolution}
    (hversions : versions ⊆ versions') (hpublished : published ⊆ published')
    (h : p.AsRead libs setLibs cfg versions published) :
    p.AsRead libs setLibs cfg versions' published' := by
  intro gwNs r happlies
  obtain ⟨shown, hreads, hobjects⟩ := h gwNs r happlies
  refine ⟨shown, ?_, hobjects⟩
  cases hreads with
  | whole condition hset hQ hfound hR =>
      exact .whole condition hset (hQ.mono hversions hpublished) hfound
        (hpublished hR)
  | bare reason message hset hQ =>
      exact .bare reason message hset (hQ.mono hversions hpublished)
  | nothing reason message => exact .nothing reason message

theorem inv_putSet {obj : MCPGPluginSet}
    (hinv : Inv libs setLibs cfg name s)
    (hhash : ∀ h ∈ obj.status.bind (·.resolvedHash),
      ∃ Q ∈ s.published, h = Q.hash setLibs) :
    Inv libs setLibs cfg name (s.putSet obj) := by
  have hversions : s.versions ⊆ s.versions ++ [obj] :=
    List.subset_append_left _ _
  refine ⟨?_, hinv.configMap, hinv.unreported, ?_, ?_⟩
  · rintro v ⟨⟩
    exact ⟨List.mem_append_right _ (List.mem_singleton_self _), hhash⟩
  · intro r hr
    obtain ⟨href, hset⟩ := hinv.readings r hr
    exact ⟨href, fun v hv =>
      (hset v hv).mono hversions (List.Subset.refl _)⟩
  · intro hround p hp
    exact (hinv.passes hround p hp).mono hversions (List.Subset.refl _)

theorem putStatus_unreported (s : State Backend Managed)
    (status : MCPGPluginSetStatus) :
    (s.putStatus status).unreported = s.unreported := by
  unfold State.putStatus
  split <;> rfl

theorem inv_putStatus {pass : SetPass}
    (hinv : Inv libs setLibs cfg name s)
    (hpublished : pass.resolution ∈ s.published) :
    Inv libs setLibs cfg name
      (s.putStatus (reportedStatus setLibs pass.ans pass.obj)) := by
  unfold State.putStatus
  split
  · exact hinv
  · refine inv_putSet hinv ?_
    rintro h ⟨⟩
    exact ⟨pass.resolution, hpublished, rfl⟩

theorem inv_publish {pass : SetPass}
    (hinv : Inv libs setLibs cfg name s) :
    Inv libs setLibs cfg name
      { s with
        configMap := some pass.resolution
        published := s.published ++ [pass.resolution]
        unreported := s.unreported ++ [pass] } := by
  have hpublished : s.published ⊆ s.published ++ [pass.resolution] :=
    List.subset_append_left _ _
  have hnew : pass.resolution ∈ s.published ++ [pass.resolution] :=
    List.mem_append_right _ (List.mem_singleton_self _)
  refine ⟨?_, ?_, ?_, ?_, ?_⟩
  · exact fun v hv => (hinv.set v hv).mono (List.Subset.refl _) hpublished
  · rintro R ⟨⟩
    exact hnew
  · intro q hq
    rcases List.mem_append.mp hq with hold | hq
    · exact hpublished (hinv.unreported q hold)
    · rw [List.mem_singleton.mp hq]
      exact hnew
  · intro r hr
    obtain ⟨href, hset⟩ := hinv.readings r hr
    exact ⟨href, fun v hv =>
      (hset v hv).mono (List.Subset.refl _) hpublished⟩
  · intro hround q hq
    have hold := hinv.passes (fun R hR => hround R (hpublished hR)) q hq
    exact hold.mono (List.Subset.refl _) hpublished

theorem inv_apply {i : Nat} {r : Reading}
    {ans : GatewayAnswers Backend Managed}
    (hinv : Inv libs setLibs cfg name s) (hr : s.readings[i]? = some r)
    (hfaithful : faithful setLibs ns name ans r.set s.configMap) :
    Inv libs setLibs cfg name
      { s with
        readings := s.readings.eraseIdx i
        passes :=
          s.passes ++
            [{ gw := r.gw, ans := ans, set := r.set
               found := s.configMap }] } := by
  obtain ⟨href, hset⟩ := hinv.readings r (List.mem_of_getElem? hr)
  refine ⟨hinv.set, hinv.configMap, hinv.unreported, ?_, ?_⟩
  · intro r' hr'
    exact hinv.readings r' (List.mem_of_mem_eraseIdx hr')
  · intro hround p hp
    rcases List.mem_append.mp hp with hold | hp
    · exact hinv.passes hround p hold
    · rw [List.mem_singleton.mp hp]
      exact asRead_of_reads href hfaithful hset hinv.configMap hround

theorem inv_step {a : Action Backend Managed}
    (hinv : Inv libs setLibs cfg name s)
    (h : s.step setLibs ns name a = some s') :
    Inv libs setLibs cfg name s' := by
  cases a with
  | writeSet obj =>
      dsimp only [State.step] at h
      split at h
      · cases h
        refine inv_putSet hinv ?_
        intro hash hhash
        -- the status is the one that was stored
        obtain ⟨status, hstatus, hhash⟩ := Option.bind_eq_some_iff.mp hhash
        obtain ⟨v, hv, hstatus⟩ := Option.bind_eq_some_iff.mp hstatus
        refine (hinv.set v hv).hash hash ?_
        rw [hstatus]
        exact hhash
      · cases h
  | deleteSet =>
      cases h
      refine ⟨?_, hinv.configMap, hinv.unreported, hinv.readings,
        hinv.passes⟩
      rintro v ⟨⟩
  | collect =>
      cases h
      refine ⟨hinv.set, ?_, hinv.unreported, hinv.readings, hinv.passes⟩
      rintro R ⟨⟩
  | publish pass =>
      dsimp only [State.step] at h
      split at h
      · cases h
        exact inv_publish hinv
      · cases h
  | report i =>
      dsimp only [State.step] at h
      split at h
      · cases h
      next pass hpass =>
      split at h
      · cases h
        have hput := inv_putStatus hinv
          (hinv.unreported pass (List.mem_of_getElem? hpass))
        refine ⟨hput.set, hput.configMap, ?_, hput.readings, hput.passes⟩
        intro q hq
        refine hput.unreported q ?_
        rw [putStatus_unreported]
        exact List.mem_of_mem_eraseIdx hq
      · cases h
  | readSet gw =>
      dsimp only [State.step] at h
      split at h
      · next hgw =>
          cases h
          refine ⟨hinv.set, hinv.configMap, hinv.unreported, ?_,
            hinv.passes⟩
          intro r hr
          rcases List.mem_append.mp hr with hold | hr
          · exact hinv.readings r hold
          · rw [List.mem_singleton.mp hr]
            exact ⟨hgw.1, hinv.set⟩
      · cases h
  | apply i ans =>
      dsimp only [State.step] at h
      split at h
      · cases h
      next r hr =>
      split at h
      · next hfaithful =>
          cases h
          exact inv_apply hinv hr hfaithful
      · cases h

/-- Whatever the interleaving, a gateway pass shows the entries and mounts
of one published resolution, the grants of the version it read, and a hash
that was reported to that version; and all of it is of one resolution where
the two reads go together. -/
theorem asRead_of_reachable
    (h : Reachable (system Backend Managed setLibs ns name) anyStep s)
    (hround : ∀ R ∈ s.published, RoundTrips libs setLibs R) :
    ∀ p ∈ s.passes,
      p.AsRead libs setLibs cfg s.versions s.published ∧
      (p.Agrees setLibs → p.Snapshot libs setLibs cfg s.published) := by
  have hinit : ∀ s, (system Backend Managed setLibs ns name).init s →
      Inv libs setLibs cfg name s := by
    rintro s rfl
    refine ⟨?_, ?_, ?_, ?_, ?_⟩
    · rintro v ⟨⟩
    · rintro R ⟨⟩
    · exact fun _ hp => nomatch hp
    · exact fun _ hr => nomatch hr
    · exact fun _ _ hp => nomatch hp
  have hinv : Inv libs setLibs cfg name s :=
    h.invariant hinit fun _ _ _ hinv _ hstep => inv_step hinv hstep
  intro p hp
  have hread := hinv.passes hround p hp
  exact ⟨hread, fun hagrees => snapshot_of_agrees hagrees hread⟩

end Runs

/-! ## A grant between two reads -/

namespace Sample

/-- The document of the set before it grants anything. -/
def published : Resolution where
  set := PluginSet.Reconcile.Sample.set
  entries :=
    [{ entryId := "audit", pluginName := "audit", pluginVersion := "1.0.0"
       pluginClass := "middleware", artefactSecretName := "plugin-audit"
       resolvedDigest := "ab12", config := .null }]

/-- What `to_string_pretty` makes of it. -/
def text : String :=
  "\x7b\n  \"entries\": [\n    \x7b\n" ++
    "      \"artefactSecretName\": \"plugin-audit\",\n" ++
    "      \"capabilityGrants\": [],\n" ++
    "      \"config\": null,\n" ++
    "      \"id\": \"audit\",\n" ++
    "      \"pluginClass\": \"middleware\",\n" ++
    "      \"pluginName\": \"audit\",\n" ++
    "      \"pluginVersion\": \"1.0.0\",\n" ++
    "      \"resolvedDigest\": \"ab12\"\n" ++
    "    \x7d\n  ],\n  \"version\": 1\n\x7d"

def setLibs : SetLibs where
  conditions := upsertConditions
  toStringPretty doc := if doc = published.doc then text else ""
  sha256Hex _ :=
    "bea70ab1fdffbe4298c6ecca72916e11" ++ "4e1ac5d8d19d611c65c6c582b7b451c0"

def libs : GatewayLibs String Unit :=
  { Gateway.Sample.libs with
    resolve :=
      { Gateway.Sample.libs.resolve with
        fromStr := fun json =>
          if json = text then .ok published.doc
          else .error "EOF while parsing a value at line 1 column 0" } }

/-- The pass over the set finds its plugin, and the plugin's Secret. -/
def pass : SetPass where
  obj := PluginSet.Reconcile.Sample.set
  ans :=
    { PluginSet.Reconcile.Sample.sourceGone with
      getSource := fun _ =>
        .ok
          (some
            { name := some "plugin-audit"
              namespace_ := some PluginSet.Reconcile.operatorNamespace }) }

def granting : MCPGPluginSet :=
  { PluginSet.Reconcile.Sample.set with
    spec :=
      { PluginSet.Reconcile.Sample.set.spec with
        capabilityGrants := [("audit", ["network_outbound"])] } }

def reported : MCPGPluginSetStatus :=
  reportedStatus setLibs pass.ans pass.obj

/-- As it is stored, with the report of the pass before. -/
def stored : MCPGPluginSet := { granting with status := some reported }

def gateway : MCPGGateway where
  metadata :=
    { name := some "edge", namespace_ := some "payments"
      finalizers := some [operatorFinalizer] }
  spec :=
    { image := { tag := some "0.1.0-beta.60" }, config := .obj []
      pluginSetRef := some "secure" }

def answers : GatewayAnswers String Unit :=
  { Gateway.Sample.answers with
    resolve :=
      { Gateway.Sample.answers.resolve with
        getPluginSet := fun _ => .ok (some stored)
        getConfigMap := fun _ =>
          .ok (some (published.configMap setLibs "payments").1) } }

/-- The spec is edited after the report, and the gateway is reconciled
before the set is. -/
def edited : List (Action String Unit) :=
  [.writeSet PluginSet.Reconcile.Sample.set, .publish pass, .report 0,
    .writeSet granting, .readSet gateway]

def mixed : GatewayPass String Unit where
  gw := gateway
  ans := answers
  set := some stored
  found := some published

def start : State String Unit where
  versions := []
  set := none
  configMap := none
  published := []
  unreported := []
  readings := []
  passes := []

theorem run_edited :
    ∃ s, (system String Unit setLibs "payments" "secure").run start
        (edited ++ [.apply 0 answers]) = some s ∧
      s.published = [published] ∧ s.passes = [mixed] := by
  have hrun : ((system String Unit setLibs "payments" "secure").run start
      edited).map (fun m =>
        (m.published, m.readings, m.configMap, m.passes.length)) =
      some ([published], [{ gw := gateway, set := some stored }],
        some published, 0) := by
    decide +kernel
  obtain ⟨m, hm, heq⟩ := Option.map_eq_some_iff.mp hrun
  obtain ⟨hpublished, hreadings, hconfigMap, hpasses⟩ := by
    simpa only [Prod.mk.injEq] using heq
  have hfaithful : faithful setLibs "payments" "secure" answers
      (some stored) (some published) := by
    decide +kernel
  have hstep : m.step setLibs "payments" "secure" (.apply 0 answers) =
      some { m with readings := [], passes := [mixed] } := by
    dsimp only [State.step]
    rw [hreadings, hconfigMap, List.length_eq_zero_iff.mp hpasses]
    exact if_pos hfaithful
  refine ⟨{ m with readings := [], passes := [mixed] },
    System.run_append hm ?_, hpublished, rfl⟩
  exact Option.bind_eq_some_iff.mpr ⟨_, hstep, rfl⟩

theorem roundTrips_published : RoundTrips libs setLibs published := by
  show libs.resolve.fromStr (published.text setLibs) = .ok published.doc
  decide +kernel

def resolved : Resolved where
  pluginSet :=
    some
      (Gateway.viewOfConfigMap libs.resolve stored "secure"
        (published.hash setLibs)
        (some (published.configMap setLibs "payments").1))
  revocationList := none
  cluster := none

theorem applies_mixed :
    Applies libs mixed.ans mixed.gw "payments" resolved where
  past := by decide +kernel
  resolved := by decide +kernel
  notHeld := by decide +kernel

/-- The gateway's config, by what it shows of the plugin set. -/
def configOf (view : Option ResolvedSetView) : Json :=
  Gateway.renderConfig libs.render Gateway.Sample.cfg gateway "payments"
    { view := view, revocationList := false, clusterBlock := none
      routes := .ok [], servers := .ok [] }

theorem config_mixed :
    Gateway.renderConfig libs.render Gateway.Sample.cfg mixed.gw "payments"
        (resolved.inputs mixed.ans) ∉
      [configOf (some (published.view [])), configOf none] := by
  decide +kernel

end Sample

/-- The pass after the edit shows what it read. -/
theorem asRead_of_reachable_edited :
    ∃ s, (system String Unit Sample.setLibs "payments" "secure").run
        Sample.start (Sample.edited ++ [.apply 0 Sample.answers]) = some s ∧
      Sample.mixed ∈ s.passes ∧
      ∀ p ∈ s.passes,
        p.AsRead Sample.libs Sample.setLibs Gateway.Sample.cfg s.versions
          s.published ∧
        (p.Agrees Sample.setLibs →
          p.Snapshot Sample.libs Sample.setLibs Gateway.Sample.cfg
            s.published) := by
  obtain ⟨s, hs, hpublished, hpasses⟩ := Sample.run_edited
  refine ⟨s, hs, ?_, asRead_of_reachable
    (.of_run (.init rfl) (System.permitted_anyStep _ _ _) hs) ?_⟩
  · rw [hpasses]
    exact List.mem_singleton_self _
  · intro R hR
    rw [hpublished] at hR
    rw [List.mem_singleton.mp hR]
    exact Sample.roundTrips_published

/-- It renders a grant on an entry that was published without it. -/
theorem not_snapshot_edited :
    ∃ s, Reachable (system String Unit Sample.setLibs "payments" "secure")
        anyStep s ∧
      (∀ R ∈ s.published, RoundTrips Sample.libs Sample.setLibs R) ∧
      ¬ ∀ p ∈ s.passes,
        p.Snapshot Sample.libs Sample.setLibs Gateway.Sample.cfg
          s.published := by
  obtain ⟨s, hs, hpublished, hpasses⟩ := Sample.run_edited
  refine ⟨s, .of_run (.init rfl) (System.permitted_anyStep _ _ _) hs,
    ?_, ?_⟩
  · intro R hR
    rw [hpublished] at hR
    rw [List.mem_singleton.mp hR]
    exact Sample.roundTrips_published
  · intro h
    rw [hpasses, hpublished] at h
    obtain ⟨shown, hone, hobjects⟩ := h _ (List.mem_singleton_self _)
      "payments" Sample.resolved Sample.applies_mixed
    obtain ⟨cm, hcm⟩ :=
      Sample.applies_mixed.configMap_mem Gateway.Sample.cfg
    obtain ⟨hconfig, _⟩ := hobjects _ hcm
    -- under the grants published, and without entries, it renders otherwise
    refine Sample.config_mixed ?_
    rw [hconfig]
    cases hone with
    | @whole R condition hR =>
        rw [List.mem_singleton.mp hR]
        exact List.mem_cons_self
    | bare reason message _ =>
        exact List.mem_cons_of_mem _ (List.mem_singleton_self _)
    | nothing reason message =>
        exact List.mem_cons_of_mem _ (List.mem_singleton_self _)

end McpgOperator.PluginSnapshot
