import McpgOperator.PluginSet.Reconcile
import Mathlib.Data.List.Forall2

/-!
# When a Ready plugin set is what it says

Three loops make a pass: what resolves, what is projected, what is
published. The set is Ready when every enabled entry resolved, and the
published document lists what resolved; but a resolved entry whose source
Secret is gone is skipped by the projection alone. So a pass that reports
Ready is honest exactly when every source it read was there.
-/

namespace McpgOperator.PluginSet.Reconcile

open McpgOperator.Kube McpgOperator.Plugin

/-! ## The stages of a pass -/

section Stages

variable {libs : SetLibs} {ans : SetAnswers} {set : MCPGPluginSet}
  {ns : String}

/-- The namespace of a pass that comes to resolve. -/
def passNamespace (ans : SetAnswers) (set : MCPGPluginSet) :
    Option String :=
  match set.metadata.name with
  | none => none
  | some _ =>
      match set.metadata.namespace_ with
      | none => none
      | some ns =>
          if set.metadata.deletionTimestamp.isSome then none
          else
            match ensureFinalizer ans.addFinalizer set.metadata with
            | .error _ => none
            | .ok _ => some ns

theorem reconcileInner_of_passNamespace (h : passNamespace ans set = some ns) :
    reconcileInner libs ans set = materialise libs ans set ns := by
  unfold passNamespace at h
  unfold reconcileInner
  cases hname : set.metadata.name with
  | none =>
      rw [hname] at h
      cases h
  | some name =>
      rw [hname] at h
      dsimp only at h ⊢
      cases hns : set.metadata.namespace_ with
      | none =>
          rw [hns] at h
          cases h
      | some ns' =>
          rw [hns] at h
          dsimp only at h ⊢
          by_cases hdeleted : set.metadata.deletionTimestamp.isSome = true
          · rw [if_pos hdeleted] at h
            cases h
          rw [if_neg hdeleted] at h ⊢
          cases hfin : ensureFinalizer ans.addFinalizer set.metadata with
          | error e =>
              rw [hfin] at h
              cases h
          | ok added =>
              rw [hfin] at h
              cases h
              rfl

theorem trace_of_passNamespace_none (h : passNamespace ans set = none) :
    (reconcileInner libs ans set).trace = [] := by
  unfold passNamespace at h
  unfold reconcileInner
  cases hname : set.metadata.name with
  | none => rfl
  | some name =>
      rw [hname] at h
      dsimp only at h ⊢
      cases hns : set.metadata.namespace_ with
      | none => rfl
      | some ns =>
          rw [hns] at h
          dsimp only at h ⊢
          by_cases hdeleted : set.metadata.deletionTimestamp.isSome = true
          · rw [if_pos hdeleted]
            cases ans.removeFinalizer <;> rfl
          rw [if_neg hdeleted] at h ⊢
          cases hfin : ensureFinalizer ans.addFinalizer set.metadata with
          | error e => rfl
          | ok added =>
              rw [hfin] at h
              cases h

theorem Stage.mem_andThen {s : Stage} {p : Pass} {e : Effect} :
    e ∈ (s.andThen p).trace ↔
      e ∈ s.trace ∨ (s.result = .ok () ∧ e ∈ p.trace) := by
  unfold Stage.andThen
  cases s.result with
  | error x => simp
  | ok u => simp

/-- No read of a source and no apply of a copy fails. -/
def Projects (ans : SetAnswers) (entries : List (ResolvedEntry × Nat)) :
    Prop :=
  ∀ e ∈ entries, ∃ found, ans.getSource e.2 = .ok found ∧
    (found.isSome = true → ans.applySecret e.2 = .ok ())

theorem projectSecrets_ok_iff (i : Nat) (entries : List ResolvedEntry) :
    (projectSecrets ans set ns i entries).result = .ok () ↔
      Projects ans (entries.zipIdx i) := by
  unfold Projects
  induction entries generalizing i with
  | nil => simp [projectSecrets]
  | cons r rest ih =>
      unfold projectSecrets
      rw [List.zipIdx_cons, List.forall_mem_cons, ← ih]
      rcases ans.getSource i with x | _ | source
      · simp
      · simp
      · cases ans.applySecret i with
        | error x => simp
        | ok u => simp

/-- The copies of a projection that fails nowhere: one for each source that
is there. -/
theorem applySecret_mem_projectSecrets {i : Nat}
    {entries : List ResolvedEntry}
    (hok : Projects ans (entries.zipIdx i)) {copy : Secret}
    {owner : OwnerReference} :
    .applySecret copy owner ∈ (projectSecrets ans set ns i entries).trace ↔
      ∃ e ∈ entries.zipIdx i, ∃ source,
        ans.getSource e.2 = .ok (some source) ∧
        (copy, owner) = buildNamespaceCopy set ns source e.1 := by
  unfold Projects at hok
  induction entries generalizing i with
  | nil => simp [projectSecrets]
  | cons r rest ih =>
      rw [List.zipIdx_cons, List.forall_mem_cons] at hok
      obtain ⟨⟨found, hfound, happly⟩, hrest⟩ := hok
      unfold projectSecrets
      dsimp only at hfound happly
      rw [List.zipIdx_cons]
      simp only [List.mem_cons, exists_eq_or_imp]
      rw [← ih hrest, hfound]
      cases found with
      | none => simp
      | some source =>
          rw [happly rfl]
          simp [Prod.ext_iff]

theorem of_mem_projectSecrets {i : Nat} {entries : List ResolvedEntry}
    {e : Effect} (h : e ∈ (projectSecrets ans set ns i entries).trace) :
    ∃ r ∈ entries, ∃ source,
      e = .applySecret (buildNamespaceCopy set ns source r).1
        (buildNamespaceCopy set ns source r).2 := by
  induction entries generalizing i with
  | nil => cases h
  | cons r rest ih =>
      unfold projectSecrets at h
      split at h
      · cases h
      · obtain ⟨r', hr', source, heq⟩ := ih h
        exact ⟨r', List.mem_cons_of_mem _ hr', source, heq⟩
      · dsimp only at h
        split at h
        · exact ⟨r, List.mem_cons_self, _, List.mem_singleton.mp h⟩
        · rcases List.mem_cons.mp h with rfl | h
          · exact ⟨r, List.mem_cons_self, _, rfl⟩
          · obtain ⟨r', hr', source, heq⟩ := ih h
            exact ⟨r', List.mem_cons_of_mem _ hr', source, heq⟩

/-! ## What a pass reports -/

/-- Every stage before the report succeeds. -/
structure Reports (ans : SetAnswers) (set : MCPGPluginSet) (ns : String) :
    Prop where
  past : passNamespace ans set = some ns
  bound : ans.ensureTenantSecretBinding = .ok ()
  projects : Projects ans (resolved ans set).zipIdx
  publishes : ans.applyConfigMap = .ok ()

theorem mem_reconcileInner (hpast : passNamespace ans set = some ns)
    {e : Effect} :
    e ∈ (reconcileInner libs ans set).trace ↔
      e = .ensureTenantSecretBinding ∨
      ans.ensureTenantSecretBinding = .ok () ∧
        (e ∈ (projectSecrets ans set ns 0 (resolved ans set)).trace ∨
        Projects ans (resolved ans set).zipIdx ∧
          (e ∈ (publishSet libs ans set ns (resolved ans set)).trace ∨
          ans.applyConfigMap = .ok () ∧
            ((∃ name ∈ pruneStaleSecrets ans.listSecrets
                (desiredSecretNames (resolved ans set)),
              e = .deleteSecret name) ∨
            e ∈ (report libs ans set).trace))) := by
  have hbound : (bindTenant ans).result = .ok () ↔
      ans.ensureTenantSecretBinding = .ok () := by
    unfold bindTenant
    cases ans.ensureTenantSecretBinding <;> simp [Except.mapError]
  have hpublished :
      (publishSet libs ans set ns (resolved ans set)).result = .ok () ↔
        ans.applyConfigMap = .ok () := by
    unfold publishSet
    cases ans.applyConfigMap <;> simp [Except.mapError]
  have hprune : ∀ names : List String,
      e ∈ names.map Effect.deleteSecret ↔
        ∃ name ∈ names, e = .deleteSecret name := by
    intro names
    rw [List.mem_map]
    exact exists_congr fun name => and_congr_right fun _ => eq_comm
  rw [reconcileInner_of_passNamespace hpast]
  unfold materialise
  dsimp only
  rw [Stage.mem_andThen, Stage.mem_andThen, Stage.mem_andThen,
    List.mem_append, hprune, hbound, hpublished, projectSecrets_ok_iff]
  exact or_congr_left List.mem_singleton

/-- What a pass issues, by the kind of the effect. -/
inductive Issues (libs : SetLibs) (ans : SetAnswers) (set : MCPGPluginSet) :
    Effect → Prop
  | binding : Issues libs ans set .ensureTenantSecretBinding
  | copy {r : ResolvedEntry} (ns : String) (source : Secret) :
      r ∈ resolved ans set →
      Issues libs ans set
        (.applySecret (buildNamespaceCopy set ns source r).1
          (buildNamespaceCopy set ns source r).2)
  | publication (cm : ConfigMap) (owner : OwnerReference) :
      Issues libs ans set
        (.applyConfigMap (resolvedDoc set (resolved ans set)) cm owner)
  | prune {name : String} :
      name ∈ pruneStaleSecrets ans.listSecrets
        (desiredSecretNames (resolved ans set)) →
      Issues libs ans set (.deleteSecret name)
  | status : Issues libs ans set (.patchStatus (reportedStatus libs ans set))
  | event (evt : K8sEvent) : Issues libs ans set (.publish evt)

theorem of_mem_report {e : Effect} (h : e ∈ (report libs ans set).trace) :
    e = .patchStatus (reportedStatus libs ans set) ∨
      ∃ evt, e = .publish evt := by
  unfold report at h
  dsimp only at h
  split at h
  · rcases List.mem_cons.mp h with rfl | h
    · exact .inl rfl
    · exact .inr ⟨_, List.mem_singleton.mp h⟩
  · exact .inl (List.mem_singleton.mp h)

theorem issues_of_mem {e : Effect}
    (h : e ∈ (reconcileInner libs ans set).trace) :
    Issues libs ans set e := by
  cases hpast : passNamespace ans set with
  | none =>
      rw [trace_of_passNamespace_none hpast] at h
      cases h
  | some ns =>
      rcases (mem_reconcileInner hpast).mp h with
        rfl | ⟨_, hproject | ⟨_, hpublish | ⟨_, hprune | hreport⟩⟩⟩
      · exact .binding
      · obtain ⟨r, hr, source, rfl⟩ := of_mem_projectSecrets hproject
        exact .copy ns source hr
      · rw [List.mem_singleton.mp hpublish]
        exact .publication _ _
      · obtain ⟨name, hname, rfl⟩ := hprune
        exact .prune hname
      · rcases of_mem_report hreport with rfl | ⟨evt, rfl⟩
        · exact .status
        · exact .event evt

theorem patchStatus_mem_iff {status : MCPGPluginSetStatus} :
    .patchStatus status ∈ (reconcileInner libs ans set).trace ↔
      (∃ ns, Reports ans set ns) ∧ status = reportedStatus libs ans set := by
  have hreport : Effect.patchStatus status ∈ (report libs ans set).trace ↔
      status = reportedStatus libs ans set := by
    unfold report
    dsimp only
    split <;> simp
  constructor
  · intro h
    cases hpast : passNamespace ans set with
    | none =>
        rw [trace_of_passNamespace_none hpast] at h
        cases h
    | some ns =>
        rcases (mem_reconcileInner hpast).mp h with heq | ⟨hbound, h⟩
        · cases heq
        rcases h with hproject | ⟨hprojects, h⟩
        · obtain ⟨_, _, _, heq⟩ := of_mem_projectSecrets hproject
          cases heq
        rcases h with hpublish | ⟨hpublishes, hprune | hstatus⟩
        · cases List.mem_singleton.mp hpublish
        · obtain ⟨_, _, heq⟩ := hprune
          cases heq
        · exact ⟨⟨ns, hpast, hbound, hprojects, hpublishes⟩,
            hreport.mp hstatus⟩
  · rintro ⟨⟨ns, hreports⟩, hstatus⟩
    refine (mem_reconcileInner hreports.past).mpr (.inr ⟨hreports.bound,
      .inr ⟨hreports.projects, .inr ⟨hreports.publishes, .inr ?_⟩⟩⟩)
    exact hreport.mpr hstatus

theorem allResolved_eq : allResolved ans set = (failed ans set).isEmpty := by
  unfold allResolved
  dsimp only
  cases failed ans set with
  | nil =>
      rw [List.isEmpty_nil, Bool.true_and, beq_iff_eq, List.length_nil]
      omega
  | cons f rest => rfl

/-- The set is reported Ready exactly when no entry failed. -/
theorem readyTrue_reportedStatus :
    readyTrue (reportedStatus libs ans set).conditions =
      (failed ans set).isEmpty := by
  show readyTrue (statusConditions libs ans set) = _
  unfold statusConditions
  dsimp only
  rw [allResolved_eq]
  split
  · next hall =>
      rw [hall]
      unfold ConditionsApi.setAll
      rw [List.foldl_cons, List.foldl_cons, List.foldl_nil,
        readyTrue_set_other _ _ (show "EntriesResolved" ≠ CType.ready by
          decide), readyTrue_set_ready _ _ rfl]
      rfl
  · next hsome =>
      rw [Bool.eq_false_iff.mpr hsome]
      refine readyTrue_setAll_false ⟨_, List.mem_cons_self, rfl⟩ ?_
      intro u hu htype
      rcases List.mem_cons.mp hu with rfl | hu
      · exact (by decide : "False" ≠ "True")
      · rw [List.mem_singleton.mp hu] at htype
        exact absurd htype (show "EntriesResolved" ≠ CType.ready by decide)

/-! ## The entries of a Ready set -/

/-- Where no entry failed, the resolved entries are the enabled ones. -/
theorem resolved_of_failed_nil (h : failed ans set = []) :
    List.Forall₂ (fun e r => resolveEntry (ans.getPlugin e.2) e.1 = .ok r)
      (enabledEntries set) (resolved ans set) := by
  unfold resolved
  unfold failed at h
  unfold resolveEntries at h ⊢
  generalize enabledEntries set = entries at h ⊢
  induction entries with
  | nil => exact .nil
  | cons e rest ih =>
      rw [List.map_cons] at h ⊢
      cases hresolve : resolveEntry (ans.getPlugin e.2) e.1 with
      | error rejection =>
          rw [hresolve] at h
          cases h
      | ok r =>
          rw [hresolve] at h
          exact .cons hresolve (ih h)

theorem plugin_of_resolveEntry_ok
    {answer : Except KubeError (Option MCPGPlugin)}
    {entry : MCPGPluginSetEntry} {r : ResolvedEntry}
    (h : resolveEntry answer entry = .ok r) :
    ∃ plugin, answer = .ok (some plugin) ∧ r.entryId = entry.id ∧
      r.pluginName = entry.pluginRef ∧
      plugin.status.bind (·.artefactSecretName) =
        some r.artefactSecretName ∧
      (plugin.status.bind (·.resolvedDigest)).getD "" =
        r.resolvedDigest := by
  rcases answer with x | _ | plugin
  · cases h
  · cases h
  · obtain ⟨_, _, _, s, hs, _, rfl⟩ := resolveEntry_ok_iff.mp h
    exact ⟨plugin, rfl, rfl, rfl, hs, rfl⟩

/-- The projection loop read the Secret of that name, and found this. -/
def ReadSource (ans : SetAnswers) (set : MCPGPluginSet) (name : String)
    (source : Secret) : Prop :=
  ∃ e ∈ (resolved ans set).zipIdx, e.1.artefactSecretName = name ∧
    ans.getSource e.2 = .ok (some source)

/-- A copy with the data of the source of that name was applied in the
set's namespace. -/
def Projected (ans : SetAnswers) (set : MCPGPluginSet) (trace : List Effect)
    (name : String) : Prop :=
  ∃ copy owner source, .applySecret copy owner ∈ trace ∧
    copy.name = some name ∧ copy.namespace_ = set.metadata.namespace_ ∧
    ReadSource ans set name source ∧ copy.data = source.data

/-- The enabled entry is listed as this item, under the name and the digest
its plugin had, and the Secret of that name was projected. -/
structure Listed (ans : SetAnswers) (set : MCPGPluginSet)
    (trace : List Effect) (e : MCPGPluginSetEntry × Nat) (item : Json) :
    Prop where
  id : item.get "id" = some (.str e.1.id)
  pluginName : item.get "pluginName" = some (.str e.1.pluginRef)
  secret : ∃ plugin name, ans.getPlugin e.2 = .ok (some plugin) ∧
    plugin.status.bind (·.artefactSecretName) = some name ∧
    item.get "artefactSecretName" = some (.str name) ∧
    item.get "resolvedDigest" =
      some (.str ((plugin.status.bind (·.resolvedDigest)).getD "")) ∧
    Projected ans set trace name

/-- A pass that reports Ready published a document that lists the enabled
entries and nothing else, each with a Secret it applied. -/
def ReadyIsHonest (libs : SetLibs) (ans : SetAnswers)
    (set : MCPGPluginSet) : Prop :=
  (∃ status, .patchStatus status ∈ (reconcileInner libs ans set).trace ∧
    readyTrue status.conditions = true) →
  ∃ doc cm owner items,
    .applyConfigMap doc cm owner ∈ (reconcileInner libs ans set).trace ∧
    cm.data = some [("plugins.json", libs.toStringPretty doc)] ∧
    doc.get "entries" = some (.arr items) ∧
    List.Forall₂ (Listed ans set (reconcileInner libs ans set).trace)
      (enabledEntries set) items

/-- The pass reports, and no entry failed. -/
def ReportsReady (ans : SetAnswers) (set : MCPGPluginSet) : Prop :=
  (∃ ns, Reports ans set ns) ∧ failed ans set = []

/-- Some read of every Secret that is to be projected found it. -/
def SourcesPresent (ans : SetAnswers) (entries : List ResolvedEntry) :
    Prop :=
  ∀ r ∈ entries, ∃ e ∈ entries.zipIdx,
    e.1.artefactSecretName = r.artefactSecretName ∧
    ∃ source, ans.getSource e.2 = .ok (some source)

theorem sourcesPresent_iff :
    SourcesPresent ans (resolved ans set) ↔
      ∀ r ∈ resolved ans set, ∃ source,
        ReadSource ans set r.artefactSecretName source := by
  refine forall₂_congr fun r _ => ⟨?_, ?_⟩
  · rintro ⟨e, he, hname, source, hsource⟩
    exact ⟨source, e, he, hname, hsource⟩
  · rintro ⟨source, e, he, hname, hsource⟩
    exact ⟨e, he, hname, source, hsource⟩

theorem namespace_of_passNamespace (h : passNamespace ans set = some ns) :
    set.metadata.namespace_ = some ns := by
  unfold passNamespace at h
  split at h
  · cases h
  · split at h
    · cases h
    · next ns' hns =>
        split at h
        · cases h
        · split at h
          · cases h
          · cases h
            exact hns

theorem writesReady_iff :
    (∃ status, .patchStatus status ∈ (reconcileInner libs ans set).trace ∧
      readyTrue status.conditions = true) ↔ ReportsReady ans set := by
  constructor
  · rintro ⟨status, hmem, hready⟩
    obtain ⟨hreports, rfl⟩ := patchStatus_mem_iff.mp hmem
    rw [readyTrue_reportedStatus, List.isEmpty_iff] at hready
    exact ⟨hreports, hready⟩
  · rintro ⟨hreports, hnone⟩
    refine ⟨_, patchStatus_mem_iff.mpr ⟨hreports, rfl⟩, ?_⟩
    rw [readyTrue_reportedStatus, hnone]
    rfl

theorem projected_iff (hreports : Reports ans set ns) {name : String} :
    Projected ans set (reconcileInner libs ans set).trace name ↔
      ∃ source, ReadSource ans set name source := by
  constructor
  · rintro ⟨_, _, source, _, _, _, hread, _⟩
    exact ⟨source, hread⟩
  · rintro ⟨source, e, he, rfl, hsource⟩
    have happlied : .applySecret (buildNamespaceCopy set ns source e.1).1
        (buildNamespaceCopy set ns source e.1).2 ∈
        (projectSecrets ans set ns 0 (resolved ans set)).trace :=
      (applySecret_mem_projectSecrets hreports.projects).mpr
        ⟨e, he, source, hsource, rfl⟩
    exact ⟨_, _, source,
      (mem_reconcileInner hreports.past).mpr
        (.inr ⟨hreports.bound, .inl happlied⟩),
      rfl, (namespace_of_passNamespace hreports.past).symm,
      ⟨e, he, rfl, hsource⟩, rfl⟩

theorem listed_of_resolved {e : MCPGPluginSetEntry × Nat}
    {r : ResolvedEntry}
    (hresolve : resolveEntry (ans.getPlugin e.2) e.1 = .ok r)
    (hreports : Reports ans set ns)
    (hread : ∃ source, ReadSource ans set r.artefactSecretName source) :
    Listed ans set (reconcileInner libs ans set).trace e
      (renderResolvedEntry set r) := by
  obtain ⟨plugin, hplugin, hid, hname, hsecret, hdigest⟩ :=
    plugin_of_resolveEntry_ok hresolve
  constructor
  · rw [← hid]
    rfl
  · rw [← hname]
    rfl
  · refine ⟨plugin, r.artefactSecretName, hplugin, hsecret, rfl, ?_,
      (projected_iff hreports).mpr hread⟩
    rw [hdigest]
    rfl

theorem of_applyConfigMap_mem {doc : Json} {cm : ConfigMap}
    {owner : OwnerReference}
    (h : .applyConfigMap doc cm owner ∈
      (reconcileInner libs ans set).trace) :
    doc = resolvedDoc set (resolved ans set) := by
  cases issues_of_mem h
  rfl

theorem readyIsHonest_of_sourcesPresent
    (h : ReportsReady ans set → SourcesPresent ans (resolved ans set)) :
    ReadyIsHonest libs ans set := by
  intro hready
  obtain ⟨⟨ns, hreports⟩, hnone⟩ := writesReady_iff.mp hready
  have hpresent := sourcesPresent_iff.mp (h ⟨⟨ns, hreports⟩, hnone⟩)
  have hpublished : .applyConfigMap (resolvedDoc set (resolved ans set))
      (buildResolvedConfigmap set ns
        (renderResolvedSet libs set (resolved ans set)).1
        (renderResolvedSet libs set (resolved ans set)).2).1
      (ownerReference set (set.metadata.name.getD "unknown")) ∈
      (reconcileInner libs ans set).trace :=
    (mem_reconcileInner hreports.past).mpr (.inr ⟨hreports.bound,
      .inr ⟨hreports.projects, .inl (List.mem_singleton_self _)⟩⟩)
  refine ⟨_, _, _, (resolved ans set).map (renderResolvedEntry set),
    hpublished, rfl, rfl, ?_⟩
  obtain ⟨hlength, hresolve⟩ :=
    List.forall₂_iff_zip.mp (resolved_of_failed_nil hnone)
  rw [List.forall₂_map_right_iff]
  refine List.forall₂_iff_zip.mpr ⟨hlength, fun hmem => ?_⟩
  exact listed_of_resolved (hresolve hmem) hreports
    (hpresent _ (List.of_mem_zip hmem).2)

theorem sourcesPresent_of_readyIsHonest (h : ReadyIsHonest libs ans set)
    (hready : ReportsReady ans set) :
    SourcesPresent ans (resolved ans set) := by
  obtain ⟨doc, cm, owner, items, hpublished, _, hitems, hlisted⟩ :=
    h (writesReady_iff.mpr hready)
  obtain ⟨⟨ns, hreports⟩, _⟩ := hready
  cases of_applyConfigMap_mem hpublished
  have heq : items = (resolved ans set).map (renderResolvedEntry set) := by
    cases hitems
    rfl
  rw [heq, List.forall₂_map_right_iff] at hlisted
  obtain ⟨hlength, hitem⟩ := List.forall₂_iff_zip.mp hlisted
  refine sourcesPresent_iff.mpr fun r hr => ?_
  -- the entry that is listed as `r`
  obtain ⟨i, hi, rfl⟩ := List.mem_iff_getElem.mp hr
  have hzip : i < ((enabledEntries set).zip (resolved ans set)).length := by
    rw [List.length_zip, hlength, Nat.min_self]
    exact hi
  have hmem := List.getElem_mem hzip
  rw [List.getElem_zip] at hmem
  obtain ⟨_, name, _, _, hname, _, hprojected⟩ := (hitem hmem).secret
  have hsame : name = (resolved ans set)[i].artefactSecretName := by
    cases hname
    rfl
  rw [← hsame]
  exact (projected_iff hreports).mp hprojected

/-- A Ready report is honest exactly when every source was there. -/
theorem readyIsHonest_iff :
    ReadyIsHonest libs ans set ↔
      (ReportsReady ans set → SourcesPresent ans (resolved ans set)) :=
  ⟨sourcesPresent_of_readyIsHonest, readyIsHonest_of_sourcesPresent⟩

end Stages

/-! ## A source that vanishes -/

namespace Sample

def libs : SetLibs where
  conditions := upsertConditions
  toStringPretty _ := "\x7b\x7d"
  sha256Hex _ := "44136fa3"

/-- A plugin that is Ready, with its Secret. -/
def plugin : MCPGPlugin where
  metadata := { name := some "audit" }
  spec :=
    { pluginId := "audit", version := "1.0.0", pluginClass := "middleware"
      oci :=
        { image := "ghcr.io/mcpg-dev/plugins/audit:1.0.0"
          pullSecretRef := none, mirrorRef := none }
      trust :=
        { signingKeyRef := { secretName := "keys", key := "pub" }
          cosignIdentity := none, slsaProvenance := none } }
  status := some
    { conditions :=
        [{ type := CType.ready, status := "True"
           reason := Reasons.reconciled, message := ""
           observedGeneration := some 1 }]
      resolvedDigest := some "ab12"
      artefactSecretName := some "plugin-audit" }

def set : MCPGPluginSet where
  metadata :=
    { name := some "secure", namespace_ := some "payments"
      finalizers := some [operatorFinalizer], uid := some "6f1c" }
  spec :=
    { entries :=
        [{ id := "audit", pluginRef := "audit", enabled := true
           config := none }] }

/-- The plugin is there, and its source Secret is not. -/
def sourceGone : SetAnswers where
  addFinalizer := .ok ()
  removeFinalizer := .ok ()
  getPlugin _ := .ok (some plugin)
  ensureTenantSecretBinding := .ok ()
  getSource _ := .ok none
  applySecret _ := .ok ()
  applyConfigMap := .ok ()
  listSecrets := .ok []
  now := 0

end Sample

/-- The set is reported Ready, and the Secret its document names was not
applied. -/
theorem not_readyIsHonest_sourceGone :
    ¬ ReadyIsHonest Sample.libs Sample.sourceGone Sample.set := by
  intro h
  have hprojects : Projects Sample.sourceGone
      (resolved Sample.sourceGone Sample.set).zipIdx :=
    fun _ _ => ⟨none, rfl, fun hsome => nomatch hsome⟩
  have hready : ReportsReady Sample.sourceGone Sample.set :=
    ⟨⟨"payments", by decide, rfl, hprojects, rfl⟩, by decide +kernel⟩
  have hmem : (resolved Sample.sourceGone Sample.set) ≠ [] := by
    decide +kernel
  obtain ⟨r, hr⟩ := List.exists_mem_of_ne_nil _ hmem
  obtain ⟨_, _, _, source, hsource⟩ :=
    sourcesPresent_of_readyIsHonest h hready r hr
  cases hsource

end McpgOperator.PluginSet.Reconcile
