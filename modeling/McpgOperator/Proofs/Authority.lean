import McpgOperator.Lib.Transition
import McpgOperator.Proofs.RevocationMount
import McpgOperator.RevocationList.Reconcile

/-!
# The authoritative revocation list

The ConfigMap of the revocation lists has one name, so each list that is
reconciled writes over what the others wrote. The passes of all lists run
interleaved, one at a time for each list, on what the watch has delivered;
the state remembers which namespaces the last successful pass over the
present version of `cluster-default` reached. That they hold its rendering
survives the applies of another list only where that list says the same.
-/

namespace McpgOperator.RevocationList

open McpgOperator.Kube McpgOperator.Plugin McpgOperator.Text Transition
open McpgOperator.Gateway (MCPGGateway ConfigMaps content_apply_self)

/-! ## Lists that render alike -/

/-- What the rendering shows of an entry. -/
def revoked (e : RevocationEntry) : String × String × Option DateTime :=
  (toAsciiLowercase e.artifactSha256, e.reason, e.revokedAt)

/-- The lists say the same, up to the case of the digests. -/
def SameRevocations (a b : MCPGRevocationListSpec) : Prop :=
  a.version = b.version ∧ a.issuedAt = b.issuedAt ∧
    a.revocations.map revoked = b.revocations.map revoked

instance (a b : MCPGRevocationListSpec) : Decidable (SameRevocations a b) :=
  inferInstanceAs (Decidable (_ ∧ _))

theorem map_renderEntry (libs : RevocationLibs)
    (entries : List RevocationEntry) :
    entries.map (renderEntry libs) =
      (entries.map revoked).map fun (sha, reason, revokedAt) =>
        .obj <|
          [("artifact_sha256", .str sha), ("reason", .str reason)] ++
          (revokedAt.map fun t =>
            ("revoked_at", Json.str (libs.toRfc3339 t))).toList := by
  rw [List.map_map]
  rfl

theorem renderRevocationJson_congr (libs : RevocationLibs)
    {a b : MCPGRevocationListSpec} (h : SameRevocations a b) :
    renderRevocationJson libs a = renderRevocationJson libs b := by
  obtain ⟨hversion, hissued, hentries⟩ := h
  have hdoc : revocationDoc libs a = revocationDoc libs b := by
    unfold revocationDoc
    rw [map_renderEntry, map_renderEntry, hversion, hissued, hentries]
  unfold renderRevocationJson
  rw [hdoc]

/-! ## The lists and their passes -/

/-- A version of a list, numbered in the order of the changes. -/
structure Version where
  obj : MCPGRevocationList
  number : Nat
  deriving DecidableEq

structure Running where
  read : Version
  targets : List String
  /-- The namespaces whose apply succeeded. -/
  applied : List String
  pending : List String
  deriving DecidableEq

structure State where
  clock : Nat
  stored : String → Option Version
  /-- What the watch has delivered of each list. -/
  observed : String → Option Version
  gateways : List MCPGGateway
  running : String → Option Running
  configMaps : String → ConfigMaps
  /-- The namespaces of the last successful pass over the present version
  of `cluster-default`, if there was one since it changed. -/
  synced : Option (List String)

inductive Action
  /-- A create, an edit or, without an object, a removal. -/
  | change (name : String) (obj : Option MCPGRevocationList)
  | observe (name : String)
  | placeGateways (gateways : List MCPGGateway)
  /-- The pass has listed the gateways. -/
  | start (name : String)
  /-- The apply into the next namespace is answered. -/
  | apply (name : String) (answer : Except KubeError Unit)
  | finish (name : String)
  | abort (name : String)

def State.change (s : State) (name : String)
    (obj : Option MCPGRevocationList) : State :=
  { s with
    clock := s.clock + 1
    stored :=
      Function.update s.stored name
        (obj.map fun o => { obj := o, number := s.clock + 1 })
    synced := if name = clusterDefaultRevocationList then none else s.synced }

def State.observe (s : State) (name : String) : State :=
  { s with observed := Function.update s.observed name (s.stored name) }

def State.setRunning (s : State) (name : String) (r : Option Running) :
    State :=
  { s with running := Function.update s.running name r }

def Running.begin (read : Version) (targets : List String) : Running :=
  { read := read, targets := targets, applied := [], pending := targets }

/-- The apply into `ns` succeeds. -/
def State.write (libs : RevocationLibs) (s : State) (name : String)
    (r : Running) (ns : String) (rest : List String) : State :=
  { s with
    running :=
      Function.update s.running name
        (some { r with applied := r.applied ++ [ns], pending := rest })
    configMaps :=
      Function.update s.configMaps ns
        ((s.configMaps ns).apply (listConfigmap libs r.read.obj ns)) }

/-- The pass is a success, over the version that is stored. -/
def Running.syncs (r : Running) (s : State) (name : String) : Bool :=
  name == clusterDefaultRevocationList &&
    r.applied.length == r.targets.length &&
    (s.stored name).map (·.number) == some r.read.number

def State.finish (s : State) (name : String) (r : Running) : State :=
  { s.setRunning name none with
    synced := if r.syncs s name then some r.targets else s.synced }

def State.step (libs : RevocationLibs) (s : State) (a : Action) :
    Option State :=
  match a with
  | .change name obj =>
      if ∀ o ∈ obj, o.metadata.name = some name then
        some (s.change name obj)
      else none
  | .observe name => some (s.observe name)
  | .placeGateways gateways => some { s with gateways := gateways }
  | .start name =>
      match s.running name, s.observed name with
      | none, some v =>
          if v.obj.metadata.deletionTimestamp.isSome then none
          else
            some
              (s.setRunning name
                (some (.begin v (namespacesWithGateways s.gateways))))
      | _, _ => none
  | .apply name answer =>
      match s.running name with
      | none => none
      | some r =>
          match r.pending, answer with
          | [], _ => none
          | ns :: rest, .ok _ => some (s.write libs name r ns rest)
          | _ :: rest, .error _ =>
              some (s.setRunning name (some { r with pending := rest }))
  | .finish name =>
      match s.running name with
      | none => none
      | some r => if r.pending = [] then some (s.finish name r) else none
  | .abort name => some (s.setRunning name none)

/-- Any number of lists, nothing reconciled yet. -/
def system (libs : RevocationLibs) : System State Action where
  init s :=
    s.clock = 0 ∧ (∀ name, s.stored name = none) ∧
      (∀ name, s.observed name = none) ∧ (∀ name, s.running name = none) ∧
      s.synced = none
  step := State.step libs

inductive Steps (libs : RevocationLibs) (s : State) : Action → State → Prop
  | change {name : String} {obj : Option MCPGRevocationList} :
      Steps libs s (.change name obj) (s.change name obj)
  | observe {name : String} :
      Steps libs s (.observe name) (s.observe name)
  | placeGateways {gateways : List MCPGGateway} :
      Steps libs s (.placeGateways gateways) { s with gateways := gateways }
  | start {name : String} {v : Version} (hv : s.observed name = some v) :
      Steps libs s (.start name)
        (s.setRunning name
          (some (.begin v (namespacesWithGateways s.gateways))))
  | write {name : String} {r : Running} {ns : String} {rest : List String}
      {u : Unit} (hr : s.running name = some r)
      (hpending : r.pending = ns :: rest) :
      Steps libs s (.apply name (.ok u)) (s.write libs name r ns rest)
  | fail {name : String} {r : Running} {ns : String} {rest : List String}
      {e : KubeError} (hr : s.running name = some r)
      (hpending : r.pending = ns :: rest) :
      Steps libs s (.apply name (.error e))
        (s.setRunning name (some { r with pending := rest }))
  | finish {name : String} {r : Running} (hr : s.running name = some r)
      (hpending : r.pending = []) :
      Steps libs s (.finish name) (s.finish name r)
  | abort {name : String} :
      Steps libs s (.abort name) (s.setRunning name none)

theorem steps_of_step {libs : RevocationLibs} {s s' : State} {a : Action}
    (h : s.step libs a = some s') : Steps libs s a s' := by
  cases a with
  | change name obj =>
      dsimp only [State.step] at h
      split at h
      · cases h
        exact .change
      · cases h
  | observe name =>
      cases h
      exact .observe
  | placeGateways gateways =>
      cases h
      exact .placeGateways
  | start name =>
      dsimp only [State.step] at h
      split at h
      · next v _ hv =>
          split at h
          · cases h
          · cases h
            exact .start hv
      · cases h
  | apply name answer =>
      dsimp only [State.step] at h
      split at h
      · cases h
      next r hr =>
      split at h
      · cases h
      · next ns rest u hpending =>
          cases h
          exact .write hr hpending
      · next ns rest e hpending =>
          cases h
          exact .fail hr hpending
  | finish name =>
      dsimp only [State.step] at h
      split at h
      · cases h
      next r hr =>
      split at h
      · next hpending =>
          cases h
          exact .finish hr hpending
      · cases h
  | abort name =>
      cases h
      exact .abort

/-! ## What a whole pass does -/

/-- The pass over the list, uninterrupted. -/
def passActions (ans : ListAnswers) (name : String)
    (targets : List String) : List Action :=
  .start name ::
    (targets.map (fun ns => .apply name (ans.applyConfigMap ns)) ++
      [.finish name])

def storeEffects (ans : ListAnswers) (stored : String → ConfigMaps)
    (trace : List Effect) : String → ConfigMaps :=
  trace.foldl
    (fun stored e =>
      match e with
      | .applyConfigMap ns cm =>
          if (ans.applyConfigMap ns).isOk then
            Function.update stored ns ((stored ns).apply cm)
          else stored
      | _ => stored)
    stored

section Pass

variable {libs : RevocationLibs} {ans : ListAnswers} {s : State}
  {name : String} {r : Running}

variable (libs ans) in
theorem run_applies (rest : List String) (hr : s.running name = some r)
    (hpending : r.pending = rest) :
    ∃ s', (system libs).run s
        (rest.map fun ns => .apply name (ans.applyConfigMap ns)) = some s' ∧
      s'.running name =
        some
          { r with
            applied := r.applied ++ appliedNamespaces ans rest
            pending := [] } ∧
      s'.stored = s.stored ∧
      s'.configMaps =
        storeEffects ans s.configMaps
          (rest.map fun ns =>
            .applyConfigMap ns (listConfigmap libs r.read.obj ns)) := by
  induction rest generalizing s r with
  | nil =>
      refine ⟨s, rfl, ?_, rfl, rfl⟩
      rw [hr]
      cases r
      cases hpending
      simp [appliedNamespaces]
  | cons ns rest ih =>
      cases hans : ans.applyConfigMap ns with
      | ok u =>
          have hstep : (system libs).step s (.apply name (.ok u)) =
              some (s.write libs name r ns rest) := by
            dsimp only [system, State.step]
            rw [hr]
            dsimp only
            rw [hpending]
          obtain ⟨s', hrun, hend, hstored, hcms⟩ :=
            ih (s := s.write libs name r ns rest)
              (Function.update_self name _ s.running) rfl
          refine ⟨s', ?_, ?_, hstored, ?_⟩
          · rw [List.map_cons, hans, System.run_cons_of_step hstep]
            exact hrun
          · rw [hend]
            simp [appliedNamespaces, hans, Except.isOk, Except.toBool]
          · rw [hcms, List.map_cons]
            simp [storeEffects, hans, State.write, Except.isOk, Except.toBool]
      | error e =>
          have hstep : (system libs).step s (.apply name (.error e)) =
              some (s.setRunning name (some { r with pending := rest })) := by
            dsimp only [system, State.step]
            rw [hr]
            dsimp only
            rw [hpending]
          obtain ⟨s', hrun, hend, hstored, hcms⟩ :=
            ih (s := s.setRunning name (some { r with pending := rest }))
              (Function.update_self name _ s.running) rfl
          refine ⟨s', ?_, ?_, hstored, ?_⟩
          · rw [List.map_cons, hans, System.run_cons_of_step hstep]
            exact hrun
          · rw [hend]
            simp [appliedNamespaces, hans, Except.isOk, Except.toBool]
          · rw [hcms, List.map_cons]
            simp [storeEffects, hans, State.setRunning, Except.isOk,
              Except.toBool]

/-- A pass that nothing interrupts leaves what `reconcileInner` applies, and
one that ends as a success over the stored `cluster-default` syncs. -/
theorem run_pass {v : Version} {added : Bool}
    (hidle : s.running name = none) (hv : s.observed name = some v)
    (hname : v.obj.metadata.name = some name)
    (hlive : v.obj.metadata.deletionTimestamp = none)
    (hfinalizer : ensureFinalizer ans.addFinalizer v.obj.metadata = .ok added)
    (hgateways : ans.listGateways = .ok s.gateways) :
    ∃ s', (system libs).run s
        (passActions ans name (namespacesWithGateways s.gateways)) =
          some s' ∧
      s'.configMaps =
        storeEffects ans s.configMaps (reconcileInner libs ans v.obj).trace ∧
      ((reconcileInner libs ans v.obj).result = .ok (.after 60, .success) →
        name = clusterDefaultRevocationList → s.stored name = some v →
        s'.synced = some (namespacesWithGateways s.gateways)) := by
  set targets := namespacesWithGateways s.gateways with htargets
  have hpass : reconcileInner libs ans v.obj =
      materialise libs ans v.obj targets := by
    unfold reconcileInner
    rw [hname, hlive, hfinalizer, hgateways]
    rfl
  have hstart : (system libs).step s (.start name) =
      some (s.setRunning name (some (.begin v targets))) := by
    dsimp only [system, State.step]
    rw [hidle, hv]
    dsimp only
    rw [hlive]
    rfl
  obtain ⟨m, hrun, hend, hstored, hcms⟩ :=
    run_applies libs ans
      (s := s.setRunning name (some (.begin v targets))) targets
      (Function.update_self name _ s.running) rfl
  let ended : Running :=
    { read := v, targets := targets
      applied := appliedNamespaces ans targets, pending := [] }
  have hfinish : (system libs).step m (.finish name) =
      some (m.finish name ended) := by
    dsimp only [system, State.step]
    rw [hend]
    rfl
  refine ⟨m.finish name ended, ?_, ?_, ?_⟩
  · unfold passActions
    rw [System.run_cons_of_step hstart]
    refine System.run_append hrun ?_
    exact System.run_cons_of_step hfinish []
  · rw [hpass]
    exact hcms.trans (by simp [materialise, storeEffects, State.setRunning,
      Running.begin])
  · intro hsuccess hdefault hcurrent
    rw [hpass] at hsuccess
    have hready : (appliedNamespaces ans targets).length =
        targets.length := by
      by_contra hne
      unfold materialise at hsuccess
      dsimp only at hsuccess
      rw [if_neg hne] at hsuccess
      cases hsuccess
    subst hdefault
    unfold State.finish Running.syncs
    rw [hstored]
    simp [ended, hready, State.setRunning, hcurrent]

end Pass

/-! ## What the namespaces hold -/

def State.content (s : State) (ns : String) : Option String :=
  (s.configMaps ns).content configmapName revocationsFile

/-- The namespaces the running pass over `cluster-default` has written, if
it runs over this version. -/
def State.appliedOf (s : State) (cur : Version) : List String :=
  match s.running clusterDefaultRevocationList with
  | none => []
  | some r => if r.read.number = cur.number then r.applied else []

/-- A successful pass over this version of `cluster-default` reached the
namespace, or the running one did. -/
def Covered (s : State) (cur : Version) (ns : String) : Prop :=
  ns ∈ s.synced.getD [] ∨ ns ∈ s.appliedOf cur

instance (s : State) (cur : Version) (ns : String) :
    Decidable (Covered s cur ns) :=
  inferInstanceAs (Decidable (_ ∨ _))

/-- Once reconciled since its last change, `cluster-default` is what the
namespaces it went to hold. -/
def Authoritative (libs : RevocationLibs) (s : State) : Prop :=
  ∀ targets ∈ s.synced, ∀ cur ∈ s.stored clusterDefaultRevocationList,
    ∀ ns ∈ targets,
      s.content ns = some (renderRevocationJson libs cur.obj.spec).1

/-- Another list whose apply succeeds says what `cluster-default` says,
wherever that one was already written. -/
def LeavesAuthority (s : State) : Action → Prop
  | .apply name (.ok _) =>
      name ≠ clusterDefaultRevocationList →
        ∀ r ∈ s.running name, ∀ ns ∈ r.pending.head?,
          ∀ cur ∈ s.stored clusterDefaultRevocationList,
            Covered s cur ns →
              SameRevocations r.read.obj.spec cur.obj.spec
  | _ => True

instance (s : State) : ∀ a, Decidable (LeavesAuthority s a)
  | .apply _ (.ok _) => inferInstanceAs (Decidable (_ → _))
  | .apply _ (.error _) | .change _ _ | .observe _ | .placeGateways _
  | .start _ | .finish _ | .abort _ => isTrue trivial

/-- The number is one that was given out, and the version is the stored one
if that has the number. -/
def Known (s : State) (v : Version) : Prop :=
  v.number ≤ s.clock ∧
    ∀ cur ∈ s.stored clusterDefaultRevocationList,
      cur.number = v.number → cur = v

structure Tracking (s : State) : Prop where
  stored : ∀ cur ∈ s.stored clusterDefaultRevocationList,
    cur.number ≤ s.clock
  observed : ∀ v ∈ s.observed clusterDefaultRevocationList, Known s v
  running : ∀ r ∈ s.running clusterDefaultRevocationList,
    Known s r.read ∧ (r.applied ++ r.pending).Sublist r.targets
  /-- A pass over the present version has read what was observed last. -/
  following : ∀ r ∈ s.running clusterDefaultRevocationList,
    ∀ cur ∈ s.stored clusterDefaultRevocationList,
      r.read.number = cur.number →
        ∀ v ∈ s.observed clusterDefaultRevocationList, v.number = cur.number
  /-- Once synced, nothing older is read. -/
  fresh : s.synced ≠ none →
    ∀ cur ∈ s.stored clusterDefaultRevocationList,
      (∀ v ∈ s.observed clusterDefaultRevocationList,
        v.number = cur.number) ∧
      ∀ r ∈ s.running clusterDefaultRevocationList,
        r.read.number = cur.number

structure Inv (libs : RevocationLibs) (s : State) : Prop
    extends Tracking s where
  content : ∀ cur ∈ s.stored clusterDefaultRevocationList, ∀ ns,
    Covered s cur ns →
      s.content ns = some (renderRevocationJson libs cur.obj.spec).1

section Histories

variable {libs : RevocationLibs} {s s' : State} {name : String} {r : Running}
  {cur : Version}

theorem appliedOf_of_running
    (hr : s.running clusterDefaultRevocationList = some r) :
    s.appliedOf cur =
      if r.read.number = cur.number then r.applied else [] := by
  unfold State.appliedOf
  rw [hr]

theorem not_covered_change {obj : Option MCPGRevocationList}
    (hinv : Inv libs s)
    (hcur : cur ∈ (s.change clusterDefaultRevocationList obj).stored
      clusterDefaultRevocationList) (ns : String) :
    ¬ Covered (s.change clusterDefaultRevocationList obj) cur ns := by
  have hnumber : cur.number = s.clock + 1 := by
    unfold State.change at hcur
    dsimp only at hcur
    rw [Function.update_self] at hcur
    obtain ⟨o, _, rfl⟩ := Option.map_eq_some_iff.mp hcur
    rfl
  rintro (hsynced | happlied)
  · simp [State.change] at hsynced
  · unfold State.appliedOf State.change at happlied
    dsimp only at happlied
    cases hr : s.running clusterDefaultRevocationList with
    | none => simp [hr] at happlied
    | some r =>
        have hle := (hinv.running r hr).1.1
        have hne : r.read.number ≠ cur.number := by omega
        simp [hr, hne] at happlied

theorem inv_change {obj : Option MCPGRevocationList} (hinv : Inv libs s) :
    Inv libs (s.change name obj) := by
  have hclock : (s.change name obj).clock = s.clock + 1 := rfl
  by_cases hname : name = clusterDefaultRevocationList
  · subst hname
    have hnumber : ∀ cur ∈ (s.change clusterDefaultRevocationList obj).stored
        clusterDefaultRevocationList, cur.number = s.clock + 1 := by
      intro cur hcur
      unfold State.change at hcur
      dsimp only at hcur
      rw [Function.update_self] at hcur
      obtain ⟨o, _, rfl⟩ := Option.map_eq_some_iff.mp hcur
      rfl
    have hknown : ∀ v, Known s v →
        Known (s.change clusterDefaultRevocationList obj) v := by
      intro v hv
      refine ⟨hv.1.trans (Nat.le_succ _), fun cur hcur heq => ?_⟩
      have := hnumber cur hcur
      have := hv.1
      omega
    exact
      { stored := fun cur hcur => (hnumber cur hcur).le
        observed := fun v hv => hknown v (hinv.observed v hv)
        running := fun r hr =>
          ⟨hknown _ (hinv.running r hr).1, (hinv.running r hr).2⟩
        following := fun r hr cur hcur heq => by
          have := hnumber cur hcur
          have := (hinv.running r hr).1.1
          omega
        fresh := fun hsynced => absurd rfl hsynced
        content := fun cur hcur ns hcovered =>
          absurd hcovered (not_covered_change hinv hcur ns) }
  · have hstored : (s.change name obj).stored clusterDefaultRevocationList =
        s.stored clusterDefaultRevocationList :=
      Function.update_of_ne (Ne.symm hname) _ _
    have hsynced : (s.change name obj).synced = s.synced := if_neg hname
    have hknown : ∀ v, Known s v → Known (s.change name obj) v := by
      intro v hv
      refine ⟨hv.1.trans (Nat.le_succ _), ?_⟩
      rw [hstored]
      exact hv.2
    refine
      { stored := ?_
        observed := fun v hv => hknown v (hinv.observed v hv)
        running := fun r hr =>
          ⟨hknown _ (hinv.running r hr).1, (hinv.running r hr).2⟩
        following := ?_
        fresh := ?_
        content := ?_ }
    · rw [hstored, hclock]
      exact fun cur hcur => (hinv.stored cur hcur).trans (Nat.le_succ _)
    · rw [hstored]
      exact hinv.following
    · rw [hstored, hsynced]
      exact hinv.fresh
    · intro cur hcur ns hcovered
      rw [hstored] at hcur
      unfold Covered at hcovered
      rw [hsynced] at hcovered
      exact hinv.content cur hcur ns hcovered

theorem inv_observe (hinv : Inv libs s) : Inv libs (s.observe name) := by
  by_cases hname : name = clusterDefaultRevocationList
  · subst hname
    have hobserved : (s.observe clusterDefaultRevocationList).observed
        clusterDefaultRevocationList =
          s.stored clusterDefaultRevocationList :=
      Function.update_self clusterDefaultRevocationList _ s.observed
    refine
      { stored := hinv.stored
        observed := ?_
        running := hinv.running
        following := ?_
        fresh := ?_
        content := hinv.content }
    · rw [hobserved]
      exact fun v hv =>
        ⟨hinv.stored v hv, fun cur hcur _ => Option.mem_unique hcur hv⟩
    · rw [hobserved]
      intro r hr cur hcur _ v hv
      rw [Option.mem_unique hv hcur]
    · rw [hobserved]
      intro hsynced cur hcur
      refine ⟨fun v hv => ?_, (hinv.fresh hsynced cur hcur).2⟩
      rw [Option.mem_unique hv hcur]
  · have hobserved : (s.observe name).observed clusterDefaultRevocationList =
        s.observed clusterDefaultRevocationList :=
      Function.update_of_ne (Ne.symm hname) _ _
    refine
      { stored := hinv.stored
        observed := ?_
        running := hinv.running
        following := ?_
        fresh := ?_
        content := hinv.content }
    · rw [hobserved]
      exact hinv.observed
    · rw [hobserved]
      exact hinv.following
    · rw [hobserved]
      exact hinv.fresh

theorem appliedOf_setRunning_other {o : Option Running}
    (hname : name ≠ clusterDefaultRevocationList) :
    (s.setRunning name o).appliedOf cur = s.appliedOf cur := by
  unfold State.appliedOf State.setRunning
  dsimp only
  rw [Function.update_of_ne (Ne.symm hname)]

theorem tracking_setRunning {o : Option Running}
    (hread : ∀ r ∈ o, s.observed name = some r.read ∨
      ∃ r', s.running name = some r' ∧ r.read = r'.read)
    (hsub : name = clusterDefaultRevocationList → ∀ r ∈ o,
      (r.applied ++ r.pending).Sublist r.targets)
    (htrack : Tracking s) : Tracking (s.setRunning name o) := by
  by_cases hname : name = clusterDefaultRevocationList
  swap
  · have hrunning : (s.setRunning name o).running
        clusterDefaultRevocationList =
          s.running clusterDefaultRevocationList :=
      Function.update_of_ne (Ne.symm hname) _ _
    refine
      { stored := htrack.stored
        observed := htrack.observed
        running := ?_
        following := ?_
        fresh := ?_ }
    · rw [hrunning]
      exact htrack.running
    · rw [hrunning]
      exact htrack.following
    · rw [hrunning]
      exact htrack.fresh
  subst hname
  have hrunning : (s.setRunning clusterDefaultRevocationList o).running
      clusterDefaultRevocationList = o :=
    Function.update_self clusterDefaultRevocationList _ s.running
  refine
    { stored := htrack.stored
      observed := htrack.observed
      running := ?_
      following := ?_
      fresh := ?_ }
  · rw [hrunning]
    intro r hr
    refine ⟨?_, hsub rfl r hr⟩
    rcases hread r hr with hobserved | ⟨r', hr', heq⟩
    · exact htrack.observed _ hobserved
    · rw [heq]
      exact (htrack.running r' hr').1
  · rw [hrunning]
    intro r hr cur hcur hnumber v hv
    rcases hread r hr with hobserved | ⟨r', hr', heq⟩
    · rw [Option.mem_unique hv hobserved]
      exact hnumber
    · rw [heq] at hnumber
      exact htrack.following r' hr' cur hcur hnumber v hv
  · rw [hrunning]
    intro hsynced cur hcur
    refine ⟨(htrack.fresh hsynced cur hcur).1, fun r hr => ?_⟩
    rcases hread r hr with hobserved | ⟨r', hr', heq⟩
    · exact (htrack.fresh hsynced cur hcur).1 _ hobserved
    · rw [heq]
      exact (htrack.fresh hsynced cur hcur).2 r' hr'

/-- What is covered while a pass begins, goes on or ends without a write was
covered before. -/
theorem covered_of_setRunning {o : Option Running} {ns : String}
    (happlied : name = clusterDefaultRevocationList → ∀ r ∈ o,
      r.applied = [] ∨ ∃ r', s.running name = some r' ∧
        r.read = r'.read ∧ r.applied = r'.applied)
    (h : Covered (s.setRunning name o) cur ns) : Covered s cur ns := by
  by_cases hname : name = clusterDefaultRevocationList
  swap
  · unfold Covered at h
    rw [appliedOf_setRunning_other hname] at h
    exact h
  subst hname
  rcases h with hsynced | hof
  · exact .inl hsynced
  unfold State.appliedOf State.setRunning at hof
  dsimp only at hof
  rw [Function.update_self] at hof
  cases o with
  | none => cases hof
  | some r =>
      dsimp only at hof
      rcases happlied rfl r rfl with hnil | ⟨r', hr', hread, heq⟩
      · rw [hnil, ite_self] at hof
        cases hof
      · rw [hread, heq] at hof
        refine .inr ?_
        rw [appliedOf_of_running hr']
        exact hof

theorem inv_start {v : Version} (hv : s.observed name = some v)
    (targets : List String) (hinv : Inv libs s) :
    Inv libs (s.setRunning name (some (.begin v targets))) where
  toTracking := by
    refine tracking_setRunning ?_ ?_ hinv.toTracking
    · rintro r ⟨⟩
      exact .inl hv
    · rintro _ r ⟨⟩
      exact List.Sublist.refl _
  content := fun cur hcur ns hcovered =>
    hinv.content cur hcur ns <|
      covered_of_setRunning (fun _ r hr => .inl (by cases hr; rfl)) hcovered

theorem inv_abort (hinv : Inv libs s) :
    Inv libs (s.setRunning name none) where
  toTracking :=
    tracking_setRunning (fun _ hr => nomatch hr)
      (fun _ _ hr => nomatch hr) hinv.toTracking
  content := fun cur hcur ns hcovered =>
    hinv.content cur hcur ns <|
      covered_of_setRunning (o := none) (fun _ _ hr => nomatch hr) hcovered

theorem content_write_ne {ns ns' : String} {rest : List String}
    (hne : ns' ≠ ns) :
    (s.write libs name r ns rest).content ns' = s.content ns' := by
  unfold State.content State.write
  dsimp only
  rw [Function.update_of_ne hne]

theorem content_write_self {ns : String} {rest : List String} :
    (s.write libs name r ns rest).content ns =
      some (renderRevocationJson libs r.read.obj.spec).1 := by
  unfold State.content State.write
  dsimp only
  rw [Function.update_self]
  exact content_apply_self _ rfl rfl

theorem inv_fail {ns : String} {rest : List String}
    (hr : s.running name = some r) (hpending : r.pending = ns :: rest)
    (hinv : Inv libs s) :
    Inv libs (s.setRunning name (some { r with pending := rest })) where
  toTracking := by
    refine tracking_setRunning ?_ ?_ hinv.toTracking
    · rintro _ ⟨⟩
      exact .inr ⟨r, hr, rfl⟩
    · rintro rfl _ ⟨⟩
      have hsub := (hinv.running r hr).2
      rw [hpending] at hsub
      exact ((List.sublist_cons_self ns rest).append_left r.applied).trans
        hsub
  content := fun cur hcur ns hcovered =>
    hinv.content cur hcur ns <|
      covered_of_setRunning
        (fun _ _ heq => .inr ⟨r, hr, by cases heq; exact ⟨rfl, rfl⟩⟩)
        hcovered

theorem covered_of_write {ns ns' : String} {rest : List String}
    (hr : s.running name = some r) (hne : ns' ≠ ns)
    (h : Covered (s.write libs name r ns rest) cur ns') :
    Covered s cur ns' := by
  rcases h with hsynced | hof
  · exact .inl hsynced
  refine .inr ?_
  unfold State.appliedOf State.write at hof
  dsimp only at hof
  by_cases hname : name = clusterDefaultRevocationList
  · subst hname
    rw [Function.update_self] at hof
    rw [appliedOf_of_running hr]
    dsimp only at hof
    split at hof
    · next hnumber =>
        rw [if_pos hnumber]
        rcases List.mem_append.mp hof with hold | hnew
        · exact hold
        · exact absurd (List.mem_singleton.mp hnew) hne
    · cases hof
  · rw [Function.update_of_ne (Ne.symm hname)] at hof
    exact hof

theorem inv_write {ns : String} {rest : List String}
    (hr : s.running name = some r) (hpending : r.pending = ns :: rest)
    (hleaves : name ≠ clusterDefaultRevocationList →
      ∀ cur ∈ s.stored clusterDefaultRevocationList, Covered s cur ns →
        SameRevocations r.read.obj.spec cur.obj.spec)
    (hinv : Inv libs s) : Inv libs (s.write libs name r ns rest) where
  toTracking := by
    have htrack : Tracking (s.setRunning name
        (some { r with applied := r.applied ++ [ns], pending := rest })) := by
      refine tracking_setRunning ?_ ?_ hinv.toTracking
      · rintro _ ⟨⟩
        exact .inr ⟨r, hr, rfl⟩
      · rintro rfl _ ⟨⟩
        have hsub := (hinv.running r hr).2
        rw [hpending] at hsub
        rw [List.append_assoc]
        exact hsub
    exact
      ⟨htrack.stored, htrack.observed, htrack.running, htrack.following,
        htrack.fresh⟩
  content := by
    intro cur hcur ns' hcovered
    by_cases hns : ns' = ns
    swap
    · rw [content_write_ne hns]
      exact hinv.content cur hcur ns' (covered_of_write hr hns hcovered)
    subst hns
    rw [content_write_self]
    by_cases hname : name = clusterDefaultRevocationList
    · -- the pass over `cluster-default` writes only what it covers
      subst hname
      have hnumber : r.read.number = cur.number := by
        rcases hcovered with hsynced | hof
        · have hne : s.synced ≠ none := by
            intro hnone
            unfold State.write at hsynced
            dsimp only at hsynced
            rw [hnone] at hsynced
            cases hsynced
          exact (hinv.fresh hne cur hcur).2 r hr
        · unfold State.appliedOf State.write at hof
          dsimp only at hof
          rw [Function.update_self] at hof
          by_contra hne
          dsimp only at hof
          rw [if_neg hne] at hof
          cases hof
      rw [(hinv.running r hr).1.2 cur hcur hnumber.symm]
    · have hcovered' : Covered s cur ns' := by
        unfold Covered State.appliedOf State.write at hcovered
        dsimp only at hcovered
        rw [Function.update_of_ne (Ne.symm hname)] at hcovered
        exact hcovered
      rw [renderRevocationJson_congr libs
        (hleaves hname cur hcur hcovered')]

theorem inv_finish (hr : s.running name = some r) (hpending : r.pending = [])
    (hinv : Inv libs s) : Inv libs (s.finish name r) := by
  have hended : Inv libs (s.setRunning name none) := inv_abort hinv
  by_cases hsyncs : r.syncs s name = true
  swap
  · unfold State.finish
    rw [if_neg hsyncs]
    exact hended
  have hfinish : s.finish name r =
      { s.setRunning name none with synced := some r.targets } := by
    unfold State.finish
    rw [if_pos hsyncs]
  rw [hfinish]
  unfold Running.syncs at hsyncs
  rw [Bool.and_eq_true, Bool.and_eq_true, beq_iff_eq, beq_iff_eq,
    beq_iff_eq] at hsyncs
  obtain ⟨⟨rfl, hlength⟩, hcurrent⟩ := hsyncs
  have happlied : r.applied = r.targets := by
    have hsub := (hinv.running r hr).2
    rw [hpending, List.append_nil] at hsub
    exact hsub.eq_of_length hlength
  have hnumber : ∀ cur ∈ s.stored clusterDefaultRevocationList,
      r.read.number = cur.number := by
    intro cur hcur
    rw [Option.mem_def.mp hcur] at hcurrent
    exact (Option.some.inj hcurrent).symm
  have hidle : (s.setRunning clusterDefaultRevocationList none).running
      clusterDefaultRevocationList = none :=
    Function.update_self clusterDefaultRevocationList _ s.running
  refine
    { stored := hended.stored
      observed := hended.observed
      running := hended.running
      following := hended.following
      fresh := fun _ cur hcur => ⟨?_, fun r' hr' => ?_⟩
      content := fun cur hcur ns hcovered => ?_ }
  · exact hinv.following r hr cur hcur (hnumber cur hcur)
  · have hnone : none = some r' := hidle.symm.trans hr'
    cases hnone
  · refine hinv.content cur hcur ns (.inr ?_)
    rw [appliedOf_of_running hr, if_pos (hnumber cur hcur), happlied]
    rcases hcovered with hsynced | hof
    · exact hsynced
    · unfold State.appliedOf at hof
      dsimp only at hof
      rw [hidle] at hof
      cases hof

theorem inv_step {a : Action} (hinv : Inv libs s)
    (hleaves : LeavesAuthority s a) (h : s.step libs a = some s') :
    Inv libs s' := by
  cases steps_of_step h with
  | change => exact inv_change hinv
  | observe => exact inv_observe hinv
  | placeGateways =>
      exact
        ⟨⟨hinv.stored, hinv.observed, hinv.running, hinv.following,
          hinv.fresh⟩, hinv.content⟩
  | start hv => exact inv_start hv _ hinv
  | @write name r ns rest u hr hpending =>
      refine inv_write hr hpending (fun hname cur hcur hcovered => ?_) hinv
      refine hleaves hname r hr ns ?_ cur hcur hcovered
      rw [hpending]
      rfl
  | fail hr hpending => exact inv_fail hr hpending hinv
  | finish hr hpending => exact inv_finish hr hpending hinv
  | abort => exact inv_abort hinv

theorem inv_init (h : (system libs).init s) : Inv libs s := by
  obtain ⟨_, hstored, hobserved, hrunning, _⟩ := h
  constructor
  · constructor
    · rw [hstored]
      exact fun _ hcur => nomatch hcur
    · rw [hobserved]
      exact fun _ hv => nomatch hv
    · rw [hrunning]
      exact fun _ hr => nomatch hr
    · rw [hrunning]
      exact fun _ hr => nomatch hr
    · rw [hstored]
      exact fun _ _ hcur => nomatch hcur
  · rw [hstored]
    exact fun _ hcur => nomatch hcur

theorem authoritative_of_inv (hinv : Inv libs s) : Authoritative libs s := by
  intro targets hsynced cur hcur ns hns
  refine hinv.content cur hcur ns (.inl ?_)
  rw [Option.mem_def.mp hsynced]
  exact hns

/-- In every run in which no other list writes something else where
`cluster-default` was written, the namespaces hold `cluster-default`. -/
theorem authoritative_of_leavesAuthority
    (h : Reachable (system libs) LeavesAuthority s) :
    Authoritative libs s :=
  authoritative_of_inv <|
    h.invariant (fun _ hinit => inv_init hinit)
      fun _ _ _ hinv hleaves hstep => inv_step hinv hleaves hstep

/-- The apply of another list that does say something else is the end of
it. -/
theorem not_authoritative_of_write {ns : String} {rest targets : List String}
    (hsynced : s.synced = some targets) (hns : ns ∈ targets)
    (hcur : s.stored clusterDefaultRevocationList = some cur)
    (hdiffers : (renderRevocationJson libs r.read.obj.spec).1 ≠
      (renderRevocationJson libs cur.obj.spec).1) :
    ¬ Authoritative libs (s.write libs name r ns rest) := by
  intro h
  have hcontent := h targets hsynced cur hcur ns hns
  rw [content_write_self] at hcontent
  exact hdiffers (Option.some.inj hcontent)

end Histories

/-! ## An advisory list -/

namespace Sample

/-- What `to_string_pretty` and SHA-256 make of the two lists below. -/
def libs : RevocationLibs where
  conditions := upsertConditions
  toRfc3339 _ := "2024-01-01T00:00:00+00:00"
  toStringPretty
    | .obj ((_, .arr []) :: _) =>
        "\x7b\n  \"revocations\": [],\n  \"version\": 1\n\x7d"
    | _ =>
        "\x7b\n  \"revocations\": [\n    \x7b\n      \"artifact_sha256\": " ++
          "\"f0dbbdab613c14521c3c19632f198fb2" ++
          "c5537362272c049bbc48e9d17b4921eb\",\n" ++
          "      \"reason\": \"leaked signing key\"\n    \x7d\n  ],\n" ++
          "  \"version\": 1\n\x7d"
  sha256Hex text :=
    if text.length < 40 then
      "e833fc92f9a5be1262abc975393126c1" ++
        "70cc9ce213707b00bc87978af872fb32"
    else
      "e86e83fa35f57f9c30a544058e782aec" ++
        "fb571e144349e3bdeb9b461b202aac2a"

def listOf (name : String) (entries : List RevocationEntry) :
    MCPGRevocationList :=
  { metadata :=
      { name := some name, generation := some 1
        finalizers := some [operatorFinalizer] }
    spec := { version := 1, issuedAt := none, revocations := entries } }

def clusterDefault : MCPGRevocationList :=
  listOf clusterDefaultRevocationList
    [{ artifactSha256 :=
        "f0dbbdab613c14521c3c19632f198fb2" ++
          "c5537362272c049bbc48e9d17b4921eb"
       reason := "leaked signing key", revokedAt := none }]

def advisory : MCPGRevocationList := listOf "advisory" []

def start : State :=
  { clock := 0, stored := fun _ => none, observed := fun _ => none
    gateways :=
      [{ metadata := { name := some "edge", namespace_ := some "payments" }
         spec := { image := { }, config := .obj [] } }]
    running := fun _ => none, configMaps := fun _ _ => none
    synced := none }

theorem init_start : (system libs).init start :=
  ⟨rfl, fun _ => rfl, fun _ => rfl, fun _ => rfl, rfl⟩

/-- The two lists are created and seen. -/
def created : List Action :=
  [.change clusterDefaultRevocationList (some clusterDefault),
    .observe clusterDefaultRevocationList,
    .change "advisory" (some advisory), .observe "advisory"]

/-- A pass over the list, which has one namespace to go to. -/
def pass (name : String) : List Action :=
  [.start name, .apply name (.ok ()), .finish name]

def advisoryFirst : List Action :=
  created ++ pass "advisory" ++ pass clusterDefaultRevocationList

def advisoryLast : List Action :=
  created ++ pass clusterDefaultRevocationList ++ pass "advisory"

end Sample

/-- The advisory list is reconciled first: the namespace has synced, and
holds `cluster-default`. -/
theorem authoritative_advisoryFirst :
    ∃ s, (system Sample.libs).checkedRun LeavesAuthority Sample.start
        Sample.advisoryFirst = some s ∧
      s.synced = some ["payments"] ∧ Authoritative Sample.libs s := by
  have hrun : ((system Sample.libs).checkedRun LeavesAuthority Sample.start
      Sample.advisoryFirst).map (·.synced) = some (some ["payments"]) := by
    decide +kernel
  obtain ⟨s, hs, hsynced⟩ := Option.map_eq_some_iff.mp hrun
  refine ⟨s, hs, hsynced, authoritative_of_leavesAuthority ?_⟩
  exact .of_checkedRun (.init Sample.init_start) hs

/-- The advisory list is reconciled last: the revocation is gone from the
namespace. -/
theorem not_authoritative_advisoryLast :
    ∃ s, Reachable (system Sample.libs) anyStep s ∧
      ¬ Authoritative Sample.libs s := by
  have hrun : ((system Sample.libs).run Sample.start
      Sample.advisoryLast).map (fun s =>
        (s.synced, s.stored clusterDefaultRevocationList,
          s.content "payments")) =
      some (some ["payments"], some ⟨Sample.clusterDefault, 1⟩,
        some (renderRevocationJson Sample.libs Sample.advisory.spec).1) := by
    decide +kernel
  obtain ⟨s, hs, heq⟩ := Option.map_eq_some_iff.mp hrun
  have hreach : Reachable (system Sample.libs) anyStep s :=
    .of_run (.init Sample.init_start) (System.permitted_anyStep _ _ _) hs
  refine ⟨s, hreach, fun h => ?_⟩
  obtain ⟨hsynced, hstored, hcontent⟩ := by
    simpa only [Prod.mk.injEq] using heq
  have hheld := h _ hsynced _ hstored "payments" List.mem_cons_self
  rw [hcontent] at hheld
  exact absurd hheld (by decide +kernel)

end McpgOperator.RevocationList
