import McpgOperator.Cluster.Managed
import McpgOperator.Lib.Apply
import McpgOperator.Lib.Transition

/-!
# The coordination Secret is created once

Every pass writes the Secret anew, from what it read of it: a key that was
there is written back, the token and the state key are minted where they
were missing, and the CA is the one of this pass. Since a failed read ends
the pass before the write, nothing is ever taken for missing that is not,
whichever request fails and wherever the operator dies.

The live Secret is that of server-side apply. The one entry a pass may take
out is the CA, and leaving it out of the document takes it out of the Secret
because nobody else owns it.
-/

namespace McpgOperator.CoordinationSecret

open McpgOperator.Kube McpgOperator.Cluster Transition

variable {Backend Managed : Type}

/-! ## The live Secret -/

inductive SecretField
  | data (key : String)
  | label (key : String)
  | type_
  deriving DecidableEq

abbrev SecretField.Value : SecretField → Type
  | .data _ => Bytes
  | .label _ => String
  | .type_ => String

instance : ∀ f : SecretField, DecidableEq f.Value
  | .data _ => inferInstanceAs (DecidableEq (List UInt8))
  | .label _ => inferInstanceAs (DecidableEq String)
  | .type_ => inferInstanceAs (DecidableEq String)

abbrev LiveSecret := Apply.Live String SecretField.Value

/-- The document of an apply. -/
def docOf (secret : Secret) : Apply.Doc SecretField.Value
  | .data key => (secret.data.getD []).lookup key
  | .label key => secret.labels.lookup key
  | .type_ => secret.type_

def clusterFieldManager : String := "mcpg-operator/cluster-controller"

/-- `apply_owned` of the Secret. -/
def applied (live : Option LiveSecret) (secret : Secret) : LiveSecret :=
  match live with
  | none => Apply.single clusterFieldManager (docOf secret)
  | some live => Apply.force clusterFieldManager (docOf secret) live

/-- The answer to a read of the Secret, when it is not an error, is what is
stored. -/
def Shows (live : Option LiveSecret)
    (answer : Except KubeError (Option Secret)) : Prop :=
  match answer, live with
  | .error _, _ => True
  | .ok none, live => live = none
  | .ok (some _), none => False
  | .ok (some secret), some live =>
      ∀ key, (secret.data.getD []).lookup key = live.value (.data key)

/-! ## What the effects of a pass do to it -/

inductive SecretWrite
  | apply (secret : Secret)
  | delete
  deriving DecidableEq

/-- The write to the Secret of that name, when the effect is one that
lands. -/
def secretWrite (secretName : String) : ManagedEffect → Option SecretWrite
  | .applySecret secret true => some (.apply secret)
  | .delete .secret name true =>
      if name = secretName then some .delete else none
  | _ => none

def SecretWrite.act (live : Option LiveSecret) :
    SecretWrite → Option LiveSecret
  | .apply secret => some (applied live secret)
  | .delete => none

/-! ## Passes, one after another -/

/-- One pass: the object it is over, what its requests answer, and after
how many writes the operator dies, if it does. -/
structure SecretPass (Backend Managed : Type) where
  obj : MCPGCluster Backend Managed
  answers : ClusterAnswers
  managed : ManagedAnswers
  deletes : ManagedKind → String → Bool
  crashAfter : Option Nat

structure State where
  secret : Option LiveSecret
  /-- The object has a deletion timestamp. -/
  deleting : Bool

def State.stored (s : State) (key : String) : Option Bytes :=
  s.secret.bind fun live => live.value (.data key)

section

variable (libs : ClusterLibs Backend Managed)
  (api : ManagedApi Backend Managed) (name : String)

/-- The writes a pass gets to issue. -/
def SecretPass.effects (p : SecretPass Backend Managed) :
    List ManagedEffect :=
  let all := childEffects libs api p.answers p.managed p.deletes p.obj
  match p.crashAfter with
  | none => all
  | some n => all.take n

/-- Those that land on the Secret. -/
def SecretPass.writes (p : SecretPass Backend Managed) :
    List SecretWrite :=
  (p.effects libs api).filterMap
    (secretWrite (libs.cluster.managedCoordinationSecretName name))

def stepPass (s : State) (p : SecretPass Backend Managed) : State :=
  { secret := (p.writes libs api name).foldl SecretWrite.act s.secret
    deleting := p.obj.metadata.deletionTimestamp.isSome }

/-- The pass is over this cluster, reads what is stored, and the cluster
does not come back from its deletion. -/
structure Permitted (s : State) (p : SecretPass Backend Managed) :
    Prop where
  named : p.obj.metadata.name = some name
  reads : Shows s.secret p.managed.getCoordinationSecret
  deleting : s.deleting = true →
    p.obj.metadata.deletionTimestamp.isSome = true

/-- The runs from these states; nobody else touches the Secret. -/
def passes (init : State → Prop) :
    System State (SecretPass Backend Managed) where
  init := init
  step s p := some (stepPass libs api name s p)

/-- No Secret, or one in which nobody else owns the CA. -/
def Ours (s : State) : Prop :=
  ∀ live, s.secret = some live →
    Apply.OwnsAlone clusterFieldManager live (.data api.envs.natsCa)

/-- A pass that provisions the coordinator and returns without an error. -/
structure Succeeds (p : SecretPass Backend Managed) : Prop where
  managed : p.obj.spec.managed.isSome = true
  live : p.obj.metadata.deletionTimestamp = none
  survives : p.crashAfter = none
  ok : ∃ r, (reconcileWith libs api p.answers p.managed p.obj).result = .ok r

end

/-- The CA a pass reads: with TLS, `ca.crt` of the issued Secret where it is
there and is a text that is not blank. -/
def caRead (api : ManagedApi Backend Managed)
    (p : SecretPass Backend Managed) : Option Bytes :=
  if api.managedTlsEnabled p.obj.spec then
    match p.managed.getTlsSecret with
    | .ok (some secret) =>
        ((secret.data.getD []).lookup "ca.crt").filter fun bytes =>
          (fromUtf8 bytes).any fun pem => Text.trim pem ≠ ""
    | _ => none
  else none

/-! ## The data a pass writes -/

theorem asBytes_of_fromUtf8 {bytes : Bytes} {s : String}
    (h : fromUtf8 bytes = some s) : asBytes s = bytes := by
  unfold fromUtf8 String.fromUTF8? at h
  split at h
  · cases h
    simp [asBytes, String.fromUTF8]
  · cases h

/-- Decoding the entry and testing the text gives the bytes that were
tested. -/
theorem map_asBytes_filter (entry : Option Bytes) (p : String → Bool) :
    ((entry.bind fromUtf8).filter p).map asBytes =
      entry.filter fun bytes => (fromUtf8 bytes).any p := by
  cases entry with
  | none => rfl
  | some bytes =>
      cases htext : fromUtf8 bytes with
      | none => simp [Option.filter, htext]
      | some pem =>
          have hback := asBytes_of_fromUtf8 htext
          cases hp : p pem <;> simp [Option.filter, htext, hp, hback]

theorem managedCa_eq_caRead (api : ManagedApi Backend Managed)
    (p : SecretPass Backend Managed) :
    (managedCa api p.managed p.obj).map asBytes = caRead api p := by
  unfold managedCa caRead readCaCert
  split
  · cases p.managed.getTlsSecret with
    | error e => rfl
    | ok answer =>
        cases answer with
        | none => rfl
        | some secret => exact map_asBytes_filter _ _
  · rfl

section Merge

variable {envs : ManagedEnvs} {existing : List (String × Bytes)}
  {newToken newStateKey : String} {ca : Option String}

theorem lookup_merge_ca :
    (mergeCoordinationData envs existing newToken newStateKey ca).lookup
      envs.natsCa = ca.map asBytes := by
  unfold mergeCoordinationData
  cases ca with
  | none => exact AssocList.lookup_drop_self _ _
  | some pem => exact AssocList.lookup_put_self _ _ _

/-- The CA aside, the merge only mints what is missing. -/
theorem lookup_merge_ne {key : String} (h : key ≠ envs.natsCa) :
    (mergeCoordinationData envs existing newToken newStateKey ca).lookup
        key =
      (AssocList.putNew envs.stateKey (asBytes newStateKey)
        (AssocList.putNew envs.natsToken (asBytes newToken)
          existing)).lookup key := by
  unfold mergeCoordinationData
  cases ca with
  | none => exact AssocList.lookup_drop_ne h _
  | some pem => exact AssocList.lookup_put_ne h _ _

/-- What is there stays. -/
theorem lookup_merge_of_some {key : String} {v : Bytes}
    (h : key ≠ envs.natsCa) (hv : existing.lookup key = some v) :
    (mergeCoordinationData envs existing newToken newStateKey ca).lookup
      key = some v := by
  rw [lookup_merge_ne h]
  have hkept : ∀ {env : String} {new : Bytes} {m : List (String × Bytes)},
      m.lookup key = some v →
      (AssocList.putNew env new m).lookup key = some v := by
    intro env new m hm
    by_cases henv : key = env
    · rw [henv, AssocList.lookup_putNew_self, ← henv, hm, Option.getD_some]
    · rw [AssocList.lookup_putNew_ne henv, hm]
  exact hkept (hkept hv)

theorem stateKey_ne_natsToken (envs : ManagedEnvs) :
    envs.stateKey ≠ envs.natsToken := by
  have h := envs.distinct
  simp only [List.nodup_cons, List.mem_cons, not_or] at h
  exact fun heq => h.1.1 heq.symm

theorem natsToken_ne_natsCa (envs : ManagedEnvs) :
    envs.natsToken ≠ envs.natsCa := by
  have h := envs.distinct
  simp only [List.nodup_cons, List.mem_cons, not_or] at h
  exact h.1.2.1

theorem stateKey_ne_natsCa (envs : ManagedEnvs) :
    envs.stateKey ≠ envs.natsCa := by
  have h := envs.distinct
  simp only [List.nodup_cons, List.mem_cons, not_or] at h
  exact h.2.1.1

variable (envs) in
theorem lookup_merge_natsToken :
    ∃ token, (mergeCoordinationData envs existing newToken newStateKey
      ca).lookup envs.natsToken = some token := by
  rw [lookup_merge_ne (natsToken_ne_natsCa envs),
    AssocList.lookup_putNew_ne (stateKey_ne_natsToken envs).symm,
    AssocList.lookup_putNew_self]
  exact ⟨_, rfl⟩

theorem lookup_merge_stateKey :
    ∃ key, (mergeCoordinationData envs existing newToken newStateKey
      ca).lookup envs.stateKey = some key := by
  rw [lookup_merge_ne (stateKey_ne_natsCa envs),
    AssocList.lookup_putNew_self]
  exact ⟨_, rfl⟩

end Merge

/-! ## The writes of one pass -/

section Writes

variable (libs : ClusterLibs Backend Managed)
  (api : ManagedApi Backend Managed) (secretName : String)

/-- What a pass applies, from what it read. -/
def newSecret (ans : ManagedAnswers) (obj : MCPGCluster Backend Managed)
    (name : String) (existing : Option Secret) : Secret :=
  coordinationSecret (libs.cluster.managedCoordinationSecretName name) name
    (mergeCoordinationData api.envs ((existing.bind (·.data)).getD [])
      ans.newToken ans.newStateKey (managedCa api ans obj))

theorem noWrite_workloadStep (ans : ManagedAnswers) (name : String)
    (outcome : Int → ManagedOutcome) :
    (workloadStep api ans name outcome).trace.filterMap
      (secretWrite secretName) = [] := by
  rw [List.filterMap_eq_nil_iff]
  exact ManagedPass.forall_write rfl fun _ =>
    ManagedPass.forall_write rfl fun _ =>
      ManagedPass.forall_write rfl fun _ =>
        ManagedPass.forall_write rfl fun _ => nofun

theorem noWrite_managedWarnings (obj : MCPGCluster Backend Managed) :
    (managedWarnings api obj).filterMap (secretWrite secretName) = [] := by
  rw [List.filterMap_eq_nil_iff]
  intro e he
  obtain ⟨evt, rfl⟩ := publish_of_mem_managedWarnings he
  rfl

/-- The certificate comes before the rest, or ends the pass. -/
theorem writes_certificateStep (ans : ManagedAnswers)
    (obj : MCPGCluster Backend Managed) (name : String)
    (rest : ManagedPass) :
    (certificateStep api ans obj name rest).trace.filterMap
        (secretWrite secretName) = [] ∨
      (certificateStep api ans obj name rest).trace.filterMap
        (secretWrite secretName) =
          rest.trace.filterMap (secretWrite secretName) := by
  unfold certificateStep
  split
  · rcases ManagedPass.write_cases
        (.apply (buildNatsCertificate api name) ans.applyCertificate.landed)
        ans.applyCertificate (fun _ => rest) with
      ⟨err, _, heq⟩ | ⟨a, _, heq⟩
    · rw [heq]
      exact .inl rfl
    · rw [heq]
      exact .inr rfl
  · exact .inr rfl

theorem result_certificateStep {ans : ManagedAnswers}
    {obj : MCPGCluster Backend Managed} {name : String}
    {rest : ManagedPass} {o : ManagedOutcome}
    (h : (certificateStep api ans obj name rest).result = .ok o) :
    rest.result = .ok o ∧
      (certificateStep api ans obj name rest).trace.filterMap
        (secretWrite secretName) =
          rest.trace.filterMap (secretWrite secretName) := by
  unfold certificateStep at h ⊢
  split at h
  · next hcert =>
      rw [if_pos hcert]
      obtain ⟨_, _, hok, htrace⟩ := ManagedPass.of_write_ok h
      exact ⟨hok, by rw [htrace]; rfl⟩
  · next hcert =>
      rw [if_neg hcert]
      exact ⟨h, rfl⟩

/-- Either nothing lands, or one Secret, built from an answered read. -/
theorem writes_reconcileManaged (ans : ManagedAnswers)
    (obj : MCPGCluster Backend Managed) (name : String) :
    (reconcileManaged libs api ans obj name).trace.filterMap
        (secretWrite secretName) = [] ∨
      ∃ existing, ans.getCoordinationSecret = .ok existing ∧
        (reconcileManaged libs api ans obj name).trace.filterMap
            (secretWrite secretName) =
          [.apply (newSecret libs api ans obj name existing)] := by
  unfold reconcileManaged
  dsimp only [ManagedPass.after]
  rw [List.filterMap_append, noWrite_managedWarnings, List.nil_append]
  rcases writes_certificateStep api secretName ans obj name _ with
    hnone | hrest
  · exact .inl hnone
  rw [hrest]
  unfold ensureCoordinationSecret
  cases hget : ans.getCoordinationSecret with
  | error e => exact .inl rfl
  | ok existing =>
      refine Or.imp_right (fun h => ⟨existing, rfl, h⟩) ?_
      dsimp only
      -- the apply may be answered by an error and land all the same
      rcases ManagedPass.write_cases _ ans.applyCoordinationSecret _ with
        ⟨err, _, heq⟩ | ⟨a, _, heq⟩
      all_goals
        rw [heq]
        simp only [ManagedPass.after, List.filterMap_append,
          noWrite_workloadStep, List.append_nil, List.filterMap_cons,
          List.filterMap_nil]
        cases ans.applyCoordinationSecret.landed with
        | false => exact .inl rfl
        | true => exact .inr rfl

/-- A provisioning that succeeds has written the Secret. -/
theorem writes_of_reconcileManaged_ok {ans : ManagedAnswers}
    {obj : MCPGCluster Backend Managed} {name : String}
    {o : ManagedOutcome}
    (h : (reconcileManaged libs api ans obj name).result = .ok o) :
    ∃ existing, ans.getCoordinationSecret = .ok existing ∧
      (reconcileManaged libs api ans obj name).trace.filterMap
          (secretWrite secretName) =
        [.apply (newSecret libs api ans obj name existing)] := by
  unfold reconcileManaged at h ⊢
  dsimp only [ManagedPass.after] at h ⊢
  obtain ⟨hrest, htrace⟩ := result_certificateStep api secretName h
  rw [List.filterMap_append, noWrite_managedWarnings, List.nil_append,
    htrace]
  unfold ensureCoordinationSecret at hrest ⊢
  cases hget : ans.getCoordinationSecret with
  | error e =>
      rw [hget] at hrest
      cases hrest
  | ok existing =>
      rw [hget] at hrest
      refine ⟨existing, rfl, ?_⟩
      dsimp only at hrest ⊢
      obtain ⟨hlanded, a, _, hwrite⟩ := ManagedPass.of_write_ok hrest
      rw [hwrite, List.filterMap_cons, noWrite_workloadStep, hlanded]
      rfl

end Writes

/-! ## What is stored after a write -/

theorem value_applied_of_some {live : Option LiveSecret} {secret : Secret}
    {f : SecretField} {v : f.Value} (h : docOf secret f = some v) :
    (applied live secret).value f = some v := by
  cases live with
  | none => exact h
  | some live => exact Apply.force_value_of_some h live

theorem stored_of_applied {s : State} {live : Option LiveSecret}
    {secret : Secret} {key : String} {v : Bytes}
    (hs : s.secret = some (applied live secret))
    (h : docOf secret (.data key) = some v) : s.stored key = some v := by
  rw [State.stored, hs]
  exact value_applied_of_some h

/-- A field nobody else owns holds what was applied last, also when that was
nothing. -/
theorem value_applied_of_ownsAlone {live : Option LiveSecret}
    {f : SecretField}
    (h : ∀ l, live = some l → Apply.OwnsAlone clusterFieldManager l f)
    (secret : Secret) :
    (applied live secret).value f = docOf secret f := by
  cases live with
  | none => rfl
  | some l => exact Apply.force_value_of_ownsAlone (h l rfl) _

theorem ownsAlone_applied {live : Option LiveSecret} {f : SecretField}
    (h : ∀ l, live = some l → Apply.OwnsAlone clusterFieldManager l f)
    (secret : Secret) :
    Apply.OwnsAlone clusterFieldManager (applied live secret) f := by
  cases live with
  | none => exact Apply.ownsAlone_single _ _ f
  | some l => exact Apply.ownsAlone_force (h l rfl) _

section Pass

variable (libs : ClusterLibs Backend Managed)
  (api : ManagedApi Backend Managed) {name : String}
  {p : SecretPass Backend Managed} {s : State}

/-- The keys of the Secret that is read are in the one that is applied. -/
theorem docOf_newSecret {existing : Option Secret} {key : String}
    {v : Bytes} (hreads : Shows s.secret (.ok existing))
    (hkey : key ≠ api.envs.natsCa) (hv : s.stored key = some v) :
    docOf (newSecret libs api p.managed p.obj name existing) (.data key) =
      some v := by
  obtain ⟨live, hlive, hvalue⟩ := Option.bind_eq_some_iff.mp hv
  cases existing with
  | none =>
      have hnone : s.secret = none := hreads
      rw [hnone] at hlive
      cases hlive
  | some secret =>
      rw [hlive] at hreads
      have hlookup := hreads key
      exact lookup_merge_of_some hkey (hlookup.trans hvalue)

/-! ## One pass -/

/-- The writes of a whole pass to the Secret: none, its deletion with the
cluster, or one apply. -/
theorem childWrites_cases (hname : p.obj.metadata.name = some name) :
    let writes := (childEffects libs api p.answers p.managed p.deletes
      p.obj).filterMap
        (secretWrite (libs.cluster.managedCoordinationSecretName name))
    writes = [] ∨
      (p.obj.metadata.deletionTimestamp.isSome = true ∧
        ∀ w ∈ writes, w = .delete) ∨
      p.obj.metadata.deletionTimestamp.isSome = false ∧
        ∃ existing, p.managed.getCoordinationSecret = .ok existing ∧
          writes = [.apply (newSecret libs api p.managed p.obj name
            existing)] := by
  unfold childEffects
  rw [hname]
  dsimp only
  split
  · next hdel =>
      split
      · refine .inr (.inl ⟨hdel, fun w hw => ?_⟩)
        obtain ⟨e, he, hwrite⟩ := List.mem_filterMap.mp hw
        obtain ⟨⟨kind, child⟩, _, rfl⟩ := List.mem_map.mp he
        unfold secretWrite at hwrite
        split at hwrite
        · next heq => cases heq
        · split at hwrite
          · exact (Option.some.inj hwrite).symm
          · cases hwrite
        · cases hwrite
      · exact .inl rfl
  · next hlive =>
      split
      · exact .inl rfl
      · split
        · exact (writes_reconcileManaged libs api _ p.managed p.obj
            name).imp_right fun h => .inr ⟨by simpa using hlive, h⟩
        · exact .inl rfl

theorem writes_sublist (name : String) (p : SecretPass Backend Managed) :
    List.Sublist (p.writes libs api name)
      ((childEffects libs api p.answers p.managed p.deletes
        p.obj).filterMap
          (secretWrite
            (libs.cluster.managedCoordinationSecretName name))) := by
  unfold SecretPass.writes SecretPass.effects
  refine List.Sublist.filterMap _ ?_
  dsimp only
  split
  · exact List.Sublist.refl _
  · exact List.take_sublist _ _

theorem foldl_deletes (live : Option LiveSecret) {ws : List SecretWrite}
    (h : ∀ w ∈ ws, w = .delete) :
    ws.foldl SecretWrite.act live = live ∨
      ws.foldl SecretWrite.act live = none := by
  induction ws generalizing live with
  | nil => exact .inl rfl
  | cons w ws ih =>
      obtain ⟨rfl, hws⟩ := List.forall_mem_cons.mp h
      exact .inr ((ih none hws).elim id id)

/-- Wherever the operator dies, a pass leaves the Secret alone, deletes it
with the cluster, or applies the one it built from what is stored. -/
theorem step_cases (hp : Permitted name s p) :
    (stepPass libs api name s p).secret = s.secret ∨
      ((stepPass libs api name s p).deleting = true ∧
        (stepPass libs api name s p).secret = none) ∨
      ((stepPass libs api name s p).deleting = false ∧
        ∃ existing, Shows s.secret (.ok existing) ∧
          (stepPass libs api name s p).secret =
            some (applied s.secret
              (newSecret libs api p.managed p.obj name existing))) := by
  have hsub := writes_sublist libs api name p
  rcases childWrites_cases libs api hp.named with
    hnone | ⟨hdel, hall⟩ | ⟨hlive, existing, hget, hone⟩
  · rw [hnone, List.sublist_nil] at hsub
    left
    simp only [stepPass, hsub, List.foldl_nil]
  · rcases foldl_deletes s.secret
        fun w hw => hall w (hsub.subset hw) with hsame | hgone
    · exact .inl hsame
    · exact .inr (.inl ⟨hdel, hgone⟩)
  · rw [hone, List.sublist_singleton] at hsub
    rcases hsub with hnil | happly
    · left
      simp only [stepPass, hnil, List.foldl_nil]
    · refine .inr (.inr ⟨hlive, existing, hget ▸ hp.reads, ?_⟩)
      simp only [stepPass, happly, List.foldl_cons, List.foldl_nil,
        SecretWrite.act]

theorem ok_of_reconcileInner {libs : ClusterLibs Backend Managed}
    {ans : ClusterAnswers} {obj : MCPGCluster Backend Managed}
    {r : Requeue × ReconcileOutcome}
    (hmanaged : obj.spec.managed.isSome = true)
    (hlive : obj.metadata.deletionTimestamp = none)
    (h : (reconcileInner libs ans obj).result = .ok r) :
    (∃ added, ensureFinalizer ans.addFinalizer obj.metadata = .ok added) ∧
      ∃ o, ans.reconcileManaged = .ok o := by
  unfold reconcileInner at h
  split at h
  · cases h
  rw [hlive] at h
  dsimp only [Option.isSome_none] at h
  rw [if_neg (by decide)] at h
  split at h
  · cases h
  next added hadded =>
  refine ⟨⟨added, hadded⟩, ?_⟩
  unfold judgeStep managedOutcome at h
  cases hspec : obj.spec.managed with
  | none => simp [hspec] at hmanaged
  | some m =>
      rw [hspec] at h
      cases hres : ans.reconcileManaged with
      | error e =>
          rw [hres] at h
          cases h
      | ok o => exact ⟨o, rfl⟩

/-- A pass that succeeds applies it. -/
theorem step_of_succeeds (hp : Permitted name s p)
    (hok : Succeeds libs api p) :
    ∃ existing, Shows s.secret (.ok existing) ∧
      (stepPass libs api name s p).secret =
        some (applied s.secret
          (newSecret libs api p.managed p.obj name existing)) := by
  obtain ⟨r, hr⟩ := hok.ok
  obtain ⟨⟨added, hadded⟩, o, ho⟩ :=
    ok_of_reconcileInner hok.managed hok.live hr
  have hname : p.obj.metadata.nameAny = name := by
    simp [ObjectMeta.nameAny, hp.named]
  rw [hname] at ho
  obtain ⟨existing, hget, hwrites⟩ := writes_of_reconcileManaged_ok libs api
    (libs.cluster.managedCoordinationSecretName name) ho
  have hall : p.writes libs api name =
      [.apply (newSecret libs api p.managed p.obj name existing)] := by
    have hadded' : ensureFinalizer p.answers.addFinalizer p.obj.metadata =
        .ok added := hadded
    simp only [SecretPass.writes, SecretPass.effects, hok.survives,
      childEffects, hp.named, hok.live, hadded', hok.managed, if_true,
      Option.isSome_none, Bool.false_eq_true, if_false]
    exact hwrites
  refine ⟨existing, hget ▸ hp.reads, ?_⟩
  simp only [stepPass, hall, List.foldl_cons, List.foldl_nil,
    SecretWrite.act]

theorem ours_step (hs : Ours api s) (hp : Permitted name s p) :
    Ours api (stepPass libs api name s p) := by
  intro live hlive
  rcases step_cases libs api hp with
    hsame | ⟨_, hnone⟩ | ⟨_, existing, _, happlied⟩
  · exact hs live (hsame ▸ hlive)
  · rw [hnone] at hlive
    cases hlive
  · rw [happlied] at hlive
    cases hlive
    exact ownsAlone_applied hs _

end Pass

/-! ## Runs -/

section Runs

variable (libs : ClusterLibs Backend Managed)
  (api : ManagedApi Backend Managed) (name : String)

/-- The Secret is gone, and the cluster with it. -/
def Gone (s : State) : Prop := s.deleting = true ∧ s.secret = none

/-- What was stored in `s` is stored in `s'`, the CA aside, unless the
operator has deleted the Secret with its cluster. -/
def Kept (s s' : State) : Prop :=
  ∀ key, key ≠ api.envs.natsCa → ∀ v, s.stored key = some v →
    s'.stored key = some v ∨ Gone s'

/-- What a run from `s` to `s'` is to satisfy, where the passes on from `s'`
are those the run may go on with. The token and the state key are among the
keys that are kept. -/
structure CreateOnce (s s' : State) : Prop where
  kept : Kept api s s'
  present : ∀ p, Permitted name s' p → Succeeds libs api p →
    ((stepPass libs api name s' p).stored api.envs.natsToken).isSome ∧
      ((stepPass libs api name s' p).stored api.envs.stateKey).isSome
  ca : ∀ p, Permitted name s' p → Succeeds libs api p →
    (stepPass libs api name s' p).stored api.envs.natsCa = caRead api p

variable {libs api name} {s s' : State}

theorem gone_step {p : SecretPass Backend Managed}
    (hp : Permitted name s p) (h : Gone s) :
    Gone (stepPass libs api name s p) := by
  have hdel : (stepPass libs api name s p).deleting = true :=
    hp.deleting h.1
  rcases step_cases libs api hp with
    hsame | ⟨_, hnone⟩ | ⟨hlive, _⟩
  · exact ⟨hdel, hsame.trans h.2⟩
  · exact ⟨hdel, hnone⟩
  · rw [hdel] at hlive
    cases hlive

/-- One pass keeps what is stored. -/
theorem kept_step {p : SecretPass Backend Managed}
    (hp : Permitted name s p) :
    Kept api s (stepPass libs api name s p) := by
  intro key hkey v hv
  rcases step_cases libs api hp with
    hsame | hgone | ⟨_, existing, hreads, happlied⟩
  · left
    rw [State.stored, hsame]
    exact hv
  · exact .inr hgone
  · exact .inl
      (stored_of_applied happlied (docOf_newSecret libs api hreads hkey hv))

theorem kept_of_reachable
    (h : Reachable (passes libs api name (· = s)) (Permitted name) s') :
    Kept api s s' := by
  induction h with
  | init heq =>
      cases heq
      exact fun _ _ v hv => .inl hv
  | step _ hp hstep ih =>
      cases hstep
      intro key hkey v hv
      rcases ih key hkey v hv with hstored | hgone
      · exact kept_step hp key hkey v hstored
      · exact .inr (gone_step hp hgone)

theorem ours_of_reachable (hs : Ours api s)
    (h : Reachable (passes libs api name (· = s)) (Permitted name) s') :
    Ours api s' :=
  h.invariant (fun _ heq => heq ▸ hs)
    fun _ _ _ hinv hp hstep => by
      cases hstep
      exact ours_step libs api hinv hp

/-! ## Created once -/

/-- From a Secret that is not there, or whose CA nobody else owns, every run
of passes keeps what it has stored, and every pass that succeeds leaves the
credentials there and the CA it read. -/
theorem createOnce
    (hs : Reachable (passes libs api name (Ours api)) (Permitted name) s)
    (hs' : Reachable (passes libs api name (· = s)) (Permitted name) s') :
    CreateOnce libs api name s s' := by
  have hours : Ours api s :=
    hs.invariant (fun _ h => h) fun _ _ _ hinv hp hstep => by
      cases hstep
      exact ours_step libs api hinv hp
  have hours' := ours_of_reachable hours hs'
  refine ⟨kept_of_reachable hs', fun p hp hok => ?_, fun p hp hok => ?_⟩
  · obtain ⟨existing, _, happlied⟩ := step_of_succeeds libs api hp hok
    obtain ⟨token, htoken⟩ := lookup_merge_natsToken api.envs
    obtain ⟨stateKey, hstateKey⟩ := lookup_merge_stateKey
    exact ⟨stored_of_applied happlied htoken ▸ rfl,
      stored_of_applied happlied hstateKey ▸ rfl⟩
  · obtain ⟨existing, _, happlied⟩ := step_of_succeeds libs api hp hok
    rw [State.stored, happlied]
    show (applied s'.secret _).value (.data api.envs.natsCa) = _
    rw [value_applied_of_ownsAlone hours', ← managedCa_eq_caRead]
    exact lookup_merge_ca

end Runs

namespace Sample

/-- The settings of a managed coordinator are whether it has TLS. -/
def libs : ClusterLibs String Bool where
  api := upsertConditions
  cluster :=
    { effectiveBackend := fun spec => spec.backend
      isEffectivelySingleNode := fun _ => false
      renderClusterBlockWith := fun spec _ _ =>
        .obj [("kind", .str spec.backend)]
      pluginId := fun _ => none
      configKind := id
      isSingleNode := fun _ => false
      managedCoordinationSecretName := fun name => name ++ "-coordination" }
  blockHash _ := "9f86d081"

def api : ManagedApi String Bool where
  envs :=
    { natsToken := "MCPG_CLUSTER_NATS_TOKEN"
      stateKey := "MCPG_CLUSTER_STATE_KEY"
      natsCa := "MCPG_CLUSTER_NATS_CA", distinct := by decide }
  managedTlsEnabled spec := spec.managed.getD false
  managedNatsReplicas _ := some 1
  managedReplicasCapped _ := false
  issuerRef tls :=
    if tls then
      some
        { name := "internal-ca", kind := "ClusterIssuer"
          group := "cert-manager.io" }
    else none
  managedNatsStatefulsetName name := name ++ "-nats"
  managedNatsServiceName name := name ++ "-nats"
  managedNatsHeadlessServiceName name := name ++ "-nats-headless"
  managedNatsConfigName name := name ++ "-nats-config"
  managedNatsTlsSecretName name := name ++ "-nats-tls"

def cluster (tls : Bool) : MCPGCluster String Bool :=
  { metadata :=
      { name := some "prod", finalizers := some [operatorFinalizer] }
    spec := { backend := "nats", managed := some tls, pluginRef := none } }

def answers : ClusterAnswers where
  addFinalizer := .ok ()
  removeFinalizer := .ok ()
  reconcileManaged := .error .missingName
  getPlugin _ := .ok none
  listGateways := .ok []
  statusLands := true
  resyncSecs := 300
  now := 0

/-- A pass that is answered well, with the Secret it reads and its keys. -/
def managed (existing : Option Secret) (newToken newStateKey : String) :
    ManagedAnswers where
  applyCertificate := .ok ()
  getTlsSecret :=
    .ok (some
      { name := some "prod-nats-tls", namespace_ := some "mcpg-system"
        data := some [("ca.crt", asBytes "PEM")] })
  getCoordinationSecret := .ok existing
  newToken := newToken
  newStateKey := newStateKey
  applyCoordinationSecret := .ok ()
  applyConfigMap := .ok ()
  applyHeadlessService := .ok ()
  applyClientService := .ok ()
  applyStatefulSet := .ok (some 1)

def pass (tls : Bool) (managed : ManagedAnswers) :
    SecretPass String Bool :=
  { obj := cluster tls, answers := answers, managed := managed
    deletes := fun _ _ => true, crashAfter := none }

/-- Plaintext, from nothing. -/
def first : SecretPass String Bool :=
  pass false (managed none "token-1" "key-1")

def created : State :=
  stepPass libs api "prod" { secret := none, deleting := false } first

/-- TLS is switched on, and the pass has keys of its own. -/
def second : SecretPass String Bool :=
  pass true (managed
    (some (newSecret libs api first.managed first.obj "prod" none))
    "token-2" "key-2")

end Sample

theorem createOnce_prod :
    (stepPass Sample.libs Sample.api "prod" Sample.created
        Sample.second).stored "MCPG_CLUSTER_NATS_TOKEN" =
      some (asBytes "token-1") ∧
    CreateOnce Sample.libs Sample.api "prod" Sample.created
      (stepPass Sample.libs Sample.api "prod" Sample.created
        Sample.second) := by
  refine ⟨by decide +kernel, createOnce
    (.step (.init (s := { secret := none, deleting := false }) nofun)
      (a := Sample.first) ⟨rfl, rfl, nofun⟩ rfl)
    (.step (.init rfl) (a := Sample.second) ⟨rfl, fun _ => rfl, nofun⟩ rfl)⟩

end McpgOperator.CoordinationSecret
