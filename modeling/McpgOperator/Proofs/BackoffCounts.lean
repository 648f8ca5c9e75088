import McpgOperator.Backoff.Controllers

/-!
# Whether the backoff counts errors in a row

The counter of an object is meant to be the number of its errors since its
last pass that returned. The map does what it is told, so this is a matter of
what the controllers tell it: every error has to be counted, and a pass that
returns after an error has to reset the count.

The gateway controller does both, but for the pass that lets a deleted gateway
go. The tenant, cluster, route and mirror controllers never reset, the server
controller never counts, and the others reset on some of the passes that
return.
-/

namespace McpgOperator.Backoff

open McpgOperator.Kube McpgOperator.Watch

variable {Backend Managed : Type}

/-! ## What the count is meant to be -/

/-- The errors since the last pass that returned, after one more pass. -/
def errorsAfter (key : String) (n : Nat)
    (p : ReconcilePass Backend Managed) : Nat :=
  if p.key = key then
    match p.ending with
    | .ok _ => 0
    | .error _ => n + 1
  else n

/-- The errors of the object with this key since its last pass that
returned. -/
def errorsSinceOk (key : String)
    (passes : List (ReconcilePass Backend Managed)) : Nat :=
  passes.foldl (errorsAfter key) 0

/-- After each pass over the object the count is the number of its errors
since it last returned, and an error is retried with the delay of that
number. -/
def CountsErrors (key : String)
    (passes : List (ReconcilePass Backend Managed)) : Prop :=
  ∀ before p after, passes = before ++ p :: after → p.key = key →
    (mapAfter (before ++ [p])).count key =
        errorsSinceOk key (before ++ [p]) ∧
      ∀ policy, p.ending = .error policy → ∀ jitter,
        policy.retry jitter (mapAfter (before ++ [p])) key =
          .after (backoffForCount jitter (errorsSinceOk key (before ++ [p])))

/-- After `n` errors a pass that ends like this keeps the count right. -/
def Ending.KeepsCount (n : Nat) : Ending → Prop
  | .ok true => True
  | .ok false => n = 0
  | .error .backOff => n < u32Max
  | .error _ => False

/-- No pass over the object fails without being counted, returns after an
error without resetting the count, or fails once too often for the counter. -/
def KeepsCount (key : String)
    (passes : List (ReconcilePass Backend Managed)) : Prop :=
  ∀ before p after, passes = before ++ p :: after → p.key = key →
    p.ending.KeepsCount (errorsSinceOk key before)

/-! ## The map as a failure counter -/

def Ending.counted : Ending → FailureCount.Ending
  | .ok recorded => .ok recorded
  | .error .backOff => .failed true
  | .error _ => .failed false

def ReconcilePass.attempt (p : ReconcilePass Backend Managed) :
    FailureCount.Attempt String :=
  { key := p.key, ending := p.ending.counted }

section Counter

variable {key : String} {passes : List (ReconcilePass Backend Managed)}

theorem afterPass_eq (m : BackoffMap) (p : ReconcilePass Backend Managed) :
    afterPass m p = FailureCount.step u32Max m p.attempt := by
  unfold afterPass FailureCount.step ReconcilePass.attempt
  rcases p.ending with (_ | _) | (_ | _ | _)
  · rfl
  · rfl
  · rfl
  · rfl
  · rfl

theorem mapAfter_eq (passes : List (ReconcilePass Backend Managed)) :
    mapAfter passes =
      FailureCount.run u32Max (passes.map ReconcilePass.attempt) := by
  have hstep : afterPass = fun m (p : ReconcilePass Backend Managed) =>
      FailureCount.step u32Max m p.attempt := by
    funext m p
    exact afterPass_eq m p
  unfold mapAfter FailureCount.run
  rw [List.foldl_map, hstep]

theorem errorsAfter_eq (key : String) (n : Nat)
    (p : ReconcilePass Backend Managed) :
    errorsAfter key n p = FailureCount.tally key n p.attempt := by
  unfold errorsAfter FailureCount.tally ReconcilePass.attempt
  rcases p.ending with (_ | _) | (_ | _ | _)
  all_goals rfl

theorem errorsSinceOk_eq (key : String)
    (passes : List (ReconcilePass Backend Managed)) :
    errorsSinceOk key passes =
      FailureCount.failures key (passes.map ReconcilePass.attempt) := by
  have hstep : errorsAfter key = fun n (p : ReconcilePass Backend Managed) =>
      FailureCount.tally key n p.attempt := by
    funext n p
    exact errorsAfter_eq key n p
  unfold errorsSinceOk FailureCount.failures
  rw [List.foldl_map, hstep]

theorem count_eq_iff :
    (∀ before p after, passes = before ++ p :: after → p.key = key →
      (mapAfter (before ++ [p])).count key =
        errorsSinceOk key (before ++ [p])) ↔
      FailureCount.Counts u32Max key (passes.map ReconcilePass.attempt) := by
  unfold FailureCount.Counts
  rw [FailureCount.atEach_map]
  simp only [mapAfter_eq, errorsSinceOk_eq, List.map_append, List.map_cons,
    List.map_nil]
  exact Iff.rfl

theorem right_counted (n : Nat) (e : Ending) :
    e.counted.Right u32Max n ↔ e.KeepsCount n := by
  rcases e with (_ | _) | (_ | _ | _)
  all_goals exact Iff.rfl

theorem keepsCount_iff :
    KeepsCount key passes ↔
      FailureCount.Faithful u32Max key
        (passes.map ReconcilePass.attempt) := by
  unfold KeepsCount FailureCount.Faithful
  rw [FailureCount.atEach_map]
  simp only [errorsSinceOk_eq, ReconcilePass.attempt, right_counted]

end Counter

/-- The backoff counts the errors of an object exactly in the runs whose
passes over it keep the count. -/
theorem countsErrors_iff (key : String)
    (passes : List (ReconcilePass Backend Managed)) :
    CountsErrors key passes ↔ KeepsCount key passes := by
  constructor
  · intro h
    rw [keepsCount_iff, ← FailureCount.counts_iff, ← count_eq_iff]
    exact fun before p after heq hkey => (h before p after heq hkey).1
  · intro hkeeps
    have hcounts := hkeeps
    rw [keepsCount_iff, ← FailureCount.counts_iff, ← count_eq_iff] at hcounts
    intro before p after heq hkey
    have hcount := hcounts before p after heq hkey
    refine ⟨hcount, fun policy hpolicy jitter => ?_⟩
    have hkept := hkeeps before p after heq hkey
    rw [hpolicy] at hkept
    cases policy with
    | backOff =>
        show Retry.after (backoffForCount jitter _) = _
        rw [hcount]
    | awaitChange => exact hkept.elim
    | fixed secs => exact hkept.elim

/-! ## The first retry -/

theorem errorsSinceOk_append (key : String)
    (passes : List (ReconcilePass Backend Managed))
    (p : ReconcilePass Backend Managed) :
    errorsSinceOk key (passes ++ [p]) =
      errorsAfter key (errorsSinceOk key passes) p := by
  unfold errorsSinceOk
  rw [List.foldl_append]
  rfl

/-- The delay after the first error: ten seconds, but for the jitter. -/
theorem retry_first {key : String}
    {passes before after : List (ReconcilePass Backend Managed)}
    {p : ReconcilePass Backend Managed} {policy : ErrorPolicy}
    (h : CountsErrors key passes) (heq : passes = before ++ p :: after)
    (hkey : p.key = key) (hnone : errorsSinceOk key before = 0)
    (herror : p.ending = .error policy) (jitter : ℚ) :
    policy.retry jitter (mapAfter (before ++ [p])) key =
      .after (10 * jitter) := by
  have hone : errorsSinceOk key (before ++ [p]) = 1 := by
    rw [errorsSinceOk_append, hnone, errorsAfter, if_pos hkey, herror]
  rw [(h before p after heq hkey).2 policy herror jitter, hone]
  rfl

/-! ## Which passes keep the count -/

/-- Five controllers never reset the count. -/
theorem not_recorded {p : ReconcilePass Backend Managed}
    (h : p.kind ∈ [Kind.pluginMirror, .cluster, .route, .server, .tenant]) :
    p.ending ≠ .ok true := by
  have hof : ∀ {ε α : Type} (policy : ε → ErrorPolicy) (r : Except ε α),
      Ending.of policy false r ≠ .ok true := by
    intro ε α policy r heq
    cases r with
    | ok a => cases heq
    | error e => cases heq
  cases p with
  | pluginMirror | cluster | route | server | tenant => exact hof _ _
  | plugin | pluginSet | revocationList | gateway =>
      simp [ReconcilePass.kind] at h

/-- The server controller never counts an error. -/
theorem not_counted {p : ReconcilePass Backend Managed}
    (h : p.kind = .server) : p.ending ≠ .error .backOff := by
  cases p with
  | server libs ans obj =>
      intro heq
      have hpolicy : ∀ e, Server.errorPolicy e ≠ .backOff := by
        intro e he
        cases e <;> cases he
      have heq : Ending.of Server.errorPolicy false
          (Server.reconcileInner libs ans obj).result = .error .backOff := heq
      cases hresult : (Server.reconcileInner libs ans obj).result with
      | ok a =>
          rw [hresult] at heq
          cases heq
      | error e =>
          rw [hresult] at heq
          exact hpolicy e (Ending.error.inj heq)
  | _ => cases h

/-- Of the gateway controller's passes: they reset the count or raise it. -/
def Ending.Told (e : Ending) : Prop := e = .ok true ∨ e = .error .backOff

section Gateway

open McpgOperator.Gateway

theorem told_applyInOrder
    (steps : List (Gateway.Effect × Except KubeError Unit)) :
    (applyInOrder steps).ending.Told := by
  induction steps with
  | nil => exact .inl rfl
  | cons first rest ih =>
      obtain ⟨e, answer⟩ := first
      cases answer with
      | error x => exact .inr rfl
      | ok u => exact ih

theorem told_gateway {libs : GatewayLibs Backend Managed}
    {cfg : OperatorConfig} {ans : GatewayAnswers Backend Managed}
    {obj : MCPGGateway} (hns : obj.metadata.namespace_.isSome = true)
    (hname : obj.metadata.name.isSome = true)
    (hlive : obj.metadata.deletionTimestamp.isSome = false) :
    (Gateway.reconcileInner libs cfg ans obj).ending.Told := by
  obtain ⟨ns, hns⟩ := Option.isSome_iff_exists.mp hns
  have hname : obj.metadata.name.isNone = false := by simpa using hname
  unfold Gateway.reconcileInner
  rw [hns]
  dsimp only
  rw [hname, hlive, if_neg Bool.false_ne_true, if_neg Bool.false_ne_true]
  split
  · exact .inr rfl
  split
  · exact .inr rfl
  split
  · exact .inl rfl
  · exact told_applyInOrder _

end Gateway

theorem errorsSinceOk_le (key : String)
    (passes : List (ReconcilePass Backend Managed)) :
    errorsSinceOk key passes ≤ passes.length := by
  induction passes using List.reverseRecOn with
  | nil => exact Nat.le_refl 0
  | append_singleton passes p ih =>
      rw [errorsSinceOk_append, List.length_append, List.length_singleton]
      unfold errorsAfter
      split
      · split
        · exact Nat.zero_le _
        · omega
      · omega

/-- The backoff counts the errors of a gateway until it is deleted. -/
theorem keepsCount_gateway {key : String}
    {passes : List (ReconcilePass Backend Managed)}
    (hpasses : ∀ p ∈ passes, p.key = key → p.kind = .gateway ∧
      p.metadata.namespace_.isSome = true ∧ p.metadata.name.isSome = true ∧
        p.metadata.deletionTimestamp.isSome = false)
    (hfew : passes.length ≤ u32Max) : KeepsCount key passes := by
  intro before p after heq hkey
  have hmem : p ∈ passes := by
    rw [heq]
    exact List.mem_append_right _ List.mem_cons_self
  obtain ⟨hkind, hns, hname, hlive⟩ := hpasses p hmem hkey
  have htold : p.ending.Told := by
    cases p with
    | gateway libs cfg ans obj => exact told_gateway hns hname hlive
    | _ => cases hkind
  rcases htold with hok | herror
  · rw [hok]
    exact trivial
  · rw [herror]
    have hle := errorsSinceOk_le key before
    rw [heq, List.length_append, List.length_cons] at hfew
    show errorsSinceOk key before < u32Max
    omega

/-! ## One key, one object -/

theorem isSegment_controllerName (k : Kind) :
    IsSegment (controllerName k) := by
  cases k
  all_goals exact fun hmem => absurd hmem (by decide)

theorem controllerName_inj {k k' : Kind}
    (h : controllerName k = controllerName k') : k = k' := by
  cases k <;> cases k' <;> first | rfl | exact absurd h (by decide)

/-- Objects with names the API takes have the same key only if they are the
same. -/
theorem key_eq_iff {p q : ReconcilePass Backend Managed}
    (hp : IsSegment p.keyNamespace ∧ IsSegment p.metadata.nameAny)
    (hq : IsSegment q.keyNamespace ∧ IsSegment q.metadata.nameAny) :
    p.key = q.key ↔ p.kind = q.kind ∧ p.keyNamespace = q.keyNamespace ∧
      p.metadata.nameAny = q.metadata.nameAny := by
  unfold ReconcilePass.key
  rw [resourceKey_inj (isSegment_controllerName _)
    (isSegment_controllerName _) hp.1 hq.1 hp.2 hq.2]
  refine and_congr_left' ⟨controllerName_inj, ?_⟩
  intro h
  rw [h]

/-! ### A tenant that recovers once -/

namespace Sample

def tenant : Admission.MCPGTenant where
  metadata := { name := some "acme", resourceVersion := some "1" }
  spec := { namespaces := [] }

/-- The answers of a cluster that takes the finalizer, or does not. -/
def answers (addFinalizer : Except KubeError Unit) : Tenant.TenantAnswers where
  addFinalizer := addFinalizer
  removeFinalizer := .ok ()
  getNamespace := fun _ => .ok true
  applyBinding := fun _ => .ok ()
  applyLabel := fun _ => .ok ()
  applyQuota := fun _ => .ok ()
  deleteQuota := fun _ => .ok ()
  dropLabel := fun _ => .ok ()
  countGateways := fun _ => .ok 0
  countPluginSets := fun _ => .ok 0
  countRoutes := fun _ => .ok 0
  resyncSecs := 300
  now := 0

def pass (addFinalizer : Except KubeError Unit) : ReconcilePass Unit Unit :=
  .tenant { conditions := upsertConditions, operatorServiceAccount := "op" }
    (answers addFinalizer) tenant

/-- It fails, it returns, and it fails again. -/
def fails : ReconcilePass Unit Unit := pass (.error (.other "timed out"))

def returns : ReconcilePass Unit Unit := pass (.ok ())

end Sample

/-- The error after the pass that returned is the second in the count. -/
theorem not_countsErrors_tenant :
    ¬ ∀ (key : String) (passes : List (ReconcilePass Unit Unit)),
      CountsErrors key passes := by
  intro h
  have hcount := (h "tenant/acme" [Sample.fails, Sample.returns, Sample.fails]
    [Sample.fails, Sample.returns] Sample.fails [] rfl (by decide)).1
  have htwo : (mapAfter ([Sample.fails, Sample.returns] ++
      [Sample.fails])).count "tenant/acme" = 2 := by decide +kernel
  have hone : errorsSinceOk "tenant/acme" ([Sample.fails, Sample.returns] ++
      [Sample.fails]) = 1 := by decide +kernel
  rw [htwo, hone] at hcount
  cases hcount

end McpgOperator.Backoff
