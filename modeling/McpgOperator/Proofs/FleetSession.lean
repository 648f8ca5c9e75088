import McpgOperator.Fleet.Agent
import Mathlib.Tactic.Common

/-!
# The fleet agent keeps coming back

The loop of `run` has one variable, which is doubled before the sleep and not
after it. So the sleep after an attempt is that of the failures in a row up to
and with this one, and a channel that closes cleanly is followed by the
shortest. What an attempt verifies assignments with came with its own
enrolment.
-/

namespace McpgOperator.Fleet

variable {libs : FleetLibs} {target : Attachment}

/-! ## Sleeping -/

/-- The attempts that failed in a row, after one more. -/
def errorsAfter (libs : FleetLibs) (target : Attachment) (n : Nat)
    (ans : FleetAnswers) : Nat :=
  match (attachOnce libs target ans).result with
  | .ok _ => 0
  | .error _ => n + 1

/-- The attempts that failed since the channel last closed cleanly. -/
def errorsInARow (libs : FleetLibs) (target : Attachment)
    (answers : List FleetAnswers) : Nat :=
  answers.foldl (errorsAfter libs target) 0

/-- The sleep of so many failures. -/
def sleepAfter (n : Nat) : Nat :=
  CappedDoubling.delay reconnectMin reconnectMax n

theorem sleepAfter_zero : sleepAfter 0 = reconnectMin :=
  CappedDoubling.delay_zero (by decide)

theorem nextBackoff_sleepAfter (n : Nat) (ans : FleetAnswers) :
    nextBackoff (sleepAfter n) (attachOnce libs target ans).result =
      sleepAfter (errorsAfter libs target n ans) := by
  unfold errorsAfter
  cases (attachOnce libs target ans).result with
  | ok _ => exact sleepAfter_zero.symm
  | error _ => exact CappedDoubling.double_delay _ _ n

/-- The loop, entered after `n` failures. -/
theorem runFrom_append (n : Nat) (before after : List FleetAnswers)
    (ans : FleetAnswers) :
    (runFrom libs target (sleepAfter n)
        (before ++ ans :: after))[before.length]? =
      some (attachOnce libs target ans,
        sleepAfter ((before ++ [ans]).foldl (errorsAfter libs target) n)) := by
  induction before generalizing n with
  | nil =>
      show some _ = some _
      rw [nextBackoff_sleepAfter]
      rfl
  | cons first before ih =>
      have hrest := ih (errorsAfter libs target n first)
      rw [← nextBackoff_sleepAfter] at hrest
      exact hrest

theorem sleepAfter_bounds (n : Nat) :
    reconnectMin ≤ sleepAfter n ∧ sleepAfter n ≤ reconnectMax :=
  ⟨CappedDoubling.base_le_delay (by decide) n,
    CappedDoubling.delay_le _ _ n⟩

/-! ## Enrolling -/

/-- The calls of an attempt that opens its channel. -/
def sessionCalls (libs : FleetLibs) (target : Attachment) (enrolled : Enrolled)
    (verifyKey : libs.VerifyKey) : List (Call libs) :=
  [.connect target.endpoint,
    .registerCell
      { enrollmentToken := target.token
        agentVersion := libs.agentVersion
        kubeVersion := "" },
    .cellChannel ("Bearer " ++ enrolled.cellJwt),
    .runLoop verifyKey target.edgeAddress]

/-- An attempt is a session on what it enrolled with, or it fails before. -/
theorem attachOnce_cases (libs : FleetLibs) (target : Attachment)
    (ans : FleetAnswers) :
    (∃ enrolled verifyKey, ans.registerCell = .ok enrolled ∧
      libs.verifyKeyFromBytes enrolled.assignmentVerifyKey = .ok verifyKey ∧
      attachOnce libs target ans =
        { calls := sessionCalls libs target enrolled verifyKey
          result := .ok () }) ∨
    ((∃ e, (attachOnce libs target ans).result = .error e) ∧
      ∀ verifyKey edge,
        Call.runLoop verifyKey edge ∉ (attachOnce libs target ans).calls) := by
  unfold attachOnce Attempt.after
  cases ans.connect with
  | error _ => exact .inr ⟨⟨_, rfl⟩, by simp⟩
  | ok _ =>
      cases hregister : ans.registerCell with
      | error _ => exact .inr ⟨⟨_, rfl⟩, by simp⟩
      | ok enrolled =>
          simp only [attachEnrolled]
          cases hkey : libs.verifyKeyFromBytes enrolled.assignmentVerifyKey with
          | error _ => exact .inr ⟨⟨_, rfl⟩, by simp⟩
          | ok verifyKey =>
              dsimp only
              cases libs.parseHeader ("Bearer " ++ enrolled.cellJwt) with
              | error _ => exact .inr ⟨⟨_, rfl⟩, by simp⟩
              | ok _ =>
                  unfold Attempt.after
                  cases ans.cellChannel with
                  | error _ => exact .inr ⟨⟨_, rfl⟩, by simp⟩
                  | ok _ => exact .inl ⟨enrolled, verifyKey, rfl, hkey, rfl⟩

theorem not_registerCell_attachEnrolled {ans : FleetAnswers}
    {enrolled : Enrolled} (request : RegisterCellRequest) :
    Call.registerCell request ∉
      (attachEnrolled libs target ans enrolled).calls := by
  unfold attachEnrolled
  split
  · exact List.not_mem_nil
  · dsimp only
    split
    · exact List.not_mem_nil
    · unfold Attempt.after
      split <;> simp

/-- Whatever comes of an attempt, it enrols with the token. -/
theorem token_of_registerCell {ans : FleetAnswers}
    {request : RegisterCellRequest}
    (h : Call.registerCell request ∈ (attachOnce libs target ans).calls) :
    request.enrollmentToken = target.token := by
  unfold attachOnce Attempt.after at h
  split at h
  · simp at h
  · split at h
    · simp at h
      rw [h]
    · next enrolled hregister =>
        have hnot : Call.registerCell request ∉
            (attachEnrolled libs target ans enrolled).calls :=
          not_registerCell_attachEnrolled request
        simp [hnot] at h
        rw [h]

/-- The token is there, and is more than blanks. -/
theorem trim_ne_empty_of_readToken {inline : Option String}
    {file : Option (String × Except String String)} {token : String}
    (h : readToken inline file = .ok token) : Text.trim token ≠ "" := by
  have hkept : ∀ raw, (Text.trim raw).isEmpty = false →
      Text.trim (Text.trim raw) ≠ "" := by
    intro raw hfull hblank
    have hnone := Text.trim_trim_eq_empty.mp hblank
    rw [hnone] at hfull
    cases hfull
  unfold readToken at h
  split at h
  · cases h
  · next path raw =>
      dsimp only at h
      split at h
      · cases h
      · next hfull =>
          cases h
          exact hkept raw (Bool.eq_false_iff.mpr hfull)
  · split at h
    · next t hsome =>
        cases h
        obtain ⟨hmap, hfull⟩ := Option.filter_eq_some_iff.mp hsome
        obtain ⟨raw, _, rfl⟩ := Option.map_eq_some_iff.mp hmap
        exact hkept raw ((Bool.not_eq_true' _).mp hfull)
    · cases h

/-! ## A run -/

/-- Over any answers of the fleet: the sleep after an attempt, the token it
enrols with, and the key of its session. -/
theorem run_of_readToken {inline : Option String}
    {file : Option (String × Except String String)}
    (htoken : readToken inline file = .ok target.token)
    (before : List FleetAnswers) (ans : FleetAnswers)
    (after : List FleetAnswers) :
    ∃ attempt : Attempt libs,
      (run libs target (before ++ ans :: after))[before.length]? =
        some (attempt,
          min (2 * 2 ^ errorsInARow libs target (before ++ [ans])) 60) ∧
      (∀ request, .registerCell request ∈ attempt.calls →
        request.enrollmentToken = target.token ∧
          Text.trim request.enrollmentToken ≠ "") ∧
      ∀ verifyKey edge, .runLoop verifyKey edge ∈ attempt.calls →
        ∃ enrolled, ans.registerCell = .ok enrolled ∧
          libs.verifyKeyFromBytes enrolled.assignmentVerifyKey =
            .ok verifyKey ∧
          .cellChannel ("Bearer " ++ enrolled.cellJwt) ∈ attempt.calls := by
  refine ⟨attachOnce libs target ans, ?_, ?_, ?_⟩
  · show (runFrom libs target reconnectMin _)[before.length]? = _
    rw [← sleepAfter_zero, runFrom_append]
    rfl
  · intro request hrequest
    have htold := token_of_registerCell hrequest
    exact ⟨htold, htold ▸ trim_ne_empty_of_readToken htoken⟩
  · intro verifyKey edge hmem
    rcases attachOnce_cases libs target ans with
      ⟨enrolled, key, hregister, hkey, hattempt⟩ | ⟨-, hnone⟩
    · rw [hattempt] at hmem ⊢
      refine ⟨enrolled, hregister, ?_, by simp [sessionCalls]⟩
      simp [sessionCalls] at hmem
      rw [hmem.1]
      exact hkey
    · exact absurd hmem (hnone verifyKey edge)

/-- A cell whose key is the bytes it is given. -/
def plainLibs : FleetLibs where
  VerifyKey := List UInt8
  verifyKeyFromBytes := .ok
  parseHeader _ := .ok ()
  agentVersion := "0.1.0"

def mountedToken : Attachment where
  endpoint := "https://fleet.example.com:7102"
  token := "CELL-abc"
  edgeAddress := ""

/-- Two attempts meet nobody, and the third is a session. -/
def unreachable : FleetAnswers where
  connect := .error "connection refused"
  registerCell := .error "connection refused"
  cellChannel := .error "connection refused"

def reachable : FleetAnswers where
  connect := .ok ()
  registerCell := .ok
    { cellId := "c-1", cellName := "cell-1", cellJwt := "jwt"
      assignmentVerifyKey := [1, 2] }
  cellChannel := .ok ()

/-- The third attempt enrols with the mounted token, and its session runs
under the key that came with the enrolment. -/
theorem run_of_readToken_mounted :
    ∃ attempt : Attempt plainLibs,
      (run plainLibs mountedToken [unreachable, unreachable, reachable])[2]? =
        some (attempt, 2) ∧
      .runLoop [1, 2] "" ∈ attempt.calls ∧
      (∀ request, .registerCell request ∈ attempt.calls →
        request.enrollmentToken = "CELL-abc" ∧
          Text.trim request.enrollmentToken ≠ "") ∧
      ∃ enrolled, reachable.registerCell = .ok enrolled ∧
        enrolled.assignmentVerifyKey = [1, 2] := by
  have htoken : readToken none (some ("/var/run/token", .ok "  CELL-abc\n")) =
      .ok mountedToken.token := by decide
  obtain ⟨attempt, hrun, hrequests, hkey⟩ :=
    run_of_readToken htoken [unreachable, unreachable]
      reachable []
  have hsession : attempt = attachOnce plainLibs mountedToken reachable := by
    cases hrun
    rfl
  have hloop : .runLoop [1, 2] "" ∈ attempt.calls := by
    rw [hsession]
    exact .tail _ (.tail _ (.tail _ (.head _)))
  obtain ⟨enrolled, hregister, hkey, -⟩ := hkey _ _ hloop
  exact ⟨attempt, hrun, hloop, hrequests, enrolled, hregister,
    Except.ok.inj hkey⟩

end McpgOperator.Fleet
