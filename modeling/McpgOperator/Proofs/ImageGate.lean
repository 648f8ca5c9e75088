import McpgOperator.Proofs.DigestPins
import McpgOperator.Server.Reconcile

/-!
# A server's image is deployed as it was verified

The string of `spec.image` goes four ways: it is searched for a pin, cut at
its first `@` into the digest to verify, cut again into the repository to
verify it in, and rendered into the container as it stands. For a reference
of the OCI grammar, which has one `@` at most, all four mean the same
repository and the same digest, and no failed verification gets past the
gate. What is live was therefore deployed unverified on purpose or verified
in the pass that deployed it.
-/

namespace McpgOperator.Server

open McpgOperator.Kube McpgOperator.Gateway McpgOperator.Templates
  McpgOperator.Plugin McpgOperator.Text

/-! ## What verification is to establish -/

/-- The image reads `repository[:tag]@digest`, with no other `@`. -/
def PinnedImage (image repository digest : String) : Prop :=
  ∃ tag, image.toList = repository.toList ++ tag ++ '@' :: digest.toList ∧
    (tag = [] ∨ ∃ t, tag = ':' :: t ∧ '/' ∉ t) ∧
    '@' ∉ repository.toList ++ tag ∧ '@' ∉ digest.toList ∧
    "sha256:".toList <+: digest.toList

/-- The sigstore client finds, for the repository at that digest, a
signature by the identity. -/
def Signed (sig : SigstoreLib) (identity : CosignIdentity)
    (repository digest : String) : Prop :=
  ∃ subjectRe cosignImage sourceDigest layers,
    sig.regexNew identity.certificateIdentityRegexp = .ok subjectRe ∧
    sig.triangulate (repository ++ "@" ++ digest) .anonymous =
      .ok (cosignImage, sourceDigest) ∧
    digestsMatch sourceDigest digest = true ∧
    sig.trustedSignatureLayers .anonymous cosignImage = .ok layers ∧
    sig.verifyConstraints layers
      (certSubjectRegexVerifier sig subjectRe identity.oidcIssuer) = true

/-- The image is signed at exactly the digest it is pinned to. -/
def VerifiedImage (sig : SigstoreLib) (verify : ServerVerify)
    (image : String) : Prop :=
  ∃ repository digest, PinnedImage image repository digest ∧
    Signed sig verify.cosignIdentity repository digest

/-- The grammar of OCI references: a digest is the only thing an `@`
introduces. -/
def OneAt (sig : SigstoreLib) : Prop :=
  ∀ reference, sig.parseReference reference = .ok () →
    reference.toList.count '@' ≤ 1

/-! ## The four readings -/

theorem repositoryOf_of_splitOnce {reference : String}
    {name digest : List Char}
    (h : splitOnce '@' reference.toList = some (name, digest)) :
    ∃ tag, name = (repositoryOf reference).toList ++ tag ∧
      (tag = [] ∨ ∃ t, tag = ':' :: t ∧ '/' ∉ t) := by
  have hname : beforeDigest reference.toList = name := by
    unfold beforeDigest
    rw [h]
  rw [toList_repositoryOf, hname]
  exact (dropTag_cases name).2

/-- The one `@` is found wherever it is looked for. -/
theorem eq_of_append_cons {α : Type} {x : α} {a b c d : List α}
    (h : a ++ x :: b = c ++ x :: d) (ha : x ∉ a) (hb : x ∉ b) :
    a = c ∧ b = d := by
  rcases List.append_eq_append_iff.mp h with
    ⟨mid, rfl, hrest⟩ | ⟨mid, rfl, hrest⟩
  · cases mid with
    | nil => exact ⟨(List.append_nil a).symm, (List.cons.inj hrest).2⟩
    | cons y mid =>
        obtain ⟨rfl, rfl⟩ := List.cons.inj hrest
        exact absurd (List.mem_append_right _ List.mem_cons_self) hb
  · cases mid with
    | nil => exact ⟨List.append_nil c, (List.cons.inj hrest).2.symm⟩
    | cons y mid =>
        obtain ⟨rfl, rfl⟩ := List.cons.inj hrest
        exact absurd (List.mem_append_right _ List.mem_cons_self) ha

theorem pinnedImage_of_digestPinned {image : String}
    (hpinned : digestPinned image = true)
    (hone : (pinToDigest image ((digestOf image).getD "")).toList.count '@'
      ≤ 1) :
    PinnedImage image (repositoryOf image) ((digestOf image).getD "") := by
  obtain ⟨before, after, hsha⟩ := exists_of_fromFirst hpinned
  have hat : '@' ∈ image.toList := by
    rw [hsha]
    simp
  cases hsplit : splitOnce '@' image.toList with
  | none => exact absurd hat (splitOnce_eq_none.mp hsplit)
  | some parts =>
      obtain ⟨name, digest⟩ := parts
      have hdigest : ((digestOf image).getD "").toList = digest := by
        unfold digestOf
        rw [hsplit]
        exact String.toList_ofList
      obtain ⟨himage, hname⟩ := splitOnce_some hsplit
      obtain ⟨tag, htag, hform⟩ := repositoryOf_of_splitOnce hsplit
      have hfree : '@' ∉ digest := by
        unfold pinToDigest at hone
        rw [String.toList_append, String.toList_append, hdigest,
          List.count_append, List.count_append] at hone
        have hself : List.count '@' "@".toList = 1 := by decide
        exact List.count_eq_zero.mp (by omega)
      refine ⟨tag, ?_, hform, ?_, ?_, ?_⟩
      · rw [hdigest, ← htag]
        exact himage
      · rw [← htag]
        exact hname
      · rw [hdigest]
        exact hfree
      · have hpattern : "@sha256:".toList = '@' :: "sha256:".toList := by
          decide
        rw [himage, List.append_assoc, hpattern, List.cons_append] at hsha
        obtain ⟨-, hafter⟩ := eq_of_append_cons hsha hname hfree
        rw [hdigest, hafter]
        exact List.prefix_append _ _

theorem verifiedImage_of_verifyImage {sig : SigstoreLib} {image : String}
    {verify : ServerVerify} {r : CosignVerifyResult} (hone : OneAt sig)
    (hpinned : digestPinned image = true)
    (h : verifyImage sig image verify = .ok r) :
    VerifiedImage sig verify image := by
  unfold verifyImage at h
  have hparse := parseReference_of_verifyCosignKeyless h
  have hsigned := verifyCosignKeyless_ok h
  exact ⟨repositoryOf image, (digestOf image).getD "",
    pinnedImage_of_digestPinned hpinned (hone _ hparse), hsigned⟩

/-! ## One pass -/

/-- The workload of the server is applied. -/
def Effect.isWorkload : Effect → Bool
  | .applyDeployment _ => true
  | .applyService _ => true
  | _ => false

section Passes

variable {libs : ServerLibs} {ans : ServerAnswers} {obj : MCPGServer}

theorem report_not_workload {ns : String} {verdict : ImageVerdict}
    {e : Effect} (h : e ∈ (report libs ans obj ns verdict).trace) :
    e.isWorkload = false := by
  unfold report at h
  dsimp only at h
  split at h
  · cases h
  split at h
  · cases h
  next binding _ =>
  dsimp only at h
  rcases List.mem_append.mp h with hbind | hrest
  · obtain ⟨_, _, rfl⟩ := Option.map_eq_some_iff.mp
      (Option.mem_toList.mp hbind)
    rfl
  · rcases List.mem_cons.mp hrest with rfl | hverify
    · rfl
    · unfold verifyEvent at hverify
      split at hverify
      · cases hverify
      · rw [List.mem_singleton.mp hverify]
        rfl

theorem mem_applyThen {applies : List (Effect × Except KubeError Unit)}
    {p : Pass} {e : Effect} (h : e ∈ (applyThen applies p).trace) :
    (∃ before answer after, applies = before ++ (e, answer) :: after ∧
        ∀ a ∈ before, a.1 ∈ (applyThen applies p).trace) ∨
      e ∈ p.trace := by
  induction applies with
  | nil => exact .inr h
  | cons a applies ih =>
      obtain ⟨first, answer⟩ := a
      cases answer with
      | error x =>
          rw [List.mem_singleton.mp h]
          exact .inl ⟨[], _, applies, rfl, fun _ hmem => nomatch hmem⟩
      | ok _ =>
          rcases List.mem_cons.mp h with rfl | hrest
          · exact .inl ⟨[], _, applies, rfl, fun _ hmem => nomatch hmem⟩
          · rcases ih hrest with ⟨before, answer, after, rfl, hbefore⟩ | hp
            · refine .inl ⟨_ :: before, answer, after, rfl, ?_⟩
              rw [List.forall_mem_cons]
              exact ⟨List.mem_cons_self, fun a ha =>
                List.mem_cons_of_mem _ (hbefore a ha)⟩
            · exact .inr hp

/-- What a pass applies is the workload of a verdict that passed, and the
Deployment goes first. -/
theorem workload_of_mem {e : Effect}
    (h : e ∈ (reconcileInner libs ans obj).trace)
    (hworkload : e.isWorkload = true) :
    (imageVerdict ans.sigstore obj.spec).verified = true ∧
      .applyDeployment (buildServerDeployment libs.workload obj) ∈
        (reconcileInner libs ans obj).trace ∧
      (e = .applyDeployment (buildServerDeployment libs.workload obj) ∨
        e = .applyService (buildServerService libs.workload obj)) := by
  unfold reconcileInner at h ⊢
  split at h
  · cases h
  split at h
  · cases h
  next ns _ =>
  split at h
  · split at h <;> cases h
  next hlive =>
  dsimp only
  rw [if_neg hlive]
  split at h
  · cases h
  dsimp only at h ⊢
  rcases mem_applyThen h with ⟨before, answer, after, heq, hbefore⟩ | hreport
  swap
  · rw [report_not_workload hreport] at hworkload
    cases hworkload
  generalize (applyThen _ _).trace = trace at h hbefore ⊢
  unfold workload at heq
  split at heq
  · next hverified =>
    refine ⟨hverified, ?_⟩
    cases before with
    | nil =>
        obtain ⟨hfirst, -⟩ := List.cons.inj heq
        obtain ⟨rfl, -⟩ := Prod.mk.inj hfirst
        exact ⟨h, .inl rfl⟩
    | cons first before =>
        obtain ⟨hfirst, hsecond⟩ := List.cons.inj heq
        subst hfirst
        refine ⟨hbefore _ List.mem_cons_self, .inr ?_⟩
        cases before with
        | nil =>
            obtain ⟨hsvc, -⟩ := List.cons.inj hsecond
            exact (Prod.mk.inj hsvc).1.symm
        | cons second before =>
            obtain ⟨-, hthird⟩ := List.cons.inj hsecond
            cases before <;> cases hthird
  · cases before <;> cases heq

/-- A pass that verifies and does not pass the gate applies nothing. -/
theorem verified_of_verdict {verify : ServerVerify}
    (hverify : obj.spec.verify = some verify)
    (h : (imageVerdict ans.sigstore obj.spec).verified = true) :
    digestPinned obj.spec.image = true ∧
      ∃ r, verifyImage ans.sigstore obj.spec.image verify = .ok r := by
  unfold imageVerdict at h
  rw [hverify] at h
  dsimp only at h
  split at h
  · cases h
  next hpinned =>
  refine ⟨Bool.not_eq_false _ ▸ hpinned, ?_⟩
  split at h
  · next r hr => exact ⟨r, hr⟩
  · cases h

theorem verdict_of_verified {sig : SigstoreLib} {spec : MCPGServerSpec}
    {verify : ServerVerify} (hverify : spec.verify = some verify)
    (hpinned : digestPinned spec.image = true) {r : CosignVerifyResult}
    (h : verifyImage sig spec.image verify = .ok r) :
    (imageVerdict sig spec).verified = true := by
  unfold imageVerdict
  rw [hverify]
  dsimp only
  rw [hpinned, if_neg (by decide), h]

end Passes

/-! ## Runs of the controller -/

/-- A pass of a run: the server as the pass sees it, the answers, and
whether an apply that reports an error takes effect all the same. -/
structure PassInputs where
  obj : MCPGServer
  ans : ServerAnswers
  deploymentLands : Bool
  serviceLands : Bool

/-- The server's children in the cluster. -/
structure Live where
  deployment : Option ServerDeployment
  service : Option ServerService
  deriving DecidableEq

def PassInputs.trace (libs : ServerLibs) (p : PassInputs) : List Effect :=
  (reconcileInner libs p.ans p.obj).trace

/-- What an effect of the pass does to the children. -/
def PassInputs.effect (p : PassInputs) (live : Live) : Effect → Live
  | .applyDeployment dep =>
      if p.ans.applyDeployment.isOk || p.deploymentLands then
        { live with deployment := some dep }
      else live
  | .applyService svc =>
      if p.ans.applyService.isOk || p.serviceLands then
        { live with service := some svc }
      else live
  | _ => live

def PassInputs.after (libs : ServerLibs) (live : Live) (p : PassInputs) :
    Live :=
  (p.trace libs).foldl p.effect live

def liveAfter (libs : ServerLibs) (start : Live)
    (history : List PassInputs) : Live :=
  history.foldl (PassInputs.after libs) start

/-- The spec asks for verification, and it is refused: the image is not
pinned, or sigstore does not vouch for it. -/
def PassInputs.Refused (p : PassInputs) : Prop :=
  ∃ verify, p.obj.spec.verify = some verify ∧
    (digestPinned p.obj.spec.image = false ∨
      ∃ e, verifyImage p.ans.sigstore p.obj.spec.image verify = .error e)

/-- The pass deployed this, unverified only where nothing was asked. -/
def PassInputs.Deployed (libs : ServerLibs) (p : PassInputs)
    (dep : ServerDeployment) : Prop :=
  dep = buildServerDeployment libs.workload p.obj ∧
    ∀ verify, p.obj.spec.verify = some verify →
      VerifiedImage p.ans.sigstore verify dep.image

/-- The gate, over a run. -/
structure ImageGate (libs : ServerLibs) (start : Live)
    (history : List PassInputs) : Prop where
  deployment : ∀ p ∈ history, ∀ verify, p.obj.spec.verify = some verify →
    ∀ dep, .applyDeployment dep ∈ p.trace libs →
      VerifiedImage p.ans.sigstore verify dep.image
  service : ∀ p ∈ history, ∀ verify, p.obj.spec.verify = some verify →
    ∀ svc, .applyService svc ∈ p.trace libs →
      ∃ dep, .applyDeployment dep ∈ p.trace libs ∧
        VerifiedImage p.ans.sigstore verify dep.image
  unchanged : ∀ before p after, history = before ++ p :: after →
    p.Refused → liveAfter libs start (before ++ [p]) =
      liveAfter libs start before
  live : ∀ dep, (liveAfter libs start history).deployment = some dep →
    start.deployment = some dep ∨ ∃ p ∈ history, p.Deployed libs dep

section Runs

variable {libs : ServerLibs} {p : PassInputs}

theorem deployed_of_mem (hone : OneAt p.ans.sigstore)
    {dep : ServerDeployment} (h : .applyDeployment dep ∈ p.trace libs) :
    p.Deployed libs dep := by
  obtain ⟨hverdict, -, heq⟩ := workload_of_mem h rfl
  have hdep : dep = buildServerDeployment libs.workload p.obj := by
    rcases heq with heq | heq
    · exact Effect.applyDeployment.inj heq
    · cases heq
  refine ⟨hdep, fun verify hverify => ?_⟩
  obtain ⟨hpinned, r, hr⟩ := verified_of_verdict hverify hverdict
  rw [hdep]
  exact verifiedImage_of_verifyImage hone hpinned hr

theorem foldl_effect_of_not_workload {trace : List Effect} {live : Live}
    (h : ∀ e ∈ trace, e.isWorkload = false) :
    trace.foldl p.effect live = live := by
  induction trace generalizing live with
  | nil => rfl
  | cons e trace ih =>
      obtain ⟨hfirst, hrest⟩ := List.forall_mem_cons.mp h
      rw [List.foldl_cons, ih hrest]
      cases e with
      | applyDeployment dep => cases hfirst
      | applyService svc => cases hfirst
      | patchStatus status => rfl
      | publish evt => rfl

/-- Whatever else the pass does, a refused image applies nothing. -/
theorem after_of_refused (h : p.Refused) (live : Live) :
    PassInputs.after libs live p = live := by
  obtain ⟨verify, hverify, hrefused⟩ := h
  refine foldl_effect_of_not_workload fun e he => ?_
  by_contra hworkload
  obtain ⟨hverdict, -⟩ := workload_of_mem he
    (Bool.not_eq_false _ ▸ hworkload)
  obtain ⟨hpinned, r, hr⟩ := verified_of_verdict hverify hverdict
  rcases hrefused with hunpinned | ⟨e, he⟩
  · rw [hpinned] at hunpinned
    cases hunpinned
  · rw [hr] at he
    cases he

/-- A pass that verifies and whose applies succeed deploys. -/
theorem deployment_of_verified {name ns : String} {patched : Bool}
    (hname : p.obj.metadata.name = some name)
    (hns : p.obj.metadata.namespace_ = some ns)
    (hlive : p.obj.metadata.deletionTimestamp.isSome = false)
    (hfinalizer :
      ensureFinalizer p.ans.addFinalizer p.obj.metadata = .ok patched)
    (hverdict : (imageVerdict p.ans.sigstore p.obj.spec).verified = true)
    (hdep : p.ans.applyDeployment = .ok ())
    (hsvc : p.ans.applyService = .ok ()) (live : Live) :
    (PassInputs.after libs live p).deployment =
      some (buildServerDeployment libs.workload p.obj) := by
  have htrace : p.trace libs =
      .applyDeployment (buildServerDeployment libs.workload p.obj) ::
        .applyService (buildServerService libs.workload p.obj) ::
          (report libs p.ans p.obj ns
            (imageVerdict p.ans.sigstore p.obj.spec)).trace := by
    unfold PassInputs.trace reconcileInner workload
    rw [hname, hns, hlive, hfinalizer]
    dsimp only
    rw [if_neg Bool.false_ne_true, hverdict, if_pos rfl, hdep, hsvc]
    rfl
  unfold PassInputs.after
  rw [htrace, List.foldl_cons, List.foldl_cons,
    foldl_effect_of_not_workload fun _ he => report_not_workload he]
  simp only [PassInputs.effect, hdep, hsvc, Except.isOk, Except.toBool,
    Bool.true_or, if_true]

/-- A pass leaves the Deployment there was, or deploys its own. -/
theorem deployment_after (hone : OneAt p.ans.sigstore) (live : Live)
    {dep : ServerDeployment}
    (h : (PassInputs.after libs live p).deployment = some dep) :
    live.deployment = some dep ∨ p.Deployed libs dep := by
  have hfold : ∀ (trace : List Effect) (live : Live),
      (∀ e ∈ trace, e ∈ p.trace libs) →
      (trace.foldl p.effect live).deployment = some dep →
      live.deployment = some dep ∨ p.Deployed libs dep := by
    intro trace
    induction trace with
    | nil => exact fun _ _ hdep => .inl hdep
    | cons e trace ih =>
        intro live hmem hdep
        obtain ⟨hfirst, hrest⟩ := List.forall_mem_cons.mp hmem
        refine (ih _ hrest hdep).elim (fun hstep => ?_) .inr
        cases e with
        | applyDeployment dep' =>
            dsimp only [PassInputs.effect] at hstep
            split at hstep
            · cases hstep
              exact .inr (deployed_of_mem hone hfirst)
            · exact .inl hstep
        | applyService svc =>
            dsimp only [PassInputs.effect] at hstep
            split at hstep
            · exact .inl hstep
            · exact .inl hstep
        | patchStatus status => exact .inl hstep
        | publish evt => exact .inl hstep
  exact hfold _ live (fun _ he => he) h

theorem deployment_liveAfter {start : Live} {history : List PassInputs}
    (hone : ∀ p ∈ history, OneAt p.ans.sigstore) {dep : ServerDeployment}
    (h : (liveAfter libs start history).deployment = some dep) :
    start.deployment = some dep ∨ ∃ p ∈ history, p.Deployed libs dep := by
  induction history generalizing start with
  | nil => exact .inl h
  | cons p history ih =>
      obtain ⟨hfirst, hrest⟩ := List.forall_mem_cons.mp hone
      rcases ih hrest h with hafter | ⟨q, hq, hdeployed⟩
      · exact (deployment_after hfirst start hafter).imp_right
          fun hdeployed => ⟨p, List.mem_cons_self, hdeployed⟩
      · exact .inr ⟨q, List.mem_cons_of_mem _ hq, hdeployed⟩

theorem imageGate (libs : ServerLibs) (start : Live)
    (history : List PassInputs)
    (hone : ∀ p ∈ history, OneAt p.ans.sigstore) :
    ImageGate libs start history where
  deployment p hp verify hverify _ hdep :=
    (deployed_of_mem (hone p hp) hdep).2 verify hverify
  service p hp verify hverify _ hsvc := by
    obtain ⟨-, hdep, -⟩ := workload_of_mem hsvc rfl
    exact ⟨_, hdep, (deployed_of_mem (hone p hp) hdep).2 verify hverify⟩
  unchanged before p after _ hrefused := by
    unfold liveAfter
    rw [List.foldl_append]
    exact after_of_refused hrefused _
  live _ hdep := deployment_liveAfter hone hdep

end Runs

namespace Sample

/-- A sigstore that has one signature for every image, and this answer from
the registry. -/
def sigstore (registry : Except String Unit) : SigstoreLib where
  Regex := String
  regexNew := .ok
  isMatch re subject := (fromFirst re.toList subject.toList).isSome
  parseReference reference :=
    if reference.toList.count '@' ≤ 1 then .ok ()
    else .error "invalid reference format"
  trustRoot := .ok ()
  clientBuild := .ok ()
  triangulate reference _ :=
    registry.map fun _ =>
      ("ghcr.io/acme/crm-mcp:signature", (digestOf reference).getD "")
  trustedSignatureLayers _ _ :=
    .ok [{ certificate := some ("release", some "issuer") }]
  verifyConstraints layers verifier := layers.any verifier

theorem oneAt_sigstore (registry : Except String Unit) :
    OneAt (sigstore registry) := by
  intro reference h
  dsimp only [sigstore] at h
  split at h
  · next hcount => exact hcount
  · cases h

def libs : ServerLibs where
  conditions := upsertConditions
  server :=
    { governanceError := fun _ => none
      federationName := fun _ name => name
      endpoint := fun _ child ns =>
        "http://" ++ child ++ "." ++ ns ++ ".svc:8080/mcp" }
  workload :=
    { port := fun spec => spec.port.getD 8080
      replicas := fun spec => spec.replicas.getD 1 }

/-- The identity that the sample's signatures have. -/
def byRelease : ServerVerify where
  cosignIdentity :=
    { certificateIdentityRegexp := "release", oidcIssuer := "issuer" }

def crm (image : String) : MCPGServer :=
  { metadata :=
      { name := some "crm", namespace_ := some "team-a"
        finalizers := some [operatorFinalizer] }
    spec :=
      { image := image
        verify := some byRelease } }

def crmPass (image : String) (registry : Except String Unit) :
    PassInputs where
  obj := crm image
  ans :=
    { addFinalizer := .ok ()
      removeFinalizer := .ok ()
      sigstore := sigstore registry
      applyDeployment := .ok ()
      applyService := .ok ()
      getDeployment := fun _ => .ok none
      getGateway := fun _ => .ok false
      resyncSecs := 300
      now := 0 }
  deploymentLands := false
  serviceLands := false

/-- An image of this name and tag, pinned to a digest that is one hex digit
over and over. -/
def pinnedImage (name : String) (digit : Char) : String :=
  name ++ "@sha256:" ++ String.ofList (List.replicate 64 digit)

def firstImage : String := pinnedImage "ghcr.io/acme/crm-mcp:1.0.0" 'a'

def secondImage : String := pinnedImage "ghcr.io/acme/crm-mcp:1.1.0" 'b'

/-- A first image, then a second that the registry does not answer for. -/
def crmHistory : List PassInputs :=
  [crmPass firstImage (.ok ()), crmPass secondImage (.error "timed out")]

theorem toList_pinnedImage (name : String) (digit : Char) :
    (pinnedImage name digit).toList =
      name.toList ++ '@' :: ("sha256:".toList ++ List.replicate 64 digit) := by
  have hhex : (String.ofList (List.replicate 64 digit)).toList =
      List.replicate 64 digit := String.toList_ofList
  unfold pinnedImage
  rw [String.toList_append, String.toList_append, hhex, List.append_assoc]
  rfl

theorem digestPinned_pinnedImage (name : String) (digit : Char) :
    digestPinned (pinnedImage name digit) = true := by
  refine Option.isSome_iff_ne_none.mpr fun hnone => ?_
  refine (fromFirst_eq_none (by decide)).mp hnone ⟨name.toList,
    List.replicate 64 digit, ?_⟩
  rw [toList_pinnedImage, List.append_assoc]
  rfl

theorem digestOf_pinnedImage {name : String} (h : '@' ∉ name.toList)
    (digit : Char) :
    digestOf (pinnedImage name digit) =
      some (String.ofList ("sha256:".toList ++ List.replicate 64 digit)) := by
  unfold digestOf
  rw [toList_pinnedImage, splitOnce_append h]
  rfl

/-- An image like that is vouched for where the registry answers. -/
theorem verifyImage_pinnedImage (name : String) (h : '@' ∉ name.toList)
    (digit : Char) (hdigit : digit ≠ '@') :
    ∃ r, verifyImage (sigstore (.ok ())) (pinnedImage name digit) byRelease =
      .ok r := by
  unfold verifyImage
  rw [digestOf_pinnedImage h, Option.getD_some]
  generalize hdigest :
    String.ofList ("sha256:".toList ++ List.replicate 64 digit) = digest
  have hfree : '@' ∉ digest.toList := by
    rw [← hdigest, String.toList_ofList, List.mem_append, not_or]
    exact ⟨by decide, fun hmem => hdigit (List.eq_of_mem_replicate hmem).symm⟩
  have hblank : (trim digest).isEmpty = false := by
    rw [Bool.eq_false_iff, ne_eq, String.isEmpty_iff, trim_eq_empty,
      ← hdigest, String.toList_ofList]
    exact fun hall => Bool.false_ne_true
      (hall 's' (List.mem_append_left _ (by decide)))
  have hcount : (pinToDigest (pinnedImage name digit) digest).toList.count '@'
      ≤ 1 := by
    rw [toList_pinToDigest, List.count_append, List.count_cons_self,
      List.count_eq_zero.mpr (repositoryOf_free _),
      List.count_eq_zero.mpr hfree]
  have hparse : (sigstore (.ok ())).parseReference
      (pinToDigest (pinnedImage name digit) digest) = .ok () := by
    dsimp only [sigstore]
    rw [if_pos hcount]
  have hsource : (sigstore (.ok ())).triangulate
      (pinToDigest (pinnedImage name digit) digest) .anonymous =
        .ok ("ghcr.io/acme/crm-mcp:signature", digest) := by
    dsimp only [sigstore]
    rw [digestOf_pin]
    rfl
  have hsame : digestsMatch digest digest = true := by
    unfold digestsMatch eqIgnoreAsciiCase
    exact beq_self_eq_true _
  have hre : (sigstore (.ok ())).regexNew
      byRelease.cosignIdentity.certificateIdentityRegexp = .ok "release" := rfl
  have htrust : (sigstore (.ok ())).trustRoot = .ok () := rfl
  have hclient : (sigstore (.ok ())).clientBuild = .ok () := rfl
  have hlayers : (sigstore (.ok ())).trustedSignatureLayers .anonymous
      "ghcr.io/acme/crm-mcp:signature" =
        .ok [{ certificate := some ("release", some "issuer") }] := rfl
  have hsigned : (sigstore (.ok ())).verifyConstraints
      [{ certificate := some ("release", some "issuer") }]
      (certSubjectRegexVerifier (sigstore (.ok ())) "release"
        byRelease.cosignIdentity.oidcIssuer) = true := by decide
  unfold verifyCosignKeyless
  rw [if_neg (by decide), hblank, if_neg Bool.false_ne_true, hre]
  dsimp only
  rw [hparse]
  dsimp only
  rw [htrust]
  dsimp only
  rw [hclient]
  dsimp only
  rw [hsource]
  dsimp only
  rw [hsame, if_neg (by decide), hlayers]
  dsimp only
  rw [if_pos hsigned]
  exact ⟨_, rfl⟩

/-- The first pass verifies its image. -/
theorem imageVerdict_firstImage :
    (imageVerdict (sigstore (.ok ())) (crm firstImage).spec).verified =
      true := by
  obtain ⟨r, hr⟩ := verifyImage_pinnedImage "ghcr.io/acme/crm-mcp:1.0.0"
    (by decide) 'a' (by decide)
  exact verdict_of_verified rfl (digestPinned_pinnedImage _ _) hr

/-- No image is vouched for without the registry. -/
theorem refused_crmPass (image e : String) :
    (crmPass image (.error e)).Refused := by
  refine ⟨byRelease, rfl, .inr ?_⟩
  cases h : verifyImage (sigstore (.error e)) image byRelease with
  | error failure => exact ⟨failure, h⟩
  | ok r =>
      obtain ⟨_, _, _, _, -, hsource, -⟩ := verifyCosignKeyless_ok h
      cases hsource

theorem deployment_crmHistory :
    (liveAfter libs { deployment := none, service := none }
      crmHistory).deployment.map (·.image) = some firstImage := by
  have hfinalizer : ensureFinalizer (.ok ()) (crm firstImage).metadata =
      .ok false := by
    decide
  have hfirst : (PassInputs.after libs { deployment := none, service := none }
      (crmPass firstImage (.ok ()))).deployment =
        some (buildServerDeployment libs.workload (crm firstImage)) :=
    deployment_of_verified (p := crmPass firstImage (.ok ())) rfl rfl rfl
      hfinalizer imageVerdict_firstImage rfl rfl _
  unfold liveAfter crmHistory
  rw [List.foldl_cons, List.foldl_cons, List.foldl_nil,
    after_of_refused (refused_crmPass _ _), hfirst]
  rfl

end Sample

/-- The image of the first pass stays. -/
theorem imageGate_crm :
    ((liveAfter Sample.libs { deployment := none, service := none }
        Sample.crmHistory).deployment.map (·.image) =
      some Sample.firstImage) ∧
    ImageGate Sample.libs { deployment := none, service := none }
      Sample.crmHistory := by
  refine ⟨Sample.deployment_crmHistory, imageGate _ _ _ ?_⟩
  unfold Sample.crmHistory
  simp only [List.forall_mem_cons]
  exact ⟨Sample.oneAt_sigstore _, Sample.oneAt_sigstore _,
    fun _ h => nomatch h⟩

end McpgOperator.Server
