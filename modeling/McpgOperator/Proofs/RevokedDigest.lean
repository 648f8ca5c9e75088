import McpgOperator.Proofs.TrustGate

/-!
# The digest in a revocation error

The host says `… artefact sha256:<digest> is revoked: <reason>`, and the
operator reads both back out of the text. The reason is what follows the
marker. The digest is looked for among the words, from the first `sha256` on,
as a word of 64 hex digits; but `sha256:<digest>` is one word of 71
characters, so the digest of the message is never among the candidates. What
is reported is the first such word of what precedes the digest, or of the
reason, and the manifest digest where there is none.
-/

namespace McpgOperator.Plugin

open McpgOperator.Kube McpgOperator.Text

/-! ## The message -/

/-- The marker the reason follows. -/
def revokedMarker : List Char := "is revoked: ".toList

/-- A word `artefact_sha_from_error` takes for a digest. -/
def isDigestWord (t : List Char) : Bool :=
  t.length == 64 && t.all isAsciiHexdigit

/-- A host error in the format of the module's test. -/
structure RevokedMessage where
  lead : String
  sha : String
  reason : String
  sha_hex : isDigestWord sha.toList = true
  reason_said : trim reason ≠ ""

def RevokedMessage.text (m : RevokedMessage) : String :=
  m.lead ++ "artefact sha256:" ++ m.sha ++ " is revoked: " ++ m.reason

/-- What precedes `sha256:` and the digest. -/
def RevokedMessage.before (m : RevokedMessage) : List Char :=
  m.lead.toList ++ "artefact".toList

/-- What follows the digest. -/
def RevokedMessage.after (m : RevokedMessage) : List Char :=
  ' ' :: (revokedMarker ++ m.reason.toList)

/-- `msg[idx..]` of `artefact_sha_from_error`, whose `idx` is found without
regard to case. -/
def fromSha256 (cs : List Char) : Option (List Char) :=
  (fromFirst "sha256".toList (cs.map asciiLower)).map fun tail =>
    cs.drop (cs.length - tail.length)

/-- The words the digest is looked for among: those from the first `sha256`
before the digest on, and those of the reason. -/
def RevokedMessage.words (m : RevokedMessage) : List (List Char) :=
  splitWhitespace ((fromSha256 m.before).getD []) ++
    splitWhitespace m.reason.toList

/-- The marker comes once before the reason, and the first candidate is the
digest. -/
structure RevokedMessage.Readable (m : RevokedMessage) : Prop where
  markedOnce : ¬ revokedMarker <:+: m.lead.toList
  shaFirst : ∃ earlier later,
    m.words = earlier ++ m.sha.toList :: later ∧
      ∀ word ∈ earlier, isDigestWord word = false

/-! ## The reason -/

theorem not_mem_of_isDigestWord {t : List Char} {c : Char}
    (h : isDigestWord t = true) (hc : isAsciiHexdigit c = false) : c ∉ t := by
  intro hmem
  obtain ⟨-, hall⟩ := (Bool.and_eq_true_iff).mp h
  have hhex := List.all_eq_true.mp hall c hmem
  rw [hc] at hhex
  cases hhex

theorem RevokedMessage.toList_text (m : RevokedMessage) :
    m.text.toList = m.lead.toList ++
      ("artefact sha256:".toList ++ (m.sha.toList ++ m.after)) := by
  have hmarker : " is revoked: ".toList = ' ' :: revokedMarker := by decide
  unfold text after
  rw [String.toList_append, String.toList_append, String.toList_append,
    String.toList_append, hmarker]
  simp only [List.append_assoc, List.cons_append]

/-- The digest and what surrounds it, up to the marker, have no `i`. -/
theorem RevokedMessage.fromFirst_marker (m : RevokedMessage) :
    fromFirst revokedMarker
        ("rtefact sha256:".toList ++ m.sha.toList ++ m.after) =
      some (revokedMarker ++ m.reason.toList) := by
  have hi : 'i' ∉ "rtefact sha256:".toList ++ m.sha.toList ++ [' '] := by
    have hsha := not_mem_of_isDigestWord m.sha_hex
      (show isAsciiHexdigit 'i' = false by decide)
    simp [hsha]
  have hafter : "rtefact sha256:".toList ++ m.sha.toList ++ m.after =
      "rtefact sha256:".toList ++ m.sha.toList ++ [' '] ++
        (revokedMarker ++ m.reason.toList) := by
    rw [List.append_assoc _ [' ']]
    rfl
  rw [hafter]
  exact (fromFirst_skip hi _).trans
    (fromFirst_of_front (by decide) (List.prefix_append _ _))

/-- The message from its first marker on. -/
theorem RevokedMessage.fromFirst_text (m : RevokedMessage) :
    fromFirst revokedMarker m.text.toList =
      match fromFirst revokedMarker m.lead.toList with
      | some tail =>
          some (tail ++ 'a' ::
            ("rtefact sha256:".toList ++ m.sha.toList ++ m.after))
      | none => some (revokedMarker ++ m.reason.toList) := by
  have htext : m.text.toList = m.lead.toList ++ 'a' ::
      ("rtefact sha256:".toList ++ m.sha.toList ++ m.after) := by
    have hartefact : "artefact sha256:".toList =
        'a' :: "rtefact sha256:".toList := by decide
    rw [m.toList_text, hartefact, List.cons_append, List.append_assoc]
  rw [htext, fromFirst_append (by decide) (by decide)]
  cases fromFirst revokedMarker m.lead.toList with
  | none => exact m.fromFirst_marker
  | some tail => rfl

theorem revocationReasonFromError_eq (msg : String) :
    revocationReasonFromError msg =
      ((fromFirst revokedMarker msg.toList).map fun tail =>
        trim (String.ofList (tail.drop revokedMarker.length))).filter
        (· ≠ "") := by
  unfold revocationReasonFromError
  rw [afterFirst_eq, Option.map_map]
  rfl

theorem RevokedMessage.reason_iff (m : RevokedMessage) :
    revocationReasonFromError m.text = some (trim m.reason) ↔
      ¬ revokedMarker <:+: m.lead.toList := by
  have htext := m.fromFirst_text
  rw [← fromFirst_eq_none (show revokedMarker ≠ [] by decide),
    revocationReasonFromError_eq]
  cases hlead : fromFirst revokedMarker m.lead.toList with
  | none =>
      rw [hlead] at htext
      dsimp only at htext
      rw [htext, Option.map_some, List.drop_left, String.ofList_toList]
      simp [m.reason_said]
  | some tail =>
      rw [hlead] at htext
      dsimp only at htext
      rw [htext, Option.map_some]
      refine iff_of_false (fun hsame => ?_) (by simp)
      -- The text taken for the reason has the digest's line in front of it.
      obtain ⟨skipped, rfl⟩ := prefix_of_fromFirst hlead
      rw [List.append_assoc, List.drop_left] at hsame
      have htrim := (Option.filter_eq_some_iff.mp hsame).1
      have hcount := congrArg
        (fun s : String => s.toList.countP (fun c => !isWhitespace c))
        (Option.some.inj htrim)
      have ha : (!isWhitespace 'a') = true := by decide
      simp only [countP_trim, String.toList_ofList, after,
        List.countP_append, List.countP_cons, ha, if_true] at hcount
      omega

/-! ## The digest -/

/-- A `sha256` stands before a space or after it. -/
theorem fromSha256_append (a b : List Char) :
    fromSha256 (a ++ ' ' :: b) =
      match fromSha256 a with
      | some tail => some (tail ++ ' ' :: b)
      | none => fromSha256 b := by
  have hspace : asciiLower ' ' = ' ' := by decide
  unfold fromSha256
  rw [List.map_append, List.map_cons, hspace,
    fromFirst_append (by decide) (by decide)]
  cases ha : fromFirst "sha256".toList (a.map asciiLower) with
  | some tail =>
      simp only [Option.map_some, List.length_append, List.length_cons,
        List.length_map, Option.some.injEq]
      have hdrop : a.length + (b.length + 1) -
          (tail.length + (b.length + 1)) = a.length - tail.length := by
        omega
      rw [hdrop, List.drop_append_of_le_length (Nat.sub_le _ _)]
  | none =>
      cases hb : fromFirst "sha256".toList (b.map asciiLower) with
      | none => rfl
      | some tail =>
          have hle := (suffix_of_fromFirst hb).length_le
          rw [List.length_map] at hle
          simp only [Option.map_some, Option.map_none, List.length_append,
            List.length_cons, Option.some.injEq]
          have hdrop : a.length + (b.length + 1) - tail.length =
              (a ++ [' ']).length + (b.length - tail.length) := by
            rw [List.length_append, List.length_singleton]
            omega
          rw [List.append_cons, hdrop, List.drop_length_add_append]

theorem fromSha256_self (cs : List Char) :
    fromSha256 ("sha256:".toList ++ cs) = some ("sha256:".toList ++ cs) := by
  have hlower : ("sha256:".toList ++ cs).map asciiLower =
      "sha256".toList ++ ':' :: cs.map asciiLower := by
    have hlit : "sha256:".toList.map asciiLower =
        "sha256".toList ++ [':'] := by decide
    rw [List.map_append, hlit, List.append_assoc]
    rfl
  have hlength := congrArg List.length hlower
  rw [List.length_map] at hlength
  unfold fromSha256
  rw [hlower, fromFirst_of_front (by decide) (List.prefix_append _ _),
    Option.map_some, ← hlength, Nat.sub_self, List.drop_zero]

theorem artefactShaFromError_eq (msg : String) :
    artefactShaFromError msg =
      ((fromSha256 msg.toList).bind fun tail =>
        (splitWhitespace tail).find? isDigestWord).map String.ofList := by
  unfold artefactShaFromError fromSha256 toAsciiLowercase
  rw [String.toList_ofList]
  dsimp only
  rw [List.length_map]
  cases fromFirst "sha256".toList (msg.toList.map asciiLower) with
  | none => rfl
  | some tail => rfl

/-- The digest stands in one word with its prefix. -/
theorem RevokedMessage.splitWhitespace_digest (m : RevokedMessage) :
    splitWhitespace ("sha256:".toList ++ m.sha.toList ++ m.after) =
      ("sha256:".toList ++ m.sha.toList) :: "is".toList ::
        "revoked:".toList :: splitWhitespace m.reason.toList := by
  have hspace : isWhitespace ' ' = true := by decide
  have hword : splitWhitespace ("sha256:".toList ++ m.sha.toList) =
      ["sha256:".toList ++ m.sha.toList] := by
    refine splitWhitespace_word (by simp) fun c hc => ?_
    rcases List.mem_append.mp hc with hpre | hsha
    · have hpure : "sha256:".toList.all (fun d => !isWhitespace d) = true := by
        decide
      exact (Bool.not_eq_true' _).mp (List.all_eq_true.mp hpure c hpre)
    · have hall := (Bool.and_eq_true_iff.mp m.sha_hex).2
      exact not_isWhitespace_of_hexdigit (List.all_eq_true.mp hall c hsha)
  have hmarker : revokedMarker ++ m.reason.toList =
      "is".toList ++ ' ' :: ("revoked:".toList ++ ' ' :: m.reason.toList) := by
    have hlit : revokedMarker =
        "is".toList ++ ' ' :: ("revoked:".toList ++ [' ']) := by decide
    rw [hlit]
    simp only [List.append_assoc, List.cons_append, List.nil_append]
  unfold after
  rw [splitWhitespace_append hspace, hword, hmarker,
    splitWhitespace_append hspace, splitWhitespace_append hspace]
  rfl

theorem RevokedMessage.artefactSha (m : RevokedMessage) :
    artefactShaFromError m.text =
      (m.words.find? isDigestWord).map String.ofList := by
  have htext : m.text.toList =
      m.before ++ ' ' :: ("sha256:".toList ++ m.sha.toList ++ m.after) := by
    have hartefact : "artefact sha256:".toList =
        "artefact".toList ++ ' ' :: "sha256:".toList := by decide
    rw [m.toList_text, hartefact, before]
    simp only [List.append_assoc, List.cons_append]
  have hlong : isDigestWord ("sha256:".toList ++ m.sha.toList) = false := by
    have hcolon : ':' ∈ "sha256:".toList ++ m.sha.toList := by simp
    exact Bool.eq_false_iff.mpr fun hword =>
      not_mem_of_isDigestWord hword (by decide) hcolon
  have hwords : (splitWhitespace
      ("sha256:".toList ++ m.sha.toList ++ m.after)).find? isDigestWord =
      (splitWhitespace m.reason.toList).find? isDigestWord := by
    rw [m.splitWhitespace_digest,
      List.find?_cons_of_neg (Bool.eq_false_iff.mp hlong),
      List.find?_cons_of_neg (by decide), List.find?_cons_of_neg (by decide)]
  rw [artefactShaFromError_eq, htext, fromSha256_append, words,
    List.find?_append]
  cases fromSha256 m.before with
  | none =>
      dsimp only
      rw [List.append_assoc, fromSha256_self, Option.bind_some,
        ← List.append_assoc, hwords]
      rfl
  | some tail =>
      dsimp only
      rw [Option.bind_some, splitWhitespace_append (by decide),
        List.find?_append, hwords]
      rfl

theorem RevokedMessage.sha_ne (m : RevokedMessage) : m.sha ≠ "" := by
  intro hempty
  have hhex := m.sha_hex
  rw [hempty] at hhex
  revert hhex
  decide

theorem RevokedMessage.sha_iff (m : RevokedMessage) :
    (artefactShaFromError m.text).getD "" = m.sha ↔
      ∃ earlier later, m.words = earlier ++ m.sha.toList :: later ∧
        ∀ word ∈ earlier, isDigestWord word = false := by
  have hfound : (artefactShaFromError m.text).getD "" = m.sha ↔
      m.words.find? isDigestWord = some m.sha.toList := by
    rw [m.artefactSha]
    cases m.words.find? isDigestWord with
    | none =>
        exact iff_of_false (fun hnone => m.sha_ne hnone.symm) (by simp)
    | some word =>
        rw [Option.map_some, Option.getD_some, Option.some.injEq]
        refine ⟨fun hword => ?_, fun hword => ?_⟩
        · rw [← hword, String.toList_ofList]
        · rw [hword, String.ofList_toList]
  rw [hfound, List.find?_eq_some_iff_append]
  refine ⟨fun h => ?_, fun h => ?_⟩
  · obtain ⟨-, earlier, later, hwords, hearlier⟩ := h
    exact ⟨earlier, later, hwords, fun word hword =>
      (Bool.not_eq_true' _).mp (hearlier word hword)⟩
  · obtain ⟨earlier, later, hwords, hearlier⟩ := h
    exact ⟨m.sha_hex, earlier, later, hwords, fun word hword =>
      (Bool.not_eq_true' _).mpr (hearlier word hword)⟩

/-! ## The pass -/

/-- A pass in which the host refuses what was pulled with the message. -/
structure Refusal (libs : PluginLibs) (ans : PluginAnswers)
    (obj : MCPGPlugin) where
  name : String
  artefact : PullArtefact
  publicKey : Bytes
  revocationList : Option libs.host.RevocationList
  message : RevokedMessage
  named : obj.metadata.name = some name
  live : obj.metadata.deletionTimestamp = none
  finalizer : ∃ patched,
    ensureFinalizer ans.addFinalizer obj.metadata = .ok patched
  pulled : ∃ target options,
    resolvePullTarget libs ans obj obj.observedGeneration =
      .ok (target, options) ∧
    pullAndUnpack libs.package ans.pull target options = .ok artefact
  keyLoaded : loadSigningKey libs.codec ans.getSecret
    obj.spec.trust.signingKeyRef = .ok publicKey
  listLoaded : loadRevocationList libs ans = .ok revocationList
  joined : ans.join = .ok ()
  described : parseDescriptorId libs.codec artefact.descriptorBytes =
    .ok obj.spec.pluginId
  refused : libs.host.verifyNativeArtifact artefact.tempdir
    artefact.unpacked.artifactPath
      { expectedSha256 := none, trustedPublicKeys := [publicKey]
        policy := .enforce, revocationList := revocationList } =
    .error message.text

section Reporting

variable {libs : PluginLibs} {ans : PluginAnswers} {obj : MCPGPlugin}

/-- What `verify_artefact` answers. -/
def Refusal.answer (r : Refusal libs ans obj) :
    Except VerifyError NativeVerifyResult :=
  verifyArtefact libs.codec libs.host r.artefact r.publicKey
    r.revocationList obj.spec.pluginId

/-- The error is the revocation of the message's digest for its reason, and
the pass reports that digest. -/
structure Refusal.Carries (r : Refusal libs ans obj) : Prop where
  mapped : r.answer =
    .error (.revoked r.message.sha (trim r.message.reason))
  reported : ∃ status,
    .patchStatus status ans.outcomeLands ∈ (reconcileInner libs ans obj).trace ∧
      status.resolvedDigest = some r.message.sha

theorem Refusal.answer_eq (r : Refusal libs ans obj) :
    r.answer =
      match revocationReasonFromError r.message.text with
      | some reason => .error
          (.revoked ((artefactShaFromError r.message.text).getD "") reason)
      | none => .error (.verifier r.message.text) := by
  unfold answer verifyArtefact
  rw [r.described]
  dsimp only
  rw [if_neg (not_not_intro rfl)]
  cases hanswer : revocationReasonFromError r.message.text with
  | none => simp only [r.refused, hanswer]
  | some reason => simp only [r.refused, hanswer]

theorem Refusal.answer_iff (r : Refusal libs ans obj) :
    r.answer = .error (.revoked r.message.sha (trim r.message.reason)) ↔
      revocationReasonFromError r.message.text =
          some (trim r.message.reason) ∧
        (artefactShaFromError r.message.text).getD "" = r.message.sha := by
  rw [r.answer_eq]
  cases revocationReasonFromError r.message.text with
  | none => simp
  | some reason =>
      simp only [Except.error.injEq, VerifyError.revoked.injEq,
        Option.some.injEq]
      exact and_comm

/-- A revocation is reported under its digest. -/
theorem Refusal.reports (r : Refusal libs ans obj) {reason : String}
    (h : r.answer = .error (.revoked r.message.sha reason)) :
    ∃ status,
      .patchStatus status ans.outcomeLands ∈
          (reconcileInner libs ans obj).trace ∧
        status.resolvedDigest = some r.message.sha := by
  obtain ⟨patched, hfinalizer⟩ := r.finalizer
  obtain ⟨target, options, htarget, hpull⟩ := r.pulled
  have hpass : reconcileInner libs ans obj =
      ((revokedReport obj.observedGeneration r.artefact.manifestDigest
        r.message.sha reason).write libs ans obj obj.observedGeneration).after
        [recordPulling libs ans obj obj.observedGeneration] := by
    unfold answer at h
    simp only [reconcileInner, r.named, r.live, Option.isSome_none,
      Bool.false_eq_true, if_false, hfinalizer, pullStep, htarget, hpull,
      verifyStep, r.keyLoaded, r.listLoaded, r.joined, h]
  have hsome : r.message.sha.isEmpty = false :=
    Bool.eq_false_iff.mpr fun hempty =>
      r.message.sha_ne (String.isEmpty_iff.mp hempty)
  rw [hpass]
  refine ⟨_, List.mem_cons_of_mem _ List.mem_cons_self, ?_⟩
  unfold revokedReport
  rw [hsome]
  rfl

/-- The digest is carried exactly when it is the first candidate. -/
theorem Refusal.carries_iff (r : Refusal libs ans obj) :
    r.Carries ↔ r.message.Readable := by
  refine ⟨fun h => ?_, fun h => ?_⟩
  · obtain ⟨hreason, hsha⟩ := r.answer_iff.mp h.mapped
    exact ⟨r.message.reason_iff.mp hreason, r.message.sha_iff.mp hsha⟩
  · have hanswer := r.answer_iff.mpr
      ⟨r.message.reason_iff.mpr h.markedOnce,
        r.message.sha_iff.mpr h.shaFirst⟩
    exact ⟨hanswer, r.reports hanswer⟩

end Reporting

namespace Sample

/-- The host's words about the sample's file, for a reason. -/
def refusalMessage (reason : String) (said : trim reason ≠ "") :
    RevokedMessage where
  lead := "verification failed: "
  sha := digest
  reason := reason
  sha_hex := by decide +kernel
  reason_said := said

/-- The sample's libraries over a host that answers with the message. -/
def refusingLibs (m : RevokedMessage) : PluginLibs :=
  { libs with
    host :=
      { host with verifyNativeArtifact := fun _ _ _ => .error m.text } }

def refusal (m : RevokedMessage) :
    Refusal (refusingLibs m) answers plugin where
  name := "workload"
  artefact := artefact
  publicKey := key
  revocationList := none
  message := m
  named := rfl
  live := rfl
  finalizer := ⟨_, rfl⟩
  pulled := by
    have hpull : pullAndUnpack package answers.pull plugin.spec.oci .default =
        .ok artefact := by decide +kernel
    exact ⟨plugin.spec.oci, .default, rfl, hpull⟩
  keyLoaded := by
    show loadSigningKey codec answers.getSecret _ = .ok key
    decide +kernel
  listLoaded := rfl
  joined := rfl
  described := by
    show parseDescriptorId codec artefact.descriptorBytes = .ok "workload"
    decide +kernel
  refused := rfl

/-- The message of the module's test, with a whole digest. -/
def incident : RevokedMessage :=
  refusalMessage "supply-chain incident — rotated key" (by decide +kernel)

/-- A reason that says the digest once more. -/
def incidentAgain : RevokedMessage :=
  refusalMessage ("rotated key, artefact " ++ digest) (by decide +kernel)

/-- The digest is lost, and the manifest digest reported. -/
theorem not_carries_incident :
    (refusal incident).answer =
        .error (.revoked "" "supply-chain incident — rotated key") ∧
      ¬ (refusal incident).Carries := by
  have hanswer : (refusal incident).answer =
      .error (.revoked "" "supply-chain incident — rotated key") := by
    have hlead : ¬ revokedMarker <:+: "verification failed: ".toList := by
      decide +kernel
    have htrim : trim incident.reason = incident.reason := by decide +kernel
    have hreason : revocationReasonFromError incident.text =
        some "supply-chain incident — rotated key" :=
      (incident.reason_iff.mpr hlead).trans (congrArg some htrim)
    have hwords : incident.words.find? isDigestWord = none := by
      decide +kernel
    have hsha : (artefactShaFromError incident.text).getD "" = "" := by
      rw [incident.artefactSha, hwords]
      rfl
    have hmessage : (refusal incident).message = incident := rfl
    rw [Refusal.answer_eq, hmessage, hreason, hsha]
  refine ⟨hanswer, fun h => ?_⟩
  have hmapped := h.mapped
  rw [hanswer] at hmapped
  injection hmapped with hrevoked
  injection hrevoked with hsha hreason
  exact incident.sha_ne hsha.symm

theorem carries_incidentAgain : (refusal incidentAgain).Carries := by
  refine (refusal incidentAgain).carries_iff.mpr ⟨?_, ?_⟩
  · show ¬ revokedMarker <:+: "verification failed: ".toList
    decide +kernel
  · refine ⟨["rotated".toList, "key,".toList, "artefact".toList], [], ?_, ?_⟩
    · decide +kernel
    · decide +kernel

end Sample

end McpgOperator.Plugin
