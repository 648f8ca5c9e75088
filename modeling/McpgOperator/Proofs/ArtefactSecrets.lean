import McpgOperator.Lib.DnsName
import McpgOperator.Proofs.GateDecision

/-!
# Artefact Secrets

A plugin's files are kept in a Secret whose name has the plugin's in it and
eight digits of the hash of one file. A long plugin name is cut after 41
characters, wherever that is, and a hyphen put behind it. The data has two more
files in it than the one that was hashed.
-/

namespace McpgOperator.Plugin

open McpgOperator.Kube McpgOperator.Text DnsName

/-! ## Names -/

/-- `hex::encode`. -/
def LowerHex (s : String) : Prop :=
  ∀ c ∈ s.toList, ('0' ≤ c ∧ c ≤ '9') ∨ ('a' ≤ c ∧ c ≤ 'f')

/-- SHA-256 in hex. -/
def HexDigests (libs : PluginLibs) : Prop :=
  ∀ s, LowerHex (libs.sha256Hex s) ∧ (libs.sha256Hex s).length = 64

/-- The digits a name ends in. -/
def digestPrefix (artifactSha256 : String) : String :=
  let shaPrefix := takeChars 8 artifactSha256
  if shaPrefix.isEmpty then "unknown" else shaPrefix

theorem artefactSecretName_eq (libs : PluginLibs)
    (pluginName artifactSha256 : String) :
    artefactSecretName libs pluginName artifactSha256 =
      "mcpg-plugin-" ++ truncateKubeName libs pluginName 50 ++ "-" ++
        digestPrefix artifactSha256 := rfl

theorem alnum_of_lowerHex {s : String} (h : LowerHex s) :
    ∀ c ∈ s.toList, alnum c = true := by
  intro c hc
  rw [alnum_iff]
  rcases h c hc with hdigit | hletter
  · exact .inr hdigit
  · have hrange : 97 ≤ c.toNat ∧ c.toNat ≤ 102 := hletter
    omega

theorem alnum_digestPrefix {digest : String} (h : LowerHex digest) :
    ∀ c ∈ (digestPrefix digest).toList, alnum c = true := by
  intro c hc
  unfold digestPrefix at hc
  dsimp only at hc
  split at hc
  · have hall : "unknown".toList.all alnum = true := by decide
    exact List.all_eq_true.mp hall c hc
  · unfold takeChars at hc
    rw [String.toList_ofList] at hc
    exact alnum_of_lowerHex h c (List.mem_of_mem_take hc)

theorem digestPrefix_ne_nil (digest : String) :
    (digestPrefix digest).toList ≠ [] := by
  intro hnil
  have hempty : digestPrefix digest = "" := String.toList_eq_nil_iff.mp hnil
  unfold digestPrefix at hempty
  dsimp only at hempty
  split at hempty
  · exact absurd hempty (by decide)
  · next hne => exact hne (by rw [hempty]; rfl)

theorem length_digestPrefix (digest : String) :
    (digestPrefix digest).toList.length ≤ 8 := by
  unfold digestPrefix
  dsimp only
  split
  · decide
  · unfold takeChars
    rw [String.toList_ofList, List.length_take]
    omega

theorem utf8ByteSize_of_valid {name : String} (h : Valid name) :
    name.utf8ByteSize = name.toList.length := by
  refine utf8ByteSize_of_ascii fun c hc => ?_
  rcases h.1.spaced.chars c hc with halnum | rfl | rfl
  · have hrange := alnum_iff.mp halnum
    omega
  · decide
  · decide

/-- What a plugin's name comes to, cut or not: no dot at either end but where
it was cut. -/
theorem isChain_truncateKubeName {libs : PluginLibs}
    (hsha : HexDigests libs) {name : String} (h : Valid name) :
    ((truncateKubeName libs name 50).toList.IsChain Beside ∧
        (truncateKubeName libs name 50).toList.getLast? ≠ some '.') ↔
      (50 < name.length → name.toList[40]? ≠ some '.') := by
  have hspaced := h.1.spaced
  have hlength : name.length = name.toList.length :=
    String.length_toList.symm
  unfold truncateKubeName
  rw [utf8ByteSize_of_valid h, hlength]
  split
  · next hshort =>
    refine iff_of_true ⟨hspaced.dots, h.1.getLast?_ne_dot⟩ fun hlong => ?_
    exact absurd hlong (by omega)
  · next hlong =>
    have hhash : ∀ c ∈ (takeChars 8 (libs.sha256Hex name)).toList,
        alnum c = true := by
      intro c hc
      unfold takeChars at hc
      rw [String.toList_ofList] at hc
      exact alnum_of_lowerHex (hsha name).1 c (List.mem_of_mem_take hc)
    have htext : (takeChars (50 - 9) name ++ "-" ++
        takeChars 8 (libs.sha256Hex name)).toList =
          name.toList.take 41 ++ '-' ::
            (takeChars 8 (libs.sha256Hex name)).toList := by
      rw [String.toList_append, String.toList_append, List.append_assoc]
      unfold takeChars
      rw [String.toList_ofList]
      rfl
    have hget : 40 < name.toList.length := by omega
    have hlast : (name.toList.take 41).getLast? = name.toList[40]? := by
      rw [List.getLast?_take, if_neg (by decide),
        List.getElem?_eq_getElem hget]
      rfl
    have hback := getLast?_hyphen_of_alnum (a := name.toList.take 41) hhash
    rw [htext, isChain_hyphen, hlast]
    constructor
    · intro hall _
      exact hall.1.1.2
    · intro hdot
      exact ⟨⟨⟨hspaced.dots.take 41, hdot (by omega)⟩,
        isChain_of_alnum hhash, head?_of_alnum hhash⟩, hback⟩

theorem head?_truncateKubeName (libs : PluginLibs) {name : String}
    (h : Valid name) :
    (truncateKubeName libs name 50).toList.head? ≠ some '.' := by
  have hfront := h.1.head?_ne_dot
  unfold truncateKubeName
  split
  · exact hfront
  · rw [String.toList_append, String.toList_append, List.append_assoc]
    unfold takeChars
    rw [String.toList_ofList]
    cases hname : name.toList with
    | nil =>
        obtain ⟨c, hc, -⟩ := h.1.spaced.front
        rw [hname] at hc
        cases hc
    | cons c cs =>
        rw [hname] at hfront
        exact hfront

theorem chars_truncateKubeName {libs : PluginLibs} (hsha : HexDigests libs)
    {name : String} (h : Valid name) :
    ∀ c ∈ (truncateKubeName libs name 50).toList,
      alnum c = true ∨ c = '-' ∨ c = '.' := by
  intro c hc
  unfold truncateKubeName at hc
  split at hc
  · exact h.1.spaced.chars c hc
  · unfold takeChars at hc
    simp only [String.toList_append, String.toList_ofList,
      List.mem_append] at hc
    rcases hc with (hc | hc) | hc
    · exact h.1.spaced.chars c (List.mem_of_mem_take hc)
    · exact .inr (.inl (List.mem_singleton.mp hc))
    · exact .inl (alnum_of_lowerHex (hsha name).1 c
        (List.mem_of_mem_take hc))

theorem length_truncateKubeName (libs : PluginLibs) {name : String}
    (h : Valid name) :
    (truncateKubeName libs name 50).toList.length ≤ 50 := by
  unfold truncateKubeName
  rw [utf8ByteSize_of_valid h]
  split
  · next hshort => exact hshort
  · unfold takeChars
    simp only [String.toList_append, String.toList_ofList,
      List.length_append, List.length_take]
    have hhyphen : "-".toList.length = 1 := by decide
    omega

/-- The Secret's name is one the apiserver takes, unless the plugin's is cut
behind a dot. -/
theorem valid_artefactSecretName_iff {libs : PluginLibs}
    (hsha : HexDigests libs) {name digest : String} (hname : Valid name)
    (hdigest : LowerHex digest) :
    Valid (artefactSecretName libs name digest) ↔
      (50 < name.length → name.toList[40]? ≠ some '.') := by
  have htext : (artefactSecretName libs name digest).toList =
      "mcpg-plugin".toList ++ '-' ::
        ((truncateKubeName libs name 50).toList ++ '-' ::
          (digestPrefix digest).toList) := by
    rw [artefactSecretName_eq]
    simp only [String.toList_append, List.append_assoc]
    rfl
  have hlength : (artefactSecretName libs name digest).length ≤ 253 := by
    have hcut := length_truncateKubeName libs hname
    have hend := length_digestPrefix digest
    have hfront : "mcpg-plugin".toList.length = 11 := by decide
    rw [← String.length_toList, htext]
    simp only [List.length_append, List.length_cons]
    omega
  have hlabel : Label "mcpg-plugin".toList := by
    refine ⟨⟨'m', by decide, by decide⟩, ⟨'n', by decide, by decide⟩, ?_⟩
    have hall : ("mcpg-plugin".toList.all fun c =>
        alnum c || c == '-') = true := by decide
    intro c hc
    simpa using List.all_eq_true.mp hall c hc
  unfold Valid
  rw [and_iff_left hlength, htext, subdomain_iff,
    spaced_hyphens_iff hlabel (head?_truncateKubeName libs hname)
      (chars_truncateKubeName hsha hname) (alnum_digestPrefix hdigest)
      (digestPrefix_ne_nil digest),
    isChain_truncateKubeName hsha hname]

/-! ## Contents -/

section Contents

variable {libs : PluginLibs} {ans : PluginAnswers} {obj : MCPGPlugin}

/-- A pass that applies a Secret for the plugin, whatever the apiserver
says to it. -/
structure Materialising (libs : PluginLibs) (name : String) where
  ans : PluginAnswers
  obj : MCPGPlugin
  artefact : PullArtefact
  result : NativeVerifyResult
  cosign : Option Bool
  slsa : Option Bool
  through : GoesThrough libs ans obj name artefact result cosign slsa
  secret : Secret
  answer : Except KubeError Unit
  applied : .applySecret secret answer ∈ (reconcileInner libs ans obj).trace

/-- The two pulls came with the same three files. -/
def SameFiles (a b : PullArtefact) : Prop :=
  a.artifactBytes = b.artifactBytes ∧ a.signatureBytes = b.signatureBytes ∧
    a.descriptorBytes = b.descriptorBytes

theorem exists_materialising {name : String}
    (hname : obj.metadata.name = some name) {secret : Secret}
    {answer : Except KubeError Unit}
    (h : .applySecret secret answer ∈ (reconcileInner libs ans obj).trace) :
    ∃ p : Materialising libs name, p.obj = obj ∧ p.secret = secret ∧
      p.answer = answer := by
  obtain ⟨name', artefact, result, cosign, slsa, hthrough⟩ :=
    goesThrough_of_commits h rfl
  have hsame : name' = name :=
    Option.some.inj (hthrough.named.symm.trans hname)
  subst hsame
  exact ⟨⟨ans, obj, artefact, result, cosign, slsa, hthrough, secret, answer,
    h⟩, rfl, rfl, rfl⟩

/-- The Secret a pass applies is the one it builds. -/
theorem secret_of_goesThrough {name : String} {artefact : PullArtefact}
    {result : NativeVerifyResult} {cosign slsa : Option Bool}
    (hthrough : GoesThrough libs ans obj name artefact result cosign slsa)
    {secret : Secret} {answer : Except KubeError Unit}
    (h : .applySecret secret answer ∈ (reconcileInner libs ans obj).trace) :
    secret = secretOf libs obj name artefact result.artifactHash := by
  exact ((applySecret_mem_iff_of_goesThrough hthrough).mp h).1

theorem artefactData_inj {a b : PullArtefact} :
    artefactData a = artefactData b ↔ SameFiles a b := by
  unfold artefactData SameFiles
  cases a.signatureBytes with
  | none =>
      cases b.signatureBytes with
      | none => simp
      | some sig => simp
  | some sig =>
      cases b.signatureBytes with
      | none => simp
      | some sig' =>
          simp only [List.cons_append, List.nil_append, List.cons.injEq,
            Prod.mk.injEq, true_and, and_true, Option.some.injEq]
          exact and_left_comm

/-- Of one plugin's Secrets the digits tell the names apart. -/
theorem artefactSecretName_inj {name digest digest' : String} :
    artefactSecretName libs name digest =
        artefactSecretName libs name digest' ↔
      digestPrefix digest = digestPrefix digest' := by
  rw [artefactSecretName_eq, artefactSecretName_eq]
  exact String.append_right_inj _

/-- Two passes over a plugin that meet in a Secret agree on its data exactly
when the digits they take from the artefact's hash decide all three files. -/
theorem same_data_iff {name : String} (p q : Materialising libs name) :
    (p.secret.name = q.secret.name → p.secret.data = q.secret.data) ↔
      (digestPrefix p.result.artifactHash =
          digestPrefix q.result.artifactHash →
        SameFiles p.artefact q.artefact) := by
  have hp := secret_of_goesThrough p.through p.applied
  have hq := secret_of_goesThrough q.through q.applied
  have hname : p.secret.name = q.secret.name ↔
      digestPrefix p.result.artifactHash =
        digestPrefix q.result.artifactHash := by
    have hinj : artefactSecretName libs name p.result.artifactHash =
        artefactSecretName libs name q.result.artifactHash ↔ _ :=
      artefactSecretName_inj
    rw [hp, hq, ← hinj]
    exact Option.some_inj
  have hdata : p.secret.data = q.secret.data ↔
      SameFiles p.artefact q.artefact := by
    rw [hp, hq, ← artefactData_inj]
    exact Option.some_inj
  rw [hname, hdata]

end Contents

namespace Sample

/-- A name with a dot behind its first 40 characters. -/
def dottedName : String :=
  "workload-identity-for-the-payments-teams.eu-central"

/-- One without a dot there. -/
def longName : String :=
  "workload-identity-for-the-payments-department.eu-central"

/-- SHA-256 where it is needed. -/
def namedLibs : PluginLibs :=
  { libs with
    sha256Hex := fun s =>
      if s = dottedName then
        "d9630d58d13ee60438beaadaeffc412c00c162585dcdd4c8175a300804e42fdd"
      else if s = longName then
        "1bee26e90f3b297d6b97bfa6f69dcfbc6a7ba99dad36b94e229294257252ae35"
      else digest }

theorem lowerHex_of_all {s : String}
    (h : (s.toList.all fun c =>
      ('0' ≤ c && c ≤ '9') || ('a' ≤ c && c ≤ 'f')) = true) :
    LowerHex s := by
  intro c hc
  simpa using List.all_eq_true.mp h c hc

theorem lowerHex_digest : LowerHex digest :=
  lowerHex_of_all (by decide +kernel)

theorem hexDigests_namedLibs : HexDigests namedLibs := by
  intro s
  unfold namedLibs
  dsimp only
  split
  · exact ⟨lowerHex_of_all (by decide +kernel), by decide +kernel⟩
  · split
    · exact ⟨lowerHex_of_all (by decide +kernel), by decide +kernel⟩
    · exact ⟨lowerHex_digest, by decide +kernel⟩

/-- A package is the file's three bytes and what signs them. -/
def signedPackage : PackageLib :=
  { package with
    unpackTo := fun zip =>
      .ok
        ({ artifactKind := .native, artifactPath := "plugin.so"
           signaturePath := some "plugin.sig"
           descriptorPath := "plugin.yaml" },
          [("plugin.so", zip.take 3), ("plugin.sig", zip.drop 3),
            ("plugin.yaml", ascii "id: workload")]) }

def signedLibs : PluginLibs := { libs with package := signedPackage }

/-- The registry serves the file with this signature. -/
def signedAnswers (manifestDigest : String) (sig : Bytes) : PluginAnswers :=
  { answers with
    pull :=
      { answers.pull with
        pull := fun _ => .pulled manifestDigest (ascii "abc" ++ sig) } }

def signedSecret (manifestDigest : String) (sig : Bytes) : Secret :=
  buildArtefactSecret plugin operatorNamespace secretName
    { artefact with
      manifestDigest := manifestDigest
      artifactSha256 := some digest
      signatureBytes := some sig }

end Sample

open Sample in
/-- A name that is cut within a word. -/
theorem valid_artefactSecretName_workload :
    artefactSecretName namedLibs longName digest =
        "mcpg-plugin-workload-identity-for-the-payments-depart-1bee26e9-" ++
          "ba7816bf" ∧
      Valid (artefactSecretName namedLibs longName digest) :=
  ⟨by decide +kernel,
    (valid_artefactSecretName_iff hexDigests_namedLibs (by decide +kernel)
      lowerHex_digest).mpr fun _ => by decide +kernel⟩

open Sample in
theorem not_valid_artefactSecretName :
    HexDigests namedLibs ∧ Valid dottedName ∧ LowerHex digest ∧
      artefactSecretName namedLibs dottedName digest =
        "mcpg-plugin-workload-identity-for-the-payments-teams.-d9630d58-" ++
          "ba7816bf" ∧
      ¬ Valid (artefactSecretName namedLibs dottedName digest) :=
  ⟨hexDigests_namedLibs, by decide +kernel, lowerHex_digest,
    by decide +kernel, by decide +kernel⟩

open Sample in
/-- The artefact signed anew. -/
theorem not_same_data :
    ∃ p q : Materialising signedLibs "workload",
      p.obj = q.obj ∧ p.answer = .ok () ∧ q.answer = .ok () ∧
        p.secret.name = q.secret.name ∧ p.secret.data ≠ q.secret.data := by
  have hfirst : .applySecret (signedSecret "sha256:0123" [1]) (.ok ()) ∈
      (reconcileInner signedLibs (signedAnswers "sha256:0123" [1])
        plugin).trace := by decide +kernel
  have hsecond : .applySecret (signedSecret "sha256:4567" [2]) (.ok ()) ∈
      (reconcileInner signedLibs (signedAnswers "sha256:4567" [2])
        plugin).trace := by decide +kernel
  obtain ⟨p, hobj, hsecret, hanswer⟩ := exists_materialising rfl hfirst
  obtain ⟨q, hobj', hsecret', hanswer'⟩ := exists_materialising rfl hsecond
  refine ⟨p, q, hobj.trans hobj'.symm, hanswer, hanswer', ?_, ?_⟩
  · rw [hsecret, hsecret']
    rfl
  · rw [hsecret, hsecret']
    decide

end McpgOperator.Plugin
