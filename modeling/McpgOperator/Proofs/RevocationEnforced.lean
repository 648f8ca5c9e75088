import McpgOperator.Admission.RevocationList
import McpgOperator.Gateway.ListJson
import McpgOperator.Proofs.Revocation

/-!
# What an admitted revocation list enforces

A revocation list has one validator and three translations: for the plugin
verifier, for a gateway's `list.json` and for the namespaces. The validator
reads a digest trimmed; none of the translations trims. Their consumer
lower-cases, and refuses the whole list over one digest that is not
sixty-four hex digits: one entry with blanks around its digest, and no entry
of the list is enforced anywhere.
-/

namespace McpgOperator.Admission

open McpgOperator.Plugin McpgOperator.Text
open McpgOperator.RevocationList (RevocationLibs revocationDoc renderEntry)
open McpgOperator.Gateway (listJsonDoc listJsonEntry)

/-! ## The consumer -/

/-- Sixty-four hex digits. -/
def wellFormed (digest : String) : Bool :=
  digest.utf8ByteSize == sha256HexLen && digest.toList.all isAsciiHexdigit

/-- The digests a consumer blocks: it lower-cases, does not trim, and refuses
a list with a malformed digest. -/
def consume (digests : List String) : Option (List String) :=
  let lowered := digests.map toAsciiLowercase
  if lowered.all wellFormed then some lowered else none

/-- The consumer of the list blocks the digest. -/
def Blocks (digests : List String) (digest : String) : Prop :=
  ∃ blocked, consume digests = some blocked ∧ digest ∈ blocked

/-! ## The translations -/

inductive Translation
  | operatorList
  | listJson
  | fanOut
  deriving DecidableEq, Repr

/-- The digests of a rendered document, as its reader finds them. -/
def docDigests (doc : Json) : List String :=
  (((doc.get "revocations").bind Json.asArray).getD []).filterMap fun e =>
    (e.get "artifact_sha256").bind Json.asStr

/-- The digests a translation of the list hands over. -/
def Translation.digests (host : HostLib) (libs : RevocationLibs)
    (spec : MCPGRevocationListSpec) : Translation → List String
  | .operatorList =>
      (revocationListFile host spec).revocations.map (·.artifactSha256)
  | .listJson => docDigests (listJsonDoc libs spec)
  | .fanOut => docDigests (revocationDoc libs spec)

theorem digests_operatorList (host : HostLib) (libs : RevocationLibs)
    (spec : MCPGRevocationListSpec) :
    Translation.operatorList.digests host libs spec =
      spec.revocations.map (·.artifactSha256) := by
  unfold Translation.digests revocationListFile
  rw [List.map_map]
  rfl

theorem digests_listJson (host : HostLib) (libs : RevocationLibs)
    (spec : MCPGRevocationListSpec) :
    Translation.listJson.digests host libs spec =
      spec.revocations.map (·.artifactSha256) := by
  have hentry : ∀ e, ((listJsonEntry libs e).get "artifact_sha256").bind
      Json.asStr = some e.artifactSha256 := fun _ => rfl
  show (spec.revocations.map (listJsonEntry libs)).filterMap _ = _
  rw [List.filterMap_map]
  exact List.filterMap_eq_map_iff_forall_eq_some.mpr fun e _ => hentry e

theorem digests_fanOut (host : HostLib) (libs : RevocationLibs)
    (spec : MCPGRevocationListSpec) :
    Translation.fanOut.digests host libs spec =
      spec.revocations.map fun e => toAsciiLowercase e.artifactSha256 := by
  have hentries : ((revocationDoc libs spec).get "revocations").bind
      Json.asArray = some (spec.revocations.map (renderEntry libs)) := by
    unfold revocationDoc
    cases spec.issuedAt <;> rfl
  have hentry : ∀ e, ((renderEntry libs e).get "artifact_sha256").bind
      Json.asStr = some (toAsciiLowercase e.artifactSha256) := fun _ => rfl
  show docDigests (revocationDoc libs spec) = _
  unfold docDigests
  rw [hentries, Option.getD_some, List.filterMap_map]
  exact List.filterMap_eq_map_iff_forall_eq_some.mpr fun e _ => hentry e

/-! ## Lower-casing -/

theorem asciiLower_asciiLower (c : Char) :
    asciiLower (asciiLower c) = asciiLower c := by
  by_cases h : 'A' ≤ c ∧ c ≤ 'Z'
  · have hlower := asciiLower_of_upper h
    have hrange : 65 ≤ c.toNat ∧ c.toNat ≤ 90 := h
    have hnot : ¬ ('A' ≤ asciiLower c ∧ asciiLower c ≤ 'Z') := by
      intro hupper
      have hupper' : 65 ≤ (asciiLower c).toNat ∧
          (asciiLower c).toNat ≤ 90 := hupper
      omega
    exact if_neg hnot
  · have hsame : asciiLower c = c := if_neg h
    rw [hsame, hsame]

theorem toAsciiLowercase_idem (s : String) :
    toAsciiLowercase (toAsciiLowercase s) = toAsciiLowercase s := by
  unfold toAsciiLowercase
  rw [String.toList_ofList, List.map_map]
  congr 1
  exact List.map_congr_left fun c _ => asciiLower_asciiLower c

theorem isAsciiHexdigit_iff {c : Char} :
    isAsciiHexdigit c = true ↔
      (48 ≤ c.toNat ∧ c.toNat ≤ 57) ∨ (97 ≤ c.toNat ∧ c.toNat ≤ 102) ∨
        (65 ≤ c.toNat ∧ c.toNat ≤ 70) := by
  simp only [isAsciiHexdigit, Bool.or_eq_true, Bool.and_eq_true,
    decide_eq_true_eq, or_assoc]
  exact Iff.rfl

theorem isAsciiHexdigit_asciiLower (c : Char) :
    isAsciiHexdigit (asciiLower c) = isAsciiHexdigit c := by
  by_cases h : 'A' ≤ c ∧ c ≤ 'Z'
  · have hlower := asciiLower_of_upper h
    have hrange : 65 ≤ c.toNat ∧ c.toNat ≤ 90 := h
    rw [Bool.eq_iff_iff, isAsciiHexdigit_iff, isAsciiHexdigit_iff, hlower]
    omega
  · have hsame : asciiLower c = c := if_neg h
    rw [hsame]

theorem hexdigits_toAsciiLowercase (s : String) :
    (toAsciiLowercase s).toList.all isAsciiHexdigit =
      s.toList.all isAsciiHexdigit := by
  unfold toAsciiLowercase
  rw [String.toList_ofList, List.all_map]
  congr 1
  exact funext isAsciiHexdigit_asciiLower

theorem utf8ByteSize_of_hexdigits {s : String}
    (h : s.toList.all isAsciiHexdigit = true) :
    s.utf8ByteSize = s.toList.length := by
  refine utf8ByteSize_of_ascii fun c hc => ?_
  have hrange := isAsciiHexdigit_iff.mp (List.all_eq_true.mp h c hc)
  omega

theorem wellFormed_toAsciiLowercase (s : String) :
    wellFormed (toAsciiLowercase s) = wellFormed s := by
  unfold wellFormed
  rw [hexdigits_toAsciiLowercase]
  cases hhex : s.toList.all isAsciiHexdigit with
  | false => rw [Bool.and_false, Bool.and_false]
  | true =>
      have hlower : (toAsciiLowercase s).toList.all isAsciiHexdigit =
          true := (hexdigits_toAsciiLowercase s).trans hhex
      have hlength : (toAsciiLowercase s).toList.length =
          s.toList.length := by
        unfold toAsciiLowercase
        rw [String.toList_ofList, List.length_map]
      rw [utf8ByteSize_of_hexdigits hlower, utf8ByteSize_of_hexdigits hhex,
        hlength]

theorem consume_map_toAsciiLowercase (ds : List String) :
    consume (ds.map toAsciiLowercase) = consume ds := by
  have hsame : (ds.map toAsciiLowercase).map toAsciiLowercase =
      ds.map toAsciiLowercase := by
    rw [List.map_map]
    exact List.map_congr_left fun d _ => toAsciiLowercase_idem d
  unfold consume
  rw [hsame]

/-- The consumer makes the same of all three translations. -/
theorem consume_digests (host : HostLib) (libs : RevocationLibs)
    (spec : MCPGRevocationListSpec) (t : Translation) :
    consume (t.digests host libs spec) =
      consume (spec.revocations.map (·.artifactSha256)) := by
  cases t with
  | operatorList => rw [digests_operatorList]
  | listJson => rw [digests_listJson]
  | fanOut =>
      rw [digests_fanOut, ← consume_map_toAsciiLowercase
        (spec.revocations.map (·.artifactSha256)), List.map_map]
      rfl

/-! ## What is admitted -/

theorem wellFormed_of_validateEntries {entries : List RevocationEntry}
    {i : Nat} {seen : List String}
    (h : validateEntries i seen entries = .ok ()) :
    ∀ e ∈ entries, wellFormed (trim e.artifactSha256) = true := by
  induction entries generalizing i seen with
  | nil => exact fun e he => absurd he List.not_mem_nil
  | cons entry rest ih =>
      unfold validateEntries at h
      dsimp only at h
      split at h
      · cases h
      next hsize =>
      split at h
      · cases h
      next hhex =>
      split at h
      · cases h
      split at h
      · cases h
      refine List.forall_mem_cons.mpr ⟨?_, ih h⟩
      unfold wellFormed
      rw [not_not.mp hsize, Bool.eq_true_of_not_eq_false hhex]
      rfl

theorem wellFormed_of_validate {spec : MCPGRevocationListSpec}
    (h : validateRevocationList spec = .ok ()) :
    ∀ e ∈ spec.revocations, wellFormed (trim e.artifactSha256) = true := by
  unfold validateRevocationList at h
  split at h
  · cases h
  · exact wellFormed_of_validateEntries h

theorem trim_of_wellFormed {s : String} (h : wellFormed s = true) :
    trim s = s :=
  trim_eq_self_of_hexdigits (Bool.and_eq_true_iff.mp h).2

/-- No digest of the list has blanks around it. -/
def Untrimmed (spec : MCPGRevocationListSpec) : Prop :=
  ∀ e ∈ spec.revocations, trim e.artifactSha256 = e.artifactSha256

/-- An entry of an admitted list is enforced, by whichever translation,
exactly when no entry of the list has blanks around its digest. -/
theorem enforced_iff (host : HostLib) (libs : RevocationLibs)
    {spec : MCPGRevocationListSpec}
    (h : validateRevocationList spec = .ok ()) {e : RevocationEntry}
    (he : e ∈ spec.revocations) (t : Translation) :
    Blocks (t.digests host libs spec) (denotedDigest e) ↔
      Untrimmed spec := by
  have hadmitted := wellFormed_of_validate h
  unfold Blocks
  rw [consume_digests]
  have hall : ((spec.revocations.map (·.artifactSha256)).map
        toAsciiLowercase).all wellFormed =
      spec.revocations.all fun e => wellFormed e.artifactSha256 := by
    simp only [List.all_map, Function.comp_def, wellFormed_toAsciiLowercase]
  constructor
  · rintro ⟨blocked, hblocked, -⟩ e' he'
    unfold consume at hblocked
    dsimp only at hblocked
    split at hblocked
    · next hwell =>
      rw [hall] at hwell
      exact trim_of_wellFormed (List.all_eq_true.mp hwell e' he')
    · cases hblocked
  · intro huntrimmed
    have hwell : ∀ e ∈ spec.revocations,
        wellFormed e.artifactSha256 = true := by
      intro e' he'
      have hdigest := hadmitted e' he'
      rwa [huntrimmed e' he'] at hdigest
    refine ⟨_, if_pos (hall.trans (List.all_eq_true.mpr hwell)), ?_⟩
    unfold denotedDigest
    rw [huntrimmed e he]
    exact List.mem_map_of_mem (List.mem_map_of_mem he)

namespace Sample

open McpgOperator.Plugin.Sample (host padded)

def listLibs : RevocationLibs where
  conditions := Kube.upsertConditions
  toRfc3339 := fun _ => "2026-01-01T00:00:00Z"
  toStringPretty := fun _ => "{}"
  sha256Hex := fun _ => "44136fa3"

/-- The list without its padded entry. -/
def unpadded : MCPGRevocationListSpec :=
  { padded with revocations := padded.revocations.take 1 }

end Sample

open Sample in
/-- Without blanks, the namespaces get what the validator read. -/
theorem enforced_unpadded :
    ∃ e ∈ unpadded.revocations,
      Blocks (Translation.fanOut.digests Plugin.Sample.host listLibs unpadded)
        (denotedDigest e) := by
  have huntrimmed : Untrimmed unpadded := by
    unfold Untrimmed
    decide +kernel
  exact ⟨_, List.mem_cons_self,
    (enforced_iff Plugin.Sample.host listLibs (by decide +kernel)
      List.mem_cons_self .fanOut).mpr huntrimmed⟩

open Sample in
/-- With the padded entry admitted, no translation enforces any entry. -/
theorem not_enforced_padded :
    validateRevocationList Plugin.Sample.padded = .ok () ∧
      ∀ e ∈ Plugin.Sample.padded.revocations, ∀ t : Translation,
        ¬ Blocks (t.digests Plugin.Sample.host listLibs Plugin.Sample.padded)
          (denotedDigest e) := by
  refine ⟨Plugin.Sample.padded_admitted, ?_⟩
  rintro e - t ⟨blocked, hblocked, -⟩
  have hrefused : consume
      (Plugin.Sample.padded.revocations.map (·.artifactSha256)) = none := by
    decide +kernel
  rw [consume_digests, hrefused] at hblocked
  cases hblocked

end McpgOperator.Admission
