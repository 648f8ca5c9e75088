import McpgOperator.Admission.Plugin
import McpgOperator.Lib.Regex
import McpgOperator.Plugin.Cosign

/-!
# Which subjects an admitted identity accepts

The validator wants an identity pattern to begin with `^` and to end with `$`.
It looks at the characters of the pattern, and the anchors are those of its
parse: of two alternatives each has only one, a `$` behind a backslash is none,
and under the flag `m` both are anchors of a line. What the pattern accepts is
then whatever holds a match, and the match may leave out a part.

The regex crate is a parameter, `RegexCrate`, with what is documented of it:
a pattern that compiles is an expression, and `is_match` says whether it
matches somewhere.
-/

namespace McpgOperator.Plugin

open McpgOperator.Admission McpgOperator.Text Regex

/-- `regex::Regex`, as the validator and the verifier use it. -/
structure RegexCrate (sig : SigstoreLib) (protocol : PluginProtocol) where
  expr : sig.Regex → Re
  compiles : ∀ pattern, protocol.regexError pattern = none ↔
    ∃ re, sig.regexNew pattern = .ok re
  isMatch : ∀ re subject,
    sig.isMatch re subject = true ↔ Occurs (expr re) subject.toList

/-- The identity of a plugin that the validator admits, and the pattern as
the verifier compiles it. -/
structure AdmittedIdentity (sig : SigstoreLib) (protocol : PluginProtocol)
    where
  plugin : MCPGPlugin
  identity : CosignIdentity
  configured : plugin.spec.trust.cosignIdentity = some identity
  admitted : validatePlugin protocol plugin = .ok ()
  re : sig.Regex
  compiled : sig.regexNew identity.certificateIdentityRegexp = .ok re

/-- What the validator asks of the pattern: it compiles, and begins and ends
with these characters. -/
structure LooksAnchored (protocol : PluginProtocol) (pattern : String) :
    Prop where
  compiles : protocol.regexError pattern = none
  front : pattern.toList.head? = some '^'
  back : pattern.toList.getLast? = some '$'

theorem validateCosign_of_validatePlugin {protocol : PluginProtocol}
    {plugin : MCPGPlugin} {identity : CosignIdentity}
    (hconfigured : plugin.spec.trust.cosignIdentity = some identity)
    (h : validatePlugin protocol plugin = .ok ()) :
    validateCosign protocol identity = .ok () := by
  unfold validatePlugin at h
  obtain ⟨_, _, h⟩ := Except.of_bind_ok h
  obtain ⟨_, _, h⟩ := Except.of_bind_ok h
  obtain ⟨_, _, h⟩ := Except.of_bind_ok h
  obtain ⟨_, _, h⟩ := Except.of_bind_ok h
  obtain ⟨_, _, h⟩ := Except.of_bind_ok h
  obtain ⟨_, _, h⟩ := Except.of_bind_ok h
  obtain ⟨_, _, h⟩ := Except.of_bind_ok h
  obtain ⟨_, hcosign, _⟩ := Except.of_bind_ok h
  rw [hconfigured] at hcosign
  exact hcosign

theorem looksAnchored_of_validateCosign {protocol : PluginProtocol}
    {identity : CosignIdentity}
    (h : validateCosign protocol identity = .ok ()) :
    LooksAnchored protocol (trim identity.certificateIdentityRegexp) := by
  unfold validateCosign at h
  obtain ⟨_, _, h⟩ := Except.of_bind_ok h
  split at h
  · cases h
  · next hcompiles =>
    obtain ⟨_, hfront, h⟩ := Except.of_bind_ok h
    obtain ⟨_, hback, _⟩ := Except.of_bind_ok h
    exact ⟨hcompiles, of_not_not (not_of_denyIf hfront),
      of_not_not (not_of_denyIf hback)⟩

section

variable {sig : SigstoreLib} {protocol : PluginProtocol}

theorem AdmittedIdentity.looksAnchored
    (a : AdmittedIdentity sig protocol) :
    LooksAnchored protocol (trim a.identity.certificateIdentityRegexp) :=
  looksAnchored_of_validateCosign
    (validateCosign_of_validatePlugin a.configured a.admitted)

/-- Without blanks around it, what the validator compiles is what the
verifier compiles. -/
theorem exists_compiled_of_validateCosign (crate : RegexCrate sig protocol)
    {identity : CosignIdentity}
    (htrim : trim identity.certificateIdentityRegexp =
      identity.certificateIdentityRegexp)
    (h : validateCosign protocol identity = .ok ()) :
    ∃ re, sig.regexNew identity.certificateIdentityRegexp = .ok re := by
  have hlooks := looksAnchored_of_validateCosign h
  rw [htrim] at hlooks
  exact (crate.compiles _).mp hlooks.compiles

theorem matchesSubjectAndIssuer_iff (crate : RegexCrate sig protocol)
    {re : sig.Regex} {issuer subject : String} {layerIssuer : Option String} :
    matchesSubjectAndIssuer sig re issuer subject layerIssuer = true ↔
      layerIssuer = some issuer ∧ Occurs (crate.expr re) subject.toList := by
  rw [← crate.isMatch re subject]
  unfold matchesSubjectAndIssuer
  by_cases hissuer : layerIssuer = some issuer
  · rw [if_neg (not_not_intro hissuer)]
    exact (and_iff_right hissuer).symm
  · rw [if_pos hissuer]
    simp [hissuer]

/-- The pattern matches every subject the identity accepts as a whole. -/
def AdmittedIdentity.Covers (a : AdmittedIdentity sig protocol)
    (crate : RegexCrate sig protocol) : Prop :=
  ∀ issuer subject layerIssuer,
    matchesSubjectAndIssuer sig a.re issuer subject layerIssuer = true →
      Whole (crate.expr a.re) subject.toList

/-- A layer of the issuer asked for is accepted with this subject. -/
def AdmittedIdentity.Accepts (a : AdmittedIdentity sig protocol)
    (subject : List Char) : Prop :=
  ∀ issuer, matchesSubjectAndIssuer sig a.re issuer (String.ofList subject)
    (some issuer) = true

theorem AdmittedIdentity.accepts_iff (crate : RegexCrate sig protocol)
    (a : AdmittedIdentity sig protocol) (subject : List Char) :
    a.Accepts subject ↔ Occurs (crate.expr a.re) subject := by
  have hiff (issuer : String) :
      matchesSubjectAndIssuer sig a.re issuer (String.ofList subject)
        (some issuer) = true ↔ Occurs (crate.expr a.re) subject := by
    rw [matchesSubjectAndIssuer_iff crate, String.toList_ofList]
    exact and_iff_right rfl
  constructor
  · intro h
    exact (hiff "").mp (h "")
  · intro h issuer
    exact (hiff issuer).mpr h

theorem AdmittedIdentity.covers_of_anchored (crate : RegexCrate sig protocol)
    (a : AdmittedIdentity sig protocol)
    (h : AnchoredWays (crate.expr a.re)) : a.Covers crate := by
  intro issuer subject layerIssuer haccepted
  exact h.whole ((matchesSubjectAndIssuer_iff crate).mp haccepted).2

theorem AdmittedIdentity.whole_of_covers {crate : RegexCrate sig protocol}
    {a : AdmittedIdentity sig protocol} (h : a.Covers crate)
    {subject : List Char} (hoccurs : Occurs (crate.expr a.re) subject) :
    Whole (crate.expr a.re) subject := by
  have haccepted := (a.accepts_iff crate subject).mpr hoccurs ""
  have hwhole := h _ _ _ haccepted
  rwa [String.toList_ofList] at hwhole

/-- The identity covers what it accepts when every way through its pattern
has both anchors, and a selective pattern of text and line looks does not
otherwise. What a subject goes along without an anchor is accepted at that end
of any other text, with a line break between them if the way asks for lines. -/
theorem covers_iff_anchored (crate : RegexCrate sig protocol)
    (a : AdmittedIdentity sig protocol) :
    (AnchoredWays (crate.expr a.re) → a.Covers crate) ∧
    (plain (crate.expr a.re) = true → Selective (crate.expr a.re) →
      (a.Covers crate ↔ AnchoredWays (crate.expr a.re))) ∧
    ∀ w, Way (crate.expr a.re) w → w.all Step.plain = true →
      ∀ s i j, Follows s w i j → ∀ text : List Char,
        (leavesStart w = false →
          (w.all Step.ofText = true ∨ text.getLast? = some '\n') →
          a.Accepts (text ++ s)) ∧
        (reachesEnd w = false →
          (w.all Step.ofText = true ∨ text.head? = some '\n') →
          a.Accepts (s ++ text)) := by
  refine ⟨a.covers_of_anchored crate, ?_, ?_⟩
  · intro hplain hselective
    constructor
    · intro hcovers
      exact anchoredWays_of_whole hplain hselective fun _ =>
        AdmittedIdentity.whole_of_covers hcovers
    · exact a.covers_of_anchored crate
  · intro w hw hplain s i j hfollows text
    constructor
    · intro hloose hline
      exact (a.accepts_iff crate _).mpr
        ⟨_, _, hw.matches (hfollows.behind hplain (.inl hloose) hline)⟩
    · intro hloose hline
      exact (a.accepts_iff crate _).mpr
        ⟨_, _, hw.matches (hfollows.before hplain hloose hline)⟩

end

namespace Sample

/-- The core of the pattern syntax. -/
def coreNew (pattern : String) : Except String Re :=
  (parse pattern).elim (.error "not supported") .ok

def coreSigstore : SigstoreLib where
  Regex := Re
  regexNew := coreNew
  isMatch e subject := occurs e subject.toList
  parseReference _ := .ok ()
  trustRoot := .ok ()
  clientBuild := .ok ()
  triangulate reference _ := .ok (reference, "sha256:0123")
  trustedSignatureLayers _ _ := .ok []
  verifyConstraints layers verifier := layers.any verifier

def coreProtocol : PluginProtocol where
  allKinds := ["identity"]
  regexError pattern :=
    (parse pattern).elim (some "not supported") fun _ => none

theorem coreNew_of_parse {pattern : String} {e : Re}
    (h : parse pattern = some e) : coreNew pattern = .ok e := by
  unfold coreNew
  rw [h, Option.elim_some]

def coreCrate : RegexCrate coreSigstore coreProtocol where
  expr e := e
  compiles pattern := by
    show (parse pattern).elim (some "not supported") (fun _ => none) = none ↔
      ∃ e, coreNew pattern = .ok e
    unfold coreNew
    cases parse pattern with
    | none => simp
    | some e => simp
  isMatch _ _ := occurs_iff

/-- A plugin that names its signer by this pattern. -/
def signedBy (pattern : String) : MCPGPlugin where
  metadata := { name := some "workload" }
  spec :=
    { pluginId := "dev.mcpg.identity.workload"
      version := "1.0.0"
      pluginClass := "identity"
      oci :=
        { image := "ghcr.io/acme/workload:1", mirrorRef := none
          pullSecretRef := none }
      trust :=
        { signingKeyRef := { secretName := "keys", key := "pub" }
          cosignIdentity := some
            { certificateIdentityRegexp := pattern, oidcIssuer := "idp" }
          slsaProvenance := none } }
  status := none

def oneBuilder : String := "^ci@acme$"

/-- Two builders. -/
def eitherBuilder : String := "^ci@acme|cd@acme$"

/-- A dollar sign at the end. -/
def literalDollar : String := "^ci@acme\\$"

/-- A builder on a line. -/
def anyLine : String := "^(?m)ci@acme$"

/-- A pattern the validator admits. -/
def admittedPattern (pattern : String) (e : Re)
    (hadmitted : validatePlugin coreProtocol (signedBy pattern) = .ok ())
    (hparse : parse pattern = some e) :
    AdmittedIdentity coreSigstore coreProtocol where
  plugin := signedBy pattern
  identity :=
    { certificateIdentityRegexp := pattern, oidcIssuer := "idp" }
  configured := rfl
  admitted := hadmitted
  re := e
  compiled := coreNew_of_parse hparse

/-- The pattern is admitted and accepts the subject, and does not match it
as a whole. -/
def Overmatches (pattern subject : String) : Prop :=
  ∃ a : AdmittedIdentity coreSigstore coreProtocol,
    a.identity.certificateIdentityRegexp = pattern ∧
    matchesSubjectAndIssuer coreSigstore a.re "idp" subject (some "idp") =
      true ∧
    ¬ Whole (coreCrate.expr a.re) subject.toList

theorem overmatches_of {pattern subject : String}
    (hadmitted : validatePlugin coreProtocol (signedBy pattern) = .ok ())
    (h : (parse pattern).any (fun e => occurs e subject.toList &&
      !decide (Whole e subject.toList)) = true) :
    Overmatches pattern subject := by
  obtain ⟨e, hparse, hmatch⟩ := (Option.any_eq_true _ _).mp h
  obtain ⟨hoccurs, hwhole⟩ := Bool.and_eq_true_iff.mp hmatch
  have hnot : ¬ Whole e subject.toList := by simpa using hwhole
  refine ⟨admittedPattern pattern e hadmitted hparse, rfl, ?_, hnot⟩
  exact (matchesSubjectAndIssuer_iff coreCrate).mpr
    ⟨rfl, occurs_iff.mp hoccurs⟩

end Sample

open Sample in
/-- One builder with both anchors, and two of which each has one. -/
theorem covers_iff_anchored_builders :
    (∃ a : AdmittedIdentity coreSigstore coreProtocol,
      a.identity.certificateIdentityRegexp = oneBuilder ∧
      a.Covers coreCrate) ∧
    ∃ a : AdmittedIdentity coreSigstore coreProtocol,
      a.identity.certificateIdentityRegexp = eitherBuilder ∧
      (a.Covers coreCrate ↔ AnchoredWays (coreCrate.expr a.re)) ∧
      a.Accepts "evil-cd@acme".toList := by
  constructor
  · have hparsed : (parse oneBuilder).any (fun e =>
        (alternatives e).all anchored) = true := by decide +kernel
    obtain ⟨e, hparse, h⟩ := (Option.any_eq_true _ _).mp hparsed
    let a := admittedPattern oneBuilder e (by decide +kernel) hparse
    exact ⟨a, rfl, (covers_iff_anchored coreCrate a).1
      (anchoredWays_of_alternatives (List.all_eq_true.mp h))⟩
  · have hparsed : (parse eitherBuilder).any (fun e =>
        every Step.plain e && every (Step.spares '\n') e &&
          every Step.ofText e && (ends "-cd@acme".toList e 1).contains 8) =
        true := by decide +kernel
    obtain ⟨e, hparse, h⟩ := (Option.any_eq_true _ _).mp hparsed
    simp only [Bool.and_eq_true, List.contains_iff_mem] at h
    obtain ⟨⟨⟨hplain, hspares⟩, htext⟩, hmem⟩ := h
    let a := admittedPattern eitherBuilder e (by decide +kernel) hparse
    have h := covers_iff_anchored coreCrate a
    refine ⟨a, rfl, h.2.1 hplain (selective_of_spares hspares), ?_⟩
    obtain ⟨w, hw, hfollows⟩ := (mem_ends_iff.mp hmem).exists_way
    have hloose : leavesStart w = false := by
      refine Bool.eq_false_iff.mpr fun hstart => ?_
      exact absurd (hfollows.eq_zero hstart) Nat.one_ne_zero
    exact (h.2.2 w hw (hw.all hplain) _ _ _ hfollows "evil".toList).1 hloose
      (.inl (hw.all htext))

open Sample in
/-- A subject that ends like a builder, one that begins like one, and one
with a line of its own. -/
theorem not_covers :
    Overmatches eitherBuilder "evil-cd@acme" ∧
      Overmatches literalDollar "ci@acme$.evil" ∧
      Overmatches anyLine "ci@acme\nevil" ∧
      ¬ ∀ (a : AdmittedIdentity coreSigstore coreProtocol)
        (issuer subject : String) (layerIssuer : Option String),
        matchesSubjectAndIssuer coreSigstore a.re issuer subject
          layerIssuer = true →
        Whole (coreCrate.expr a.re) subject.toList := by
  have heither : Overmatches eitherBuilder "evil-cd@acme" :=
    overmatches_of (by decide +kernel) (by decide +kernel)
  refine ⟨heither, overmatches_of (by decide +kernel) (by decide +kernel),
    overmatches_of (by decide +kernel) (by decide +kernel), ?_⟩
  intro hall
  obtain ⟨a, -, haccepted, hwhole⟩ := heither
  exact hwhole (hall a "idp" "evil-cd@acme" (some "idp") haccepted)

end McpgOperator.Plugin
