import McpgOperator.Json
import McpgOperator.Plugin.Types
import McpgOperator.Text

/-!
# SLSA provenance

`verify/slsa.rs`: the attestation lines of the provenance ConfigMap against
the policy of the plugin. The JSON and base64 decoders are other crates' and
enter as parameters.
-/

namespace McpgOperator.Plugin.Slsa

open McpgOperator.Kube McpgOperator.Text

def slsaV1Predicate : String := "https://slsa.dev/provenance/v1"

def slsaV02Predicate : String := "https://slsa.dev/provenance/v0.2"

inductive SlsaError
  | payloadMissing (key : String)
  | envelopeEmpty
  | envelopeJson (line : Nat) (source : String)
  | payloadBase64 (line : Nat) (source : String)
  | statementJson (line : Nat) (source : String)
  | noMatchingStatement (total matched : Nat) (sourceUri sourceTag : String)
  deriving DecidableEq, Repr

/-- `Display` of `SlsaError`. -/
def SlsaError.display : SlsaError → String
  | .payloadMissing key =>
      "provenance ConfigMap data key `" ++ key ++ "` missing or empty (the " ++
        "build pipeline must populate `data." ++ key ++ "` with the " ++
        ".intoto.jsonl bytes)"
  | .envelopeEmpty =>
      "provenance JSONL is empty (no DSSE envelopes to verify)"
  | .envelopeJson line source =>
      "provenance line " ++ toString line ++ " is not valid JSON: " ++ source
  | .payloadBase64 line source =>
      "provenance line " ++ toString line ++
        " payload base64 decode failed: " ++ source
  | .statementJson line source =>
      "provenance line " ++ toString line ++
        " payload is not a valid in-toto Statement: " ++ source
  | .noMatchingStatement total matched sourceUri sourceTag =>
      "no in-toto Statement matched the operator's policy: " ++
        toString total ++ " attestations parsed, " ++ toString matched ++
        " matched the SLSA predicate type, but none satisfied subject + " ++
        "source URI + source tag (configured: source_uri=`" ++ sourceUri ++
        "`, source_tag=`" ++ sourceTag ++ "`)"

structure SlsaVerifyResult where
  envelopesTotal : Nat
  matchedPredicateType : String
  deriving DecidableEq, Repr

structure Digest where
  sha256 : Option String
  deriving DecidableEq, Repr

structure Subject where
  digest : Digest
  deriving DecidableEq, Repr

structure InTotoStatement where
  predicateType : String
  subject : List Subject
  predicate : Json

structure DsseEnvelope where
  payload : String
  payloadType : Option String
  deriving DecidableEq, Repr

/-- `serde_json` and `base64`, with the errors the code quotes. -/
structure SlsaLib where
  envelopeFromStr : String → Except String DsseEnvelope
  base64Decode : String → Except String Bytes
  statementFromSlice : Bytes → Except String InTotoStatement

/-- One line, which is not blank: the envelope, its payload, the
statement. -/
def decodeLine (lib : SlsaLib) (number : Nat) (line : String) :
    Except SlsaError InTotoStatement := do
  let envelope ← (lib.envelopeFromStr line).mapError (.envelopeJson number)
  let payload ← (lib.base64Decode (trim envelope.payload)).mapError
    (.payloadBase64 number)
  (lib.statementFromSlice payload).mapError (.statementJson number)

def subjectMatches (subjects : List Subject) (artefactSha : String) : Bool :=
  subjects.any fun s =>
    s.digest.sha256.any fun h => eqIgnoreAsciiCase h artefactSha

/-- The predicate types that are accepted. -/
def acceptedPredicate (predicateType : String) : Option String :=
  if predicateType = slsaV1Predicate then some slsaV1Predicate
  else if predicateType = slsaV02Predicate then some slsaV02Predicate
  else none

def slsaV1SourceMatches (predicate : Json) (policy : SlsaProvenance) :
    Bool :=
  match ((predicate.get "buildDefinition").bind
      (·.get "externalParameters")).bind (·.get "source") with
  | none => false
  | some source =>
      let repo := (source.get "repository").bind Json.asStr
      let ref_ := ((source.get "ref").bind Json.asStr).or
        ((source.get "digest").bind Json.asStr)
      repo == some policy.sourceUri && ref_ == some policy.sourceTag

def slsaV02SourceMatches (predicate : Json) (policy : SlsaProvenance) :
    Bool :=
  match (predicate.get "invocation").bind (·.get "configSource") with
  | none => false
  | some cfg =>
      let uri := (cfg.get "uri").bind Json.asStr
      let ref_ := ((cfg.get "entryPoint").bind Json.asStr).or
        ((cfg.get "ref").bind Json.asStr)
      uri == some policy.sourceUri && ref_ == some policy.sourceTag

def predicateSourceMatches (predicateType : String) (predicate : Json)
    (policy : SlsaProvenance) : Bool :=
  if predicateType = slsaV1Predicate then
    slsaV1SourceMatches predicate policy
  else if predicateType = slsaV02Predicate then
    slsaV02SourceMatches predicate policy
  else false

/-- The loop over the lines from the one at index `i` on, with its two
counters. It stops at the first match and at the first line that does not
decode. -/
def verifyLines (lib : SlsaLib) (artefactSha : String)
    (policy : SlsaProvenance) (i total matched : Nat) :
    List String → Except SlsaError SlsaVerifyResult
  | [] => .error (.noMatchingStatement total matched policy.sourceUri
      policy.sourceTag)
  | line :: rest =>
      if trim line = "" then
        verifyLines lib artefactSha policy (i + 1) total matched rest
      else
        match decodeLine lib (i + 1) (trim line) with
        | .error e => .error e
        | .ok stmt =>
            match acceptedPredicate stmt.predicateType with
            | none =>
                verifyLines lib artefactSha policy (i + 1) (total + 1)
                  matched rest
            | some matchedPredicate =>
                if !(subjectMatches stmt.subject artefactSha) then
                  verifyLines lib artefactSha policy (i + 1) (total + 1)
                    (matched + 1) rest
                else if !(predicateSourceMatches matchedPredicate
                    stmt.predicate policy) then
                  verifyLines lib artefactSha policy (i + 1) (total + 1)
                    (matched + 1) rest
                else
                  .ok
                    { envelopesTotal := total + 1
                      matchedPredicateType := matchedPredicate }

def verifySlsaProvenance (lib : SlsaLib) (jsonl artefactSha256 : String)
    (policy : SlsaProvenance) : Except SlsaError SlsaVerifyResult :=
  if trim jsonl = "" then .error .envelopeEmpty
  else verifyLines lib artefactSha256 policy 0 0 0 (lines jsonl)

/-- What `run_slsa_verify` makes of it. -/
def verifyProvenance (lib : SlsaLib) (jsonl artefactSha256 : String)
    (policy : SlsaProvenance) : Except String Unit :=
  match verifySlsaProvenance lib jsonl artefactSha256 policy with
  | .ok _ => .ok ()
  | .error e => .error e.display

end McpgOperator.Plugin.Slsa
