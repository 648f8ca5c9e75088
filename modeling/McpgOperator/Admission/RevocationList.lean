import McpgOperator.Plugin.Types
import McpgOperator.Text

/-!
# Admission of revocation lists

`admission/validators/revocation_list.rs`. The validator reads an entry
trimmed and lower-cased; it does not rewrite what is stored.
-/

namespace McpgOperator.Admission

open McpgOperator.Plugin McpgOperator.Text

def supportedVersion : Nat := 1

def sha256HexLen : Nat := 64

/-- The loop of `validate_spec` from index `i` on, with the digests seen
before it. -/
def validateEntries (i : Nat) (seen : List String) :
    List RevocationEntry → Except String Unit
  | [] => .ok ()
  | entry :: rest =>
      let sha := trim entry.artifactSha256
      let lc := toAsciiLowercase sha
      if sha.utf8ByteSize ≠ sha256HexLen then
        .error ("spec.revocations[" ++ toString i ++
          "].artifactSha256 must be exactly " ++ toString sha256HexLen ++
          " hex characters (got " ++ toString sha.utf8ByteSize ++ ")")
      else if sha.toList.all isAsciiHexdigit = false then
        .error ("spec.revocations[" ++ toString i ++
          "].artifactSha256 must be hex (got `" ++ sha ++ "`)")
      else if seen.contains lc then
        .error ("duplicate artifactSha256 `" ++ lc ++ "` at index " ++
          toString i ++ " (operators consolidate into a single entry per " ++
          "artefact)")
      else if (trim entry.reason).isEmpty then
        .error ("spec.revocations[" ++ toString i ++
          "].reason must not be empty")
      else
        validateEntries (i + 1) (lc :: seen) rest

/-- `validate_spec`. -/
def validateRevocationList (spec : MCPGRevocationListSpec) :
    Except String Unit :=
  if spec.version ≠ supportedVersion then
    .error ("spec.version=" ++ toString spec.version ++
      " but only version=1 is supported")
  else validateEntries 0 [] spec.revocations

/-- The digest an entry denotes, as the validator reads it. -/
def denotedDigest (e : RevocationEntry) : String :=
  toAsciiLowercase (trim e.artifactSha256)

end McpgOperator.Admission
