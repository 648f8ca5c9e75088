import McpgOperator.Json
import McpgOperator.Kube.Object
import McpgOperator.Text

/-!
# The authorization server of a gateway

`authorization_server_alignment` of `controllers/gateway.rs`: whether the
issuer and the resource of `governance.access.authorization_server` name an
identity the rendered config advertises. The verdict is a condition on the
status, and nothing else depends on it.
-/

namespace McpgOperator.Gateway

open McpgOperator.Kube McpgOperator.Text

namespace AuthorizationServerReason

def aligned : String := "MatchesAdvertisedIdentity"

def issuerNotBareOrigin : String := "IssuerNotBareOrigin"

def issuerOriginMismatch : String := "IssuerOriginMismatch"

def resourceMismatch : String := "ResourceMismatch"

end AuthorizationServerReason

namespace CondType

def authorizationServerAligned : String := "AuthorizationServerAligned"

end CondType

/-! ## URLs -/

/-- `str::split_once` of a non-empty pattern. -/
def splitOnceAt (pat cs : List Char) : Option (List Char × List Char) :=
  (fromFirst pat cs).map fun rest =>
    (cs.take (cs.length - rest.length), rest.drop pat.length)

/-- `str::strip_suffix`. -/
def stripSuffix (suffix cs : List Char) : Option (List Char) :=
  (stripPrefix suffix.reverse cs.reverse).map List.reverse

theorem stripSuffix_append (cs suffix : List Char) :
    stripSuffix suffix (cs ++ suffix) = some cs := by
  unfold stripSuffix
  rw [List.reverse_append, stripPrefix_append, Option.map_some,
    List.reverse_reverse]

theorem eq_append_of_stripSuffix {cs suffix rest : List Char}
    (h : stripSuffix suffix cs = some rest) : cs = rest ++ suffix := by
  unfold stripSuffix at h
  obtain ⟨rev, hrev, rfl⟩ := Option.map_eq_some_iff.mp h
  have heq := congrArg List.reverse (eq_append_of_stripPrefix hrev)
  rw [List.reverse_reverse, List.reverse_append, List.reverse_reverse] at heq
  exact heq

/-- The port that says nothing beside this scheme. -/
def defaultPort : List Char → Option (List Char)
  | ['h', 't', 't', 'p', 's'] => some ":443".toList
  | ['h', 't', 't', 'p'] => some ":80".toList
  | _ => none

def urlOrigin (url : String) : Option String := do
  let (scheme, rest) ←
    splitOnceAt "://".toList (trimMatches isWhitespace url.toList)
  let scheme := scheme.map asciiLower
  let port ← defaultPort scheme
  let authority := rest.takeWhile fun c => !(['/', '?', '#'].contains c)
  let hostPort := (splitAfterLast '@' authority).2.map asciiLower
  let hostPort := (stripSuffix port hostPort).getD hostPort
  if hostPort.isEmpty || hostPort.head? == some ':' then none
  else some (String.ofList (scheme ++ "://".toList ++ hostPort))

def isBareOriginIssuer (issuer : String) : Bool :=
  match (stripPrefix "https://".toList issuer.toList).or
      (stripPrefix "http://".toList issuer.toList) with
  | none => false
  | some authority =>
      let authority := (stripSuffix ['/'] authority).getD authority
      !authority.isEmpty && authority.head? != some ':' &&
        !authority.any fun c => ['/', '?', '#', '@'].contains c

/-! ## The verdict -/

/-- `v.contains("${")`. -/
def hasPlaceholder (s : String) : Bool :=
  (fromFirst ['$', '{'] s.toList).isSome

/-- `s.trim_end_matches('/')`. -/
def trimTrailingSlashes (s : String) : List Char :=
  (s.toList.reverse.dropWhile (· = '/')).reverse

/-- The resources of the rendered config, the canonical one first. -/
def advertisedResources (rendered : Json) : List String :=
  let rm := rendered.getPath ["governance", "access", "resource_metadata"]
  ((rm.bind (·.get "resource")).bind Json.asStr).toList ++
    (((rm.bind (·.get "additional_resources")).bind Json.asArray).getD
      []).filterMap Json.asStr

/-- Each origin once, where it first appears. -/
def originsOf (advertised : List String) : List String :=
  (advertised.filterMap urlOrigin).foldl
    (fun origins origin =>
      if origins.contains origin then origins else origins ++ [origin])
    []

/-- What is wrong with the shape of the issuer. -/
def issuerShapeProblem (issuer preferred : String) :
    Option (String × String) :=
  if (urlOrigin issuer).isSome && !isBareOriginIssuer issuer then
    some (AuthorizationServerReason.issuerNotBareOrigin,
      "governance.access.authorization_server.issuer must be a bare " ++
        "origin, scheme://host[:port] with a lower-case http or https " ++
        "scheme and no userinfo, path, query or fragment (a trailing / is " ++
        "allowed), or the gateway refuses the configuration; set it to " ++
        preferred)
  else none

/-- What is wrong with where the issuer is. -/
def issuerOriginProblem (issuer preferred : String)
    (origins : List String) : Option (String × String) :=
  match urlOrigin issuer with
  | some origin =>
      if origins.contains origin then none
      else
        some (AuthorizationServerReason.issuerOriginMismatch,
          "governance.access.authorization_server.issuer is on origin " ++
            origin ++ ", which this instance is not served at (served at: " ++
            String.intercalate ", " origins ++ "); set it to " ++
            preferred ++ " and register that exact value as the audience " ++
            "at the enterprise IdP")
  | none =>
      some (AuthorizationServerReason.issuerOriginMismatch,
        "governance.access.authorization_server.issuer is not an absolute " ++
          "http(s) URL; set it to " ++ preferred)

/-- What is wrong with the resource; a blank one and a placeholder pass. -/
def resourceProblem (authz : Json) (advertised : List String) :
    Option (String × String) :=
  match ((authz.get "resource").bind Json.asStr).filter fun v =>
      trim v ≠ "" && !hasPlaceholder v with
  | none => none
  | some resource =>
      if advertised.any fun r =>
          trimTrailingSlashes r == trimTrailingSlashes resource
      then none
      else
        some (AuthorizationServerReason.resourceMismatch,
          "governance.access.authorization_server.resource is not a " ++
            "resource this instance advertises (advertised: " ++
            String.intercalate ", " advertised ++ "); an ID-JAG that names " ++
            "no resource gets a token for it, an audience no client was " ++
            "told about, so remove the key to use the advertised one")

/-- The condition the problems come to; the first gives the reason. -/
def alignmentCondition (problems : List (String × String)) : Condition :=
  match problems with
  | [] =>
      { type := CondType.authorizationServerAligned, status := "True"
        reason := AuthorizationServerReason.aligned, message := ""
        observedGeneration := none }
  | (reason, message) :: rest =>
      { type := CondType.authorizationServerAligned, status := "False"
        reason := reason
        message :=
          String.intercalate "; " (message :: rest.map Prod.snd)
        observedGeneration := none }

/-- `authorization_server_alignment`; nothing to say without an issuer to
judge or an origin to judge it by. -/
def authorizationServerAlignment (rendered : Json) : Option Condition := do
  let authz ← (rendered.getPath
    ["governance", "access", "authorization_server"]).filter
      fun v => v.asObject.isSome
  let issuer ← ((authz.get "issuer").bind Json.asStr).filter
    fun v => !hasPlaceholder v
  let advertised := advertisedResources rendered
  let origins := originsOf advertised
  let preferred ← origins.head?
  some (alignmentCondition
    ((issuerShapeProblem issuer preferred).toList ++
      (issuerOriginProblem issuer preferred origins).toList ++
      (resourceProblem authz advertised).toList))

theorem type_alignmentCondition (problems : List (String × String)) :
    (alignmentCondition problems).type =
      CondType.authorizationServerAligned := by
  cases problems <;> rfl

theorem type_of_mem_alignment {rendered : Json} {c : Condition}
    (h : c ∈ authorizationServerAlignment rendered) :
    c.type = CondType.authorizationServerAligned := by
  obtain ⟨authz, -, h⟩ := Option.bind_eq_some_iff.mp h
  obtain ⟨issuer, -, h⟩ := Option.bind_eq_some_iff.mp h
  obtain ⟨preferred, -, h⟩ := Option.bind_eq_some_iff.mp h
  rw [← Option.some.inj h]
  exact type_alignmentCondition _

end McpgOperator.Gateway
