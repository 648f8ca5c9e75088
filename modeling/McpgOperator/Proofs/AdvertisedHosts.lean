import McpgOperator.Proofs.CloudIdentity
import McpgOperator.Url

/-!
# Whether the edge serves the hosts a managed gateway advertises

Three pieces of string code meet here: the URLs the config advertises, the
hostnames of the HTTPRoute, and the admission check. The custom domains are
checked and routed as they are, so they always agree. The external URL
agrees when what `host_of` cuts out of it is a hostname, and a canonical URL
when it names one of the hosts that are routed; admission looks at neither.
-/

namespace McpgOperator.Gateway

open McpgOperator.Kube McpgOperator.Templates McpgOperator.Admission
  McpgOperator.Text McpgOperator.Url Json

/-! ## Valid hostnames -/

/-- A syntactically valid DNS hostname, as `validate_dns_hostname` has
it. -/
def IsHostname (host : String) : Prop := validateDnsHostname host = .ok ()

instance (host : String) : Decidable (IsHostname host) :=
  inferInstanceAs (Decidable (_ = _))

theorem isHostChar_of_validateDnsLabel {s : String}
    (h : validateDnsLabel s = .ok ()) :
    ∀ c ∈ s.toList, isHostChar c = true := by
  unfold validateDnsLabel at h
  split at h
  · cases h
  split at h
  · cases h
  split at h
  · cases h
  next hall =>
  intro c hc
  have hlabel : isDnsLabelChar c = true :=
    List.all_eq_true.mp (eq_true_of_ne_false hall) c hc
  unfold isHostChar
  unfold isDnsLabelChar at hlabel
  rw [hlabel, Bool.true_or]

theorem isHostChar_of_validateLabels {parts : List String}
    (h : validateLabels parts = .ok ()) :
    ∀ part ∈ parts, ∀ c ∈ part.toList, isHostChar c = true := by
  induction parts with
  | nil => exact fun _ hpart => nomatch hpart
  | cons part parts ih =>
      obtain ⟨_, hpart, hrest⟩ := Except.of_bind_ok h
      exact List.forall_mem_cons.mpr
        ⟨isHostChar_of_validateDnsLabel (Except.of_mapError_ok hpart),
          ih hrest⟩

/-- A text joined with dots has the characters of its parts and dots. -/
theorem forall_mem_intercalate {p : Char → Prop} {sep : Char}
    (hsep : p sep) {parts : List (List Char)}
    (h : ∀ part ∈ parts, ∀ c ∈ part, p c) :
    ∀ c ∈ [sep].intercalate parts, p c := by
  induction parts with
  | nil => exact fun _ hc => nomatch hc
  | cons part parts ih =>
      obtain ⟨hpart, hparts⟩ := List.forall_mem_cons.mp h
      cases parts with
      | nil =>
          rw [List.intercalate_singleton]
          exact hpart
      | cons part' parts =>
          rw [List.intercalate_cons_cons]
          intro c hc
          rcases List.mem_append.mp hc with hc | hc
          · rcases List.mem_append.mp hc with hc | hc
            · exact hpart c hc
            · rw [List.mem_singleton.mp hc]
              exact hsep
          · exact ih hparts c hc

namespace IsHostname

variable {host : String}

theorem ne_nil (h : IsHostname host) : host.toList ≠ [] := by
  unfold IsHostname validateDnsHostname at h
  split at h
  · cases h
  next hne => exact fun hnil => hne (String.toList_eq_nil_iff.mp hnil)

theorem not_isEmpty (h : IsHostname host) : ¬ host.toList.isEmpty = true :=
  fun hempty => h.ne_nil (List.isEmpty_iff.mp hempty)

theorem isHostChar (h : IsHostname host) :
    ∀ c ∈ host.toList, isHostChar c = true := by
  unfold IsHostname validateDnsHostname at h
  split at h
  · cases h
  split at h
  · cases h
  have hlabels := isHostChar_of_validateLabels h
  have hparts : ∀ part ∈ host.toList.splitOn '.',
      ∀ c ∈ part, Url.isHostChar c = true := by
    intro part hpart
    have hchars := hlabels _ (List.mem_map_of_mem hpart)
    rw [String.toList_ofList] at hchars
    exact hchars
  have hjoin : ['.'].intercalate (host.toList.splitOn '.') = host.toList :=
    List.intercalate_splitOn '.'
  rw [← hjoin]
  exact forall_mem_intercalate (by decide) hparts

end IsHostname

theorem isHostname_of_validateCustomDomains {i : Nat}
    {domains : List String} (h : validateCustomDomains i domains = .ok ()) :
    ∀ domain ∈ domains, IsHostname domain := by
  induction domains generalizing i with
  | nil => exact fun _ hd => nomatch hd
  | cons domain domains ih =>
      obtain ⟨_, hdomain, hrest⟩ := Except.of_bind_ok h
      exact List.forall_mem_cons.mpr
        ⟨Except.of_mapError_ok hdomain, ih hrest⟩

/-- The custom domains of an admitted block are hostnames, and its external
URL is one of the web, but for white space around it. -/
theorem of_validateCloud {cloud : GatewayCloud}
    (h : validateCloud cloud = .ok ()) :
    (∀ domain ∈ cloud.customDomains, IsHostname domain) ∧
      hasHttpScheme (trim cloud.externalUrl) = true := by
  obtain ⟨_, _, h⟩ := Except.of_bind_ok h
  obtain ⟨_, _, h⟩ := Except.of_bind_ok h
  dsimp only at h
  split at h
  · cases h
  split at h
  · cases h
  next hscheme =>
  exact ⟨isHostname_of_validateCustomDomains h,
    eq_true_of_ne_false hscheme⟩

/-! ## Reading the URLs -/

theorem pathOrEnd_urlPath (url : String) :
    PathOrEnd (urlPath url).toList := by
  have hfrom : ∀ cs tail : List Char, fromFirst ['/'] cs = some tail →
      tail.head? = some '/' := by
    intro cs
    induction cs with
    | nil => exact fun _ h => nomatch h
    | cons c cs ih =>
        intro tail h
        unfold fromFirst at h
        split at h
        · next hslash =>
            cases h
            simp only [List.isPrefixOf, Bool.and_true, beq_iff_eq] at hslash
            rw [← hslash]
            rfl
        · exact ih tail h
  unfold urlPath
  dsimp only
  cases hrest : (((stripPrefix "https://".toList url.toList).or
      (stripPrefix "http://".toList url.toList)).bind (fromFirst ['/']))
    with
  | none => exact .inr (by decide)
  | some tail =>
      obtain ⟨rest, _, htail⟩ := Option.bind_eq_some_iff.mp hrest
      refine .inr ?_
      rw [Option.map_some, Option.getD_some, String.toList_ofList]
      exact hfrom rest tail htail

theorem urlHost_customDomain {domain : String} (h : IsHostname domain)
    (url : String) :
    urlHost ("https://" ++ domain ++ urlPath url) = some domain := by
  have htext : "https://" ++ domain ++ urlPath url =
      String.ofList ("https".toList ++
        ("://".toList ++ (domain.toList ++ (urlPath url).toList))) := by
    rw [← String.toList_inj, String.toList_ofList, String.toList_append,
      String.toList_append, List.append_assoc]
    rfl
  rw [htext, urlHost_eq (.inr rfl) h.isHostChar (pathOrEnd_urlPath url),
    if_neg h.not_isEmpty, String.ofList_toList]

/-- A text that begins with no white space begins as its trimmed self. -/
theorem trimMatches_isPrefix {p : Char → Bool} {c : Char} {cs : List Char}
    (hc : p c = false) : trimMatches p (c :: cs) <+: c :: cs := by
  have hfront : (c :: cs).dropWhile p = c :: cs := by
    rw [List.dropWhile_cons, hc]
    rfl
  unfold trimMatches
  rw [hfront, ← List.reverse_suffix, List.reverse_reverse]
  exact List.dropWhile_suffix p

/-- A web URL that begins with no white space begins with its scheme. -/
theorem stripPrefix_of_trimmed {url : String} {c : Char} {cs : List Char}
    (hurl : url.toList = c :: cs) (hc : isWhitespace c = false)
    (hscheme : hasHttpScheme (trim url) = true) :
    (∃ rest, stripPrefix "https://".toList url.toList = some rest) ∨
      ∃ rest, stripPrefix "http://".toList url.toList = some rest := by
  have htrimmed : (trim url).toList <+: url.toList := by
    unfold trim
    rw [String.toList_ofList, hurl]
    exact trimMatches_isPrefix hc
  unfold hasHttpScheme at hscheme
  rw [Bool.or_eq_true, List.isPrefixOf_iff_prefix,
    List.isPrefixOf_iff_prefix] at hscheme
  rcases hscheme with hpre | hpre
  · obtain ⟨rest, hrest⟩ := hpre.trans htrimmed
    rw [← hrest]
    exact .inl ⟨rest, stripPrefix_append _ rest⟩
  · obtain ⟨rest, hrest⟩ := hpre.trans htrimmed
    rw [← hrest]
    exact .inr ⟨rest, stripPrefix_append _ rest⟩

/-- The external URL has a scheme where `host_of` cuts out a hostname or
nothing: without one the host would begin with the white space before it. -/
theorem scheme_of_hostOf {url host : String}
    (hscheme : hasHttpScheme (trim url) = true)
    (hhost : host = "" ∨ IsHostname host)
    (h : (hostOf url).getD "" = host) :
    ∃ scheme rest, (scheme = "http".toList ∨ scheme = "https".toList) ∧
      url.toList = scheme ++ ("://".toList ++ rest) ∧
      host.toList = rest.takeWhile (· ≠ '/') := by
  have hcut : host.toList =
      (((stripPrefix "https://".toList url.toList).or
        (stripPrefix "http://".toList url.toList)).getD
          url.toList).takeWhile (· ≠ '/') := by
    rw [← h]
    unfold hostOf
    dsimp only
    split
    · next hempty => exact (List.isEmpty_iff.mp hempty).symm
    · rw [Option.getD_some, String.toList_ofList]
  cases hs : stripPrefix "https://".toList url.toList with
  | some rest =>
      rw [hs, Option.some_or, Option.getD_some] at hcut
      exact ⟨"https".toList, rest, .inr rfl,
        (eq_append_of_stripPrefix hs).trans rfl, hcut⟩
  | none =>
      cases hp : stripPrefix "http://".toList url.toList with
      | some rest =>
          rw [hs, hp, Option.none_or, Option.getD_some] at hcut
          exact ⟨"http".toList, rest, .inl rfl,
            (eq_append_of_stripPrefix hp).trans rfl, hcut⟩
      | none =>
          exfalso
          rw [hs, hp, Option.none_or, Option.getD_none] at hcut
          cases hurl : url.toList with
          | nil =>
              have hblank : url = "" := String.toList_eq_nil_iff.mp hurl
              rw [hblank] at hscheme
              exact absurd hscheme (by decide)
          | cons c cs =>
              have hc : isWhitespace c = false := by
                rw [hurl, List.takeWhile_cons] at hcut
                split at hcut
                · rcases hhost with rfl | hhost
                  · cases hcut
                  · refine not_isWhitespace_of_isHostChar
                      (hhost.isHostChar c ?_)
                    rw [hcut]
                    exact List.mem_cons_self
                · next hslash =>
                    have hc : c = '/' := by simpa using hslash
                    rw [hc]
                    decide
              rcases stripPrefix_of_trimmed hurl hc hscheme with
                ⟨rest, hrest⟩ | ⟨rest, hrest⟩
              · rw [hs] at hrest
                cases hrest
              · rw [hp] at hrest
                cases hrest

theorem pathOrEnd_dropWhile (cs : List Char) :
    PathOrEnd (cs.dropWhile (· ≠ '/')) := by
  induction cs with
  | nil => exact .inl rfl
  | cons c cs ih =>
      by_cases hc : c = '/'
      · subst hc
        exact .inr rfl
      · rw [List.dropWhile_cons, if_pos (decide_eq_true hc)]
        exact ih

/-- Where `host_of` cuts out a hostname, it is the host of the URL. -/
theorem urlHost_of_hostOf {url host : String} (h : hostOf url = some host)
    (hhost : IsHostname host) (hscheme : hasHttpScheme (trim url) = true) :
    urlHost url = some host := by
  obtain ⟨scheme, rest, hweb, hurl, hcut⟩ :=
    scheme_of_hostOf hscheme (.inr hhost) (by rw [h]; rfl)
  have htext : url = String.ofList (scheme ++ ("://".toList ++
      (host.toList ++ rest.dropWhile (· ≠ '/')))) := by
    rw [hcut, List.takeWhile_append_dropWhile, ← hurl, String.ofList_toList]
  rw [htext, urlHost_eq hweb hhost.isHostChar (pathOrEnd_dropWhile rest),
    if_neg hhost.not_isEmpty, String.ofList_toList]

/-- Where `host_of` cuts out nothing, the URL has no host. -/
theorem urlHost_of_hostOf_none {url : String} (h : hostOf url = none)
    (hscheme : hasHttpScheme (trim url) = true) : urlHost url = none := by
  have hnone : (hostOf url).getD "" = "" := by
    rw [h]
    rfl
  obtain ⟨scheme, rest, hweb, hurl, hcut⟩ :=
    scheme_of_hostOf hscheme (.inl rfl) hnone
  have htext : url = String.ofList (scheme ++ ("://".toList ++
      ([] ++ rest.dropWhile (· ≠ '/')))) := by
    have hrest := List.takeWhile_append_dropWhile (p := (· ≠ '/')) (l := rest)
    rw [← hcut] at hrest
    rw [show ([] : List Char) = "".toList from rfl, hrest, ← hurl,
      String.ofList_toList]
  rw [htext, urlHost_eq hweb (by simp) (pathOrEnd_dropWhile rest)]
  rfl

/-! ## What is advertised and what is routed -/

/-- The URLs of an identity. -/
def Identity.urls (i : Identity) : List String :=
  (i.resource.bind Json.asStr).toList ++
    ((i.additionalResources.bind Json.asArray).getD []).filterMap
      Json.asStr ++
    (i.canonicalUrl.bind Json.asStr).toList

section Hosts

variable (libs : RenderLibs) (cfg : OperatorConfig) (obj : MCPGGateway)

/-- The host of every URL a rendered config advertises is a hostname of the
HTTPRoute, and each of those is a valid one. -/
def AdvertisedHostsRouted : Prop :=
  (∀ ns inputs, ∀ url ∈ (identity (renderConfig libs cfg obj ns inputs)).urls,
    ∃ host ∈ routeHostnames obj, urlHost url = some host) ∧
  ∀ host ∈ routeHostnames obj, IsHostname host

/-- The URL names the host of the external URL or a custom domain. -/
def NamesServedHost (cloud : GatewayCloud) (url : String) : Prop :=
  ∃ host, urlHost url = some host ∧
    (hostOf cloud.externalUrl = some host ∨ host ∈ cloud.customDomains)

/-- The text between the scheme of the external URL and its first slash is
a hostname; without a canonical URL it has to be there, and with one the
canonical URL names a served host. A canonical URL of the tenant's that is
rendered as it is names one, too. -/
def HostsAgree (cloud : GatewayCloud) : Prop :=
  (∀ host, hostOf cloud.externalUrl = some host → IsHostname host) ∧
  (match cloud.canonical with
    | none => (hostOf cloud.externalUrl).isSome = true
    | some url => NamesServedHost cloud url) ∧
  (stampsCanonicalUrl libs.semver cfg obj cloud = false →
    ∀ url, obj.spec.config.getPath canonicalUrlPath = some (.str url) →
      NamesServedHost cloud url)

variable {libs cfg obj} {cloud : GatewayCloud}

theorem mem_routeHostnames (hcloud : obj.spec.cloud = some cloud)
    {host : String} :
    host ∈ routeHostnames obj ↔
      hostOf cloud.externalUrl = some host ∨
        host ∈ cloud.customDomains := by
  unfold routeHostnames
  rw [hcloud]
  dsimp only
  rw [List.mem_append, Option.mem_toList]

theorem namesServedHost_iff (hcloud : obj.spec.cloud = some cloud)
    {url : String} :
    NamesServedHost cloud url ↔
      ∃ host ∈ routeHostnames obj, urlHost url = some host := by
  constructor
  · rintro ⟨host, hurl, hserved⟩
    exact ⟨host, (mem_routeHostnames hcloud).mpr hserved, hurl⟩
  · rintro ⟨host, hserved, hurl⟩
    exact ⟨host, hurl, (mem_routeHostnames hcloud).mp hserved⟩

theorem asStr_eq_some {v : Json} {s : String} :
    v.asStr = some s ↔ v = .str s := by
  cases v <;> simp [Json.asStr]

/-- The URLs of the rendered identity: the platform's, one for each custom
domain of a gateway that advertises them, and the canonical one. -/
theorem mem_urls_renderedIdentity (semver : SemverLib) {url : String} :
    url ∈ (renderedIdentity semver cfg obj cloud).urls ↔
      url = advertisedUrl cloud ∨
        .str url ∈ advertisedAdditional semver cfg obj cloud ∨
        (stampsCanonicalUrl semver cfg obj cloud = false ∧
          obj.spec.config.getPath canonicalUrlPath = some (.str url)) := by
  have hadditional : ∀ additional : List Json,
      url ∈ (((if additional.isEmpty then none else some (.arr additional) :
        Option Json).bind Json.asArray).getD []).filterMap Json.asStr ↔
      .str url ∈ additional := by
    intro additional
    rw [List.mem_filterMap]
    cases additional with
    | nil => simp
    | cons a rest => simp [Json.asArray, asStr_eq_some]
  unfold Identity.urls renderedIdentity
  rw [List.mem_append, List.mem_append, hadditional]
  by_cases hstamps : stampsCanonicalUrl semver cfg obj cloud = true
  · simp [hstamps, Json.asStr, or_comm]
  · have hown : url ∈ ((obj.spec.config.getPath canonicalUrlPath).bind
        Json.asStr).toList ↔
        obj.spec.config.getPath canonicalUrlPath = some (.str url) := by
      rw [Option.mem_toList, Option.bind_eq_some_iff]
      constructor
      · rintro ⟨v, hv, hstr⟩
        rw [hv, asStr_eq_some.mp hstr]
      · exact fun hv => ⟨_, hv, rfl⟩
    rw [if_neg hstamps, hown]
    simp [hstamps, Json.asStr, or_assoc]

/-- The custom domains are checked, so what is advertised for them is
routed. -/
theorem additional_routed (hcloud : obj.spec.cloud = some cloud)
    (hdomains : ∀ domain ∈ cloud.customDomains, IsHostname domain)
    (semver : SemverLib) {url : String}
    (h : .str url ∈ advertisedAdditional semver cfg obj cloud) :
    ∃ host ∈ routeHostnames obj, urlHost url = some host := by
  unfold advertisedAdditional additionalResources alsoServing at h
  split at h
  · split at h
    · cases h
    · obtain ⟨domain, hdomain, heq⟩ := List.mem_map.mp h
      cases heq
      exact ⟨domain, (mem_routeHostnames hcloud).mpr (.inr hdomain),
        urlHost_customDomain (hdomains domain hdomain) _⟩
  · cases h

theorem urls_renderConfig (hvalid : validateCloud cloud = .ok ())
    (hcloud : obj.spec.cloud = some cloud) (ns : String)
    (inputs : RenderInputs) :
    (identity (renderConfig libs cfg obj ns inputs)).urls =
      (renderedIdentity libs.semver cfg obj cloud).urls :=
  congrArg Identity.urls (identity_renderConfig hcloud
    (externalUrl_ne_empty_of_validateCloud hvalid) ns inputs)

theorem advertisedHostsRouted_of_hostsAgree
    (hvalid : validateCloud cloud = .ok ())
    (hcloud : obj.spec.cloud = some cloud)
    (h : HostsAgree libs cfg obj cloud) :
    AdvertisedHostsRouted libs cfg obj := by
  obtain ⟨hdomains, hscheme⟩ := of_validateCloud hvalid
  obtain ⟨hexternal, hadvertised, htenant⟩ := h
  constructor
  · intro ns inputs url hurl
    rw [urls_renderConfig hvalid hcloud, mem_urls_renderedIdentity] at hurl
    rcases hurl with rfl | hadditional | ⟨hstamps, hconfig⟩
    · unfold advertisedUrl
      cases hcanonical : cloud.canonical with
      | none =>
          rw [hcanonical] at hadvertised
          obtain ⟨host, hhost⟩ := Option.isSome_iff_exists.mp hadvertised
          exact ⟨host, (mem_routeHostnames hcloud).mpr (.inl hhost),
            urlHost_of_hostOf hhost (hexternal host hhost) hscheme⟩
      | some url =>
          rw [hcanonical] at hadvertised
          exact (namesServedHost_iff hcloud).mp hadvertised
    · exact additional_routed hcloud hdomains libs.semver hadditional
    · exact (namesServedHost_iff hcloud).mp (htenant hstamps url hconfig)
  · intro host hhost
    rcases (mem_routeHostnames hcloud).mp hhost with hhost | hhost
    · exact hexternal host hhost
    · exact hdomains host hhost

/-- What a pass that read nothing renders from. -/
def nothingRead : RenderInputs :=
  { view := none, revocationList := false, clusterBlock := none
    routes := .ok [], servers := .ok [] }

theorem hostsAgree_of_advertisedHostsRouted
    (hvalid : validateCloud cloud = .ok ())
    (hcloud : obj.spec.cloud = some cloud)
    (h : AdvertisedHostsRouted libs cfg obj) :
    HostsAgree libs cfg obj cloud := by
  obtain ⟨hrouted, hhostnames⟩ := h
  have hexternal : ∀ host, hostOf cloud.externalUrl = some host →
      IsHostname host := fun host hhost =>
    hhostnames host ((mem_routeHostnames hcloud).mpr (.inl hhost))
  have hurl : ∀ url, url ∈ (renderedIdentity libs.semver cfg obj cloud).urls →
      ∃ host ∈ routeHostnames obj, urlHost url = some host := by
    intro url hmem
    rw [← urls_renderConfig hvalid hcloud "" nothingRead] at hmem
    exact hrouted "" nothingRead url hmem
  have hadvertised := hurl (advertisedUrl cloud)
    ((mem_urls_renderedIdentity _).mpr (.inl rfl))
  refine ⟨hexternal, ?_, fun hstamps url hconfig => ?_⟩
  · unfold advertisedUrl at hadvertised
    cases hcanonical : cloud.canonical with
    | none =>
        rw [hcanonical] at hadvertised
        obtain ⟨host, _, hhost⟩ := hadvertised
        dsimp only
        by_contra hnone
        rw [Option.not_isSome_iff_eq_none] at hnone
        have hurl := urlHost_of_hostOf_none hnone
          (of_validateCloud hvalid).2
        rw [Option.getD_none, hurl] at hhost
        cases hhost
    | some url =>
        rw [hcanonical] at hadvertised
        exact (namesServedHost_iff hcloud).mpr hadvertised
  · exact (namesServedHost_iff hcloud).mpr (hurl url
      ((mem_urls_renderedIdentity _).mpr (.inr (.inr ⟨hstamps, hconfig⟩))))

/-- What an admitted managed gateway advertises is routed, under hostnames
that are valid, exactly when its URLs agree. -/
theorem advertisedHostsRouted_iff (hvalid : validateGateway obj = .ok ())
    (hcloud : obj.spec.cloud = some cloud) :
    AdvertisedHostsRouted libs cfg obj ↔ HostsAgree libs cfg obj cloud := by
  have hcloudValid := validateCloud_of_validateGateway hvalid hcloud
  exact ⟨hostsAgree_of_advertisedHostsRouted hcloudValid hcloud,
    advertisedHostsRouted_of_hostsAgree hcloudValid hcloud⟩

end Hosts

namespace Sample

/-- The external URL names a port. -/
def withPort : MCPGGateway :=
  { managed with
    spec :=
      { managed.spec with
        cloud := some
          { cloud with
            externalUrl := "https://acme-1.mcpg.example:8443/mcp" } } }

end Sample

theorem advertisedHostsRouted_managed :
    AdvertisedHostsRouted Sample.libs.render Sample.cfg Sample.managed := by
  have hhost : hostOf Sample.cloud.externalUrl =
      some "acme-1.mcpg.example" := by decide +kernel
  refine (advertisedHostsRouted_iff (by decide +kernel) rfl).mpr
    ⟨fun host h => ?_, ?_, fun _ _ h => nomatch h⟩
  · rw [hhost] at h
    cases h
    decide +kernel
  · exact (congrArg Option.isSome hhost).trans rfl

/-- A port in the external URL is admitted, and is part of the hostname the
HTTPRoute is given. -/
theorem not_advertisedHostsRouted_withPort :
    Sample.admitted Sample.withPort ∧
      ¬ AdvertisedHostsRouted Sample.libs.render Sample.cfg
        Sample.withPort := by
  refine ⟨by decide +kernel, fun h => ?_⟩
  have hrouted : "acme-1.mcpg.example:8443" ∈
      routeHostnames Sample.withPort := by decide +kernel
  have hinvalid : ¬ IsHostname "acme-1.mcpg.example:8443" := by
    decide +kernel
  exact hinvalid (h.2 _ hrouted)

end McpgOperator.Gateway
