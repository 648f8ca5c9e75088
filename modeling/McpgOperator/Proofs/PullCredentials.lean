import McpgOperator.Plugin.PullAuth

/-!
# Whose credentials a pull carries

The keys of a docker configuration are registries, with or without a path. The
lookup takes the key that is the registry, and otherwise the first one that
begins with its text, which is not the same as the first one that names it:
`registry.example.com:5000` and `registry.example.com.evil.org` begin with
`registry.example.com` too. As the map is in key order, the two steps together
find the least key that begins with the registry; whether what it holds may be
handed out is decided by the character that follows.

A reference to `localhost` names a host, yet it is looked up under the default
registry, and an entry of its own is passed over.
-/

namespace McpgOperator.Plugin

open McpgOperator.Kube McpgOperator.Text

/-! ## What a reference and a key name -/

def defaultRegistry : String := "index.docker.io"

/-- The host and port a reference names: what precedes its first `/`, when
that has a `.` or a `:` in it or is `localhost`. -/
def registryHost (reference : String) : String :=
  match splitOnce '/' reference.toList with
  | some (host, _) =>
      if host.contains '.' || host.contains ':' ||
          host == "localhost".toList then
        String.ofList host
      else defaultRegistry
  | none => defaultRegistry

/-- The key is the host, or a path below it. -/
def NamesHost (host key : String) : Prop :=
  key = host ∨ ∃ path, key.toList = host.toList ++ '/' :: path

instance (host key : String) : Decidable (NamesHost host key) :=
  decidable_of_iff (key = host ∨ host.toList ++ ['/'] <+: key.toList) (by
    refine or_congr Iff.rfl ⟨fun h => ?_, fun h => ?_⟩
    · obtain ⟨path, hpath⟩ := h
      exact ⟨path, by simpa using hpath.symm⟩
    · obtain ⟨path, hpath⟩ := h
      exact ⟨path, by simpa using hpath.symm⟩)

theorem prefix_of_namesHost {host key : String} (h : NamesHost host key) :
    host.toList <+: key.toList := by
  rcases h with rfl | ⟨path, hpath⟩
  · exact List.prefix_refl _
  · exact ⟨_, hpath.symm⟩

/-- A host is the text of its keys up to their first `/`. -/
theorem takeWhile_of_namesHost {host key : String}
    (hfree : '/' ∉ host.toList) (h : NamesHost host key) :
    key.toList.takeWhile (· ≠ '/') = host.toList := by
  have hhost : ∀ c ∈ host.toList, decide (c ≠ '/') = true := by
    intro c hc
    refine decide_eq_true fun heq => hfree ?_
    rw [← heq]
    exact hc
  rcases h with rfl | ⟨path, hpath⟩
  · exact List.takeWhile_eq_self_iff.mpr hhost
  · rw [hpath, List.takeWhile_append_of_pos hhost,
      List.takeWhile_cons_of_neg (by simp), List.append_nil]

/-- A key names one host at most. -/
theorem eq_of_namesHost {host other key : String}
    (hhost : '/' ∉ host.toList) (hother : '/' ∉ other.toList)
    (h : NamesHost host key) (h' : NamesHost other key) : host = other :=
  String.toList_inj.mp ((takeWhile_of_namesHost hhost h).symm.trans
    (takeWhile_of_namesHost hother h'))

theorem registryHost_free (reference : String) :
    '/' ∉ (registryHost reference).toList := by
  unfold registryHost
  cases hsplit : splitOnce '/' reference.toList with
  | none => decide
  | some parts =>
      obtain ⟨host, path⟩ := parts
      dsimp only
      split
      · rw [String.toList_ofList]
        exact (splitOnce_some hsplit).2
      · decide

/-- The registry that is looked up is the reference's host, or the reference
is to `localhost` and the default is. -/
theorem registry_cases (reference : String) :
    registryFromReference reference = registryHost reference ∨
      registryFromReference reference = defaultRegistry ∧
        registryHost reference = "localhost" := by
  unfold registryFromReference registryHost
  cases splitOnce '/' reference.toList with
  | none => exact .inl rfl
  | some parts =>
      obtain ⟨host, path⟩ := parts
      dsimp only
      by_cases hdot : (host.contains '.' || host.contains ':') = true
      · rw [if_pos hdot, hdot, Bool.true_or, if_pos rfl]
        exact .inl rfl
      · rw [if_neg hdot, Bool.eq_false_iff.mpr hdot, Bool.false_or]
        by_cases hlocal : host = "localhost".toList
        · subst hlocal
          exact .inr ⟨rfl, by decide⟩
        · rw [if_neg (by simpa using hlocal)]
          exact .inl rfl

/-! ## The entry that is taken -/

theorem le_of_front {a b : String} (h : a.toList <+: b.toList) : a ≤ b :=
  not_lt.mp fun hlt => h.le (String.lt_iff.mp hlt)

/-- The key is the least that begins with this registry. -/
def IsFirst (config : DockerConfigJson) (registry : String)
    (entry : String × DockerConfigAuth) : Prop :=
  entry ∈ config.auths ∧ registry.toList <+: entry.1.toList ∧
    ∀ other ∈ config.auths, registry.toList <+: other.1.toList →
      entry.1 ≤ other.1

theorem selectEntry_spec {config : DockerConfigJson}
    {registry key : String} {entry : DockerConfigAuth}
    (h : selectEntry config registry = some (key, entry)) :
    IsFirst config registry (key, entry) := by
  unfold selectEntry at h
  cases hexact : config.auths.lookup registry with
  | some e =>
      rw [hexact] at h
      cases h
      exact ⟨SortedMap.mem_of_lookup hexact, List.prefix_refl _,
        fun other _ hother => le_of_front hother⟩
  | none =>
      rw [hexact] at h
      have hpre := List.find?_some h
      refine ⟨List.mem_of_find?_eq_some h,
        List.isPrefixOf_iff_prefix.mp hpre, ?_⟩
      intro other hmem hother
      exact SortedMap.find?_le config.ordered h hmem
        (List.isPrefixOf_iff_prefix.mpr hother)

theorem not_prefix_of_selectEntry {config : DockerConfigJson}
    {registry : String} (h : selectEntry config registry = none) :
    ∀ e ∈ config.auths, ¬ registry.toList <+: e.1.toList := by
  unfold selectEntry at h
  cases hexact : config.auths.lookup registry with
  | some e =>
      rw [hexact] at h
      cases h
  | none =>
      rw [hexact] at h
      intro e hmem hpre
      exact List.find?_eq_none.mp h e hmem
        (List.isPrefixOf_iff_prefix.mpr hpre)

/-- Exact and prefix lookup together find the first entry of the registry. -/
theorem selectEntry_eq_some {config : DockerConfigJson}
    {registry key : String} {entry : DockerConfigAuth} :
    selectEntry config registry = some (key, entry) ↔
      IsFirst config registry (key, entry) := by
  refine ⟨selectEntry_spec, fun h => ?_⟩
  obtain ⟨hmem, hpre, hleast⟩ := h
  cases hselect : selectEntry config registry with
  | none => exact absurd hpre (not_prefix_of_selectEntry hselect _ hmem)
  | some taken =>
      obtain ⟨key', entry'⟩ := taken
      obtain ⟨hmem', hpre', hleast'⟩ := selectEntry_spec hselect
      have hkey : key' = key :=
        le_antisymm (hleast' _ hmem hpre) (hleast _ hmem' hpre')
      subst hkey
      rw [SortedMap.eq_of_mem config.ordered hmem' hmem]

/-! ## The credentials of an entry -/

/-- The entry holds a user and a password: in its token, or beside a blank
one. -/
def HasCredentials (lib : DockerConfigLib) (entry : DockerConfigAuth) :
    Prop :=
  match entry.token with
  | some token => ∃ raw decoded, lib.base64Decode (trim token) = .ok raw ∧
      lib.fromUtf8 raw = .ok decoded ∧ ':' ∈ decoded.toList
  | none => entry.username.isSome = true ∧ entry.password.isSome = true

theorem hasCredentials_iff {lib : DockerConfigLib}
    {secretName registry : String} {entry : DockerConfigAuth} :
    HasCredentials lib entry ↔ ∃ username password,
      entryCredentials lib secretName registry entry =
        .ok (.basic username password) := by
  unfold HasCredentials entryCredentials
  cases entry.token with
  | none =>
      dsimp only
      cases entry.username with
      | none => simp
      | some user =>
          cases entry.password with
          | none => simp
          | some pass => simp
  | some token =>
      dsimp only
      cases lib.base64Decode (trim token) with
      | error e => simp
      | ok raw =>
          dsimp only
          cases hutf8 : lib.fromUtf8 raw with
          | error e => simp [hutf8]
          | ok decoded =>
              dsimp only
              cases hsplit : splitOnce ':' decoded.toList with
              | none =>
                  have hfree := splitOnce_eq_none.mp hsplit
                  simp [hutf8, hfree]
              | some parts =>
                  have hmem : ':' ∈ decoded.toList := by
                    rw [(splitOnce_some hsplit).1]
                    exact List.mem_append_right _ List.mem_cons_self
                  simp [hutf8, hmem]

/-- The entry holds neither: without a token it lacks the user or the
password. -/
def HoldsNothing (entry : DockerConfigAuth) : Prop :=
  entry.token = none ∧
    ¬ (entry.username.isSome = true ∧ entry.password.isSome = true)

theorem holdsNothing_iff {lib : DockerConfigLib}
    {secretName registry : String} {entry : DockerConfigAuth} :
    HoldsNothing entry ↔
      entryCredentials lib secretName registry entry = .ok .anonymous := by
  unfold HoldsNothing entryCredentials
  cases entry.token with
  | none =>
      dsimp only
      cases entry.username with
      | none => simp
      | some user =>
          cases entry.password with
          | none => simp
          | some pass => simp
  | some token =>
      dsimp only
      cases lib.base64Decode (trim token) with
      | error e => simp
      | ok raw =>
          dsimp only
          cases lib.fromUtf8 raw with
          | error e => simp
          | ok decoded =>
              dsimp only
              cases splitOnce ':' decoded.toList with
              | none => simp
              | some parts => simp

/-- What the text of a refused entry says between its first word and the
registry. -/
theorem error_front {lib : DockerConfigLib} {secretName registry : String}
    {entry : DockerConfigAuth} {error : PullError}
    (h : entryCredentials lib secretName registry entry = .error error) :
    ∃ front rest, error = .malformedDockerConfig secretName
        (front ++ (registry ++ rest)) ∧
      (front = "base64 decode `auths." ∨ front = "`auths.") := by
  unfold entryCredentials at h
  split at h
  · split at h
    · next e _ =>
      cases h
      exact ⟨_, ".auth`: " ++ e, by simp only [String.append_assoc], .inl rfl⟩
    · split at h
      · next e _ =>
        cases h
        exact ⟨_, ".auth` not utf-8: " ++ e,
          by simp only [String.append_assoc], .inr rfl⟩
      · split at h
        · cases h
          exact ⟨_, ".auth` is not `user:pass`",
            by simp only [String.append_assoc], .inr rfl⟩
        · cases h
  · split at h
    · cases h
    · cases h

/-- A refusal names the registry that was looked up. -/
theorem error_ne_of_localhost {lib : DockerConfigLib} {secretName : String}
    {entry own : DockerConfigAuth} {error : PullError}
    (h : entryCredentials lib secretName defaultRegistry entry =
      .error error) :
    entryCredentials lib secretName "localhost" own ≠ .error error := by
  intro hown
  obtain ⟨front, rest, rfl, hfront⟩ := error_front h
  obtain ⟨front', rest', heq, hfront'⟩ := error_front hown
  have htext := congrArg String.toList (PullError.malformedDockerConfig.inj heq).2
  rcases hfront with rfl | rfl <;> rcases hfront' with rfl | rfl
  all_goals
    rw [String.toList_append, String.toList_append, String.toList_append,
      String.toList_append] at htext
    exact absurd htext (by simp [defaultRegistry])

/-! ## Credentials and hosts -/

/-- Credentials for the reference come from an entry of its host, and from the
default registry's only for the default registry. An entry whose key is the
host decides what is returned, whatever it holds. -/
structure Scoped (lib : DockerConfigLib)
    (getSecret : String → Except KubeError Secret) (secretName : String)
    (config : DockerConfigJson) (reference : String) : Prop where
  named : ∀ username password,
    resolvePullAuth lib getSecret secretName
        (registryFromReference reference) = .ok (.basic username password) →
      ∃ key entry,
        selectEntry config (registryFromReference reference) =
            some (key, entry) ∧
          entryCredentials lib secretName (registryFromReference reference)
              entry = .ok (.basic username password) ∧
          NamesHost (registryHost reference) key ∧
          (registryHost reference ≠ defaultRegistry →
            ¬ NamesHost defaultRegistry key)
  own : ∀ own, (registryHost reference, own) ∈ config.auths →
    resolvePullAuth lib getSecret secretName
        (registryFromReference reference) =
      entryCredentials lib secretName (registryHost reference) own

/-- The first entry whose key begins with the registry looked up names the
reference's host, or holds no credentials. A host that is looked up as another
has no entry of its own, or none of the two holds anything. -/
structure Guarded (lib : DockerConfigLib) (config : DockerConfigJson)
    (reference : String) : Prop where
  first : ∀ key entry,
    IsFirst config (registryFromReference reference) (key, entry) →
    ¬ NamesHost (registryHost reference) key → ¬ HasCredentials lib entry
  own : registryFromReference reference ≠ registryHost reference →
    ∀ own, (registryHost reference, own) ∈ config.auths →
      HoldsNothing own ∧ ∀ key entry,
        IsFirst config (registryFromReference reference) (key, entry) →
          HoldsNothing entry

variable {lib : DockerConfigLib} {secretName : String}
  {getSecret : String → Except KubeError Secret} {config : DockerConfigJson}

theorem resolvePullAuth_basic {registry username password : String}
    (hconfig : readDockerConfig lib getSecret secretName = .ok config) :
    resolvePullAuth lib getSecret secretName registry =
        .ok (.basic username password) ↔
      ∃ key entry, selectEntry config registry = some (key, entry) ∧
        entryCredentials lib secretName registry entry =
          .ok (.basic username password) := by
  unfold resolvePullAuth
  rw [hconfig]
  dsimp only
  cases selectEntry config registry with
  | none => simp
  | some taken =>
      obtain ⟨key, entry⟩ := taken
      simp

theorem resolvePullAuth_of_select {registry : String}
    (hconfig : readDockerConfig lib getSecret secretName = .ok config) :
    resolvePullAuth lib getSecret secretName registry =
      (selectEntry config registry).elim (.ok .anonymous) fun taken =>
        entryCredentials lib secretName registry taken.2 := by
  unfold resolvePullAuth
  rw [hconfig]
  dsimp only
  cases selectEntry config registry with
  | none => rfl
  | some taken => rfl

/-- Under the host's own name its own entry is found. -/
theorem resolvePullAuth_own {registry : String} {own : DockerConfigAuth}
    (hconfig : readDockerConfig lib getSecret secretName = .ok config)
    (hown : (registry, own) ∈ config.auths) :
    resolvePullAuth lib getSecret secretName registry =
      entryCredentials lib secretName registry own := by
  have hselect : selectEntry config registry = some (registry, own) :=
    selectEntry_eq_some.mpr ⟨hown, List.prefix_refl _,
      fun _ _ hpre => le_of_front hpre⟩
  rw [resolvePullAuth_of_select hconfig, hselect, Option.elim_some]

theorem named_of_first {reference username password : String}
    (hconfig : readDockerConfig lib getSecret secretName = .ok config)
    (hfirst : ∀ key entry,
      IsFirst config (registryFromReference reference) (key, entry) →
      ¬ NamesHost (registryHost reference) key → ¬ HasCredentials lib entry)
    (hresolved : resolvePullAuth lib getSecret secretName
      (registryFromReference reference) = .ok (.basic username password)) :
    ∃ key entry,
      selectEntry config (registryFromReference reference) =
          some (key, entry) ∧
        entryCredentials lib secretName (registryFromReference reference)
            entry = .ok (.basic username password) ∧
        NamesHost (registryHost reference) key ∧
        (registryHost reference ≠ defaultRegistry →
          ¬ NamesHost defaultRegistry key) := by
  obtain ⟨key, entry, hselect, hbasic⟩ :=
    (resolvePullAuth_basic hconfig).mp hresolved
  have hnames : NamesHost (registryHost reference) key := by
    by_contra hnot
    exact hfirst key entry (selectEntry_spec hselect) hnot
      (hasCredentials_iff.mpr ⟨username, password, hbasic⟩)
  refine ⟨key, entry, hselect, hbasic, hnames, fun hother hdefault => ?_⟩
  exact hother (eq_of_namesHost (registryHost_free reference) (by decide)
    hnames hdefault)

/-- No key begins with the default registry and names `localhost`. -/
theorem not_namesHost_localhost {key : String}
    (hpre : defaultRegistry.toList <+: key.toList) :
    ¬ NamesHost "localhost" key := by
  intro hnames
  rcases List.prefix_or_prefix_of_prefix hpre
    (prefix_of_namesHost hnames) with h | h
  · exact absurd h (by decide)
  · exact absurd h (by decide)

/-- A reference to `localhost` is answered as its own entry would be only
when there is nothing to answer with. -/
theorem holdsNothing_of_own {own : DockerConfigAuth}
    (hfirst : ∀ key entry, IsFirst config defaultRegistry (key, entry) →
      ¬ HasCredentials lib entry)
    (h : (selectEntry config defaultRegistry).elim (.ok .anonymous)
        (fun taken =>
          entryCredentials lib secretName defaultRegistry taken.2) =
      entryCredentials lib secretName "localhost" own) :
    HoldsNothing own ∧ ∀ key entry,
      IsFirst config defaultRegistry (key, entry) → HoldsNothing entry := by
  cases hselect : selectEntry config defaultRegistry with
  | none =>
      rw [hselect, Option.elim_none] at h
      refine ⟨holdsNothing_iff.mpr h.symm, fun key entry his => ?_⟩
      rw [selectEntry_eq_some.mpr his] at hselect
      cases hselect
  | some taken =>
      obtain ⟨key, entry⟩ := taken
      rw [hselect, Option.elim_some] at h
      have hnone := hfirst key entry (selectEntry_spec hselect)
      have hanonymous : entryCredentials lib secretName defaultRegistry
          entry = .ok .anonymous := by
        cases hentry : entryCredentials lib secretName defaultRegistry
            entry with
        | error e =>
            exact absurd (h.symm.trans hentry)
              (error_ne_of_localhost hentry)
        | ok auth =>
            cases auth with
            | anonymous => rfl
            | basic username password =>
                exact absurd
                  (hasCredentials_iff.mpr ⟨username, password, hentry⟩) hnone
      refine ⟨holdsNothing_iff.mpr (h.symm.trans hanonymous), ?_⟩
      intro key' entry' his
      rw [selectEntry_eq_some.mpr his] at hselect
      cases hselect
      exact holdsNothing_iff.mpr hanonymous

theorem scoped_iff (reference : String)
    (hconfig : readDockerConfig lib getSecret secretName = .ok config) :
    Scoped lib getSecret secretName config reference ↔
      Guarded lib config reference := by
  constructor
  · intro h
    have hfirst : ∀ key entry,
        IsFirst config (registryFromReference reference) (key, entry) →
        ¬ NamesHost (registryHost reference) key →
          ¬ HasCredentials lib entry := by
      intro key entry his hnames hcred
      have hselect := selectEntry_eq_some.mpr his
      obtain ⟨username, password, hbasic⟩ := hasCredentials_iff.mp hcred
      obtain ⟨key', entry', hselect', -, hnames', -⟩ := h.named username
        password
        ((resolvePullAuth_basic hconfig).mpr ⟨key, entry, hselect, hbasic⟩)
      rw [hselect] at hselect'
      cases hselect'
      exact hnames hnames'
    refine ⟨hfirst, fun hother own hown => ?_⟩
    obtain ⟨hdefault, hlocal⟩ :=
      (registry_cases reference).resolve_left hother
    have hsame := h.own own hown
    rw [resolvePullAuth_of_select hconfig, hdefault, hlocal] at hsame
    rw [hdefault, hlocal] at hfirst
    rw [hdefault]
    exact holdsNothing_of_own (fun key entry his => hfirst key entry his
      (not_namesHost_localhost his.2.1)) hsame
  · intro h
    refine ⟨fun username password hresolved =>
      named_of_first hconfig h.first hresolved, fun own hown => ?_⟩
    by_cases hsame : registryFromReference reference = registryHost reference
    · rw [hsame]
      exact resolvePullAuth_own hconfig hown
    · -- Nothing is returned, which is what the own entry holds.
      obtain ⟨hnothing, hothers⟩ := h.own hsame own hown
      rw [holdsNothing_iff.mp hnothing, resolvePullAuth_of_select hconfig]
      cases hselect : selectEntry config
          (registryFromReference reference) with
      | none => rfl
      | some taken =>
          exact holdsNothing_iff.mp
            (hothers taken.1 taken.2 (selectEntry_spec hselect))

/-- With an entry of its own, a host other than `localhost` gets nobody
else's. -/
theorem guarded_of_own {reference : String} {own : DockerConfigAuth}
    (hhost : registryFromReference reference = registryHost reference)
    (hown : (registryHost reference, own) ∈ config.auths) :
    Guarded lib config reference := by
  refine ⟨?_, fun hother => absurd hhost hother⟩
  rintro key entry ⟨-, hpre, hleast⟩ hnames
  rw [hhost] at hpre hleast
  have hle : key ≤ registryHost reference :=
    hleast (registryHost reference, own) hown (List.prefix_refl _)
  exact absurd (.inl (le_antisymm hle (le_of_front hpre))) hnames

/-- With a pull Secret a pull carries what `resolve_pull_auth` returns for the
registry of its reference. -/
theorem pullAuth_overSecrets (ans : PullAnswers) {spec : OciImageRef}
    (hsecret : spec.pullSecretRef = some secretName) (reference : String) :
    pullAuth (ans.overSecrets lib getSecret) spec reference =
      resolvePullAuth lib getSecret secretName
        (registryFromReference reference) := by
  unfold pullAuth
  rw [hsecret]
  rfl

namespace Sample

def ciEntry : DockerConfigAuth where
  username := some "ci"
  password := some "s3cret"
  auth := none

/-- A configuration with one entry, of a user and a password. -/
def dockerConfig (registry : String) : DockerConfigJson where
  auths := [(registry, ciEntry)]
  ordered := List.pairwise_singleton _ _

/-- One with an entry of `localhost`, and an empty one of the default
registry. -/
def localConfig : DockerConfigJson where
  auths :=
    [("index.docker.io",
        { username := none, password := none, auth := none }),
      ("localhost", ciEntry)]
  ordered := List.pairwise_pair.mpr (by decide +kernel)

/-- Every Secret holds this configuration. -/
def dockerLib (config : DockerConfigJson) : DockerConfigLib where
  fromSlice _ := .ok config
  base64Decode _ := .error "Invalid symbol"
  fromUtf8 _ := .error "invalid utf-8 sequence"

def dockerSecret : Secret where
  name := some "pull"
  namespace_ := some "mcpg-system"
  data := some [(".dockerconfigjson", [])]

theorem readDockerConfig_dockerLib (config : DockerConfigJson) :
    readDockerConfig (dockerLib config) (fun _ => .ok dockerSecret) "pull" =
      .ok config := rfl

/-- What a pull of the reference is answered where this configuration is in
the Secret. -/
def ScopedIn (config : DockerConfigJson) (reference : String) : Prop :=
  Scoped (dockerLib config) (fun _ => .ok dockerSecret) "pull" config
    reference

/-- The registry's own entry is used for it. -/
theorem scoped_own :
    ScopedIn (dockerConfig "ghcr.io") "ghcr.io/acme/plugin:1.0" := by
  have hhost : registryFromReference "ghcr.io/acme/plugin:1.0" =
      registryHost "ghcr.io/acme/plugin:1.0" := by decide +kernel
  have hown : registryHost "ghcr.io/acme/plugin:1.0" = "ghcr.io" := by
    decide +kernel
  have hmem : (registryHost "ghcr.io/acme/plugin:1.0", ciEntry) ∈
      (dockerConfig "ghcr.io").auths := by
    rw [hown]
    exact List.mem_singleton_self _
  have hguarded : Guarded (dockerLib (dockerConfig "ghcr.io"))
      (dockerConfig "ghcr.io") "ghcr.io/acme/plugin:1.0" :=
    guarded_of_own hhost hmem
  exact (scoped_iff _ (readDockerConfig_dockerLib _)).mpr hguarded

/-- The one entry does not name the host of the reference. -/
theorem not_scoped_of_other {registry reference : String}
    (hresolved : resolvePullAuth (dockerLib (dockerConfig registry))
      (fun _ => .ok dockerSecret) "pull" (registryFromReference reference) =
        .ok (.basic "ci" "s3cret"))
    (hnames : ¬ NamesHost (registryHost reference) registry) :
    ¬ ScopedIn (dockerConfig registry) reference := by
  intro h
  obtain ⟨key, entry, hselect, -, hkey, -⟩ := h.named "ci" "s3cret" hresolved
  cases List.mem_singleton.mp (selectEntry_spec hselect).1
  exact hnames hkey

/-- Another port's credentials, the default registry's for `localhost`, and
none although `localhost` has an entry. -/
theorem not_scoped :
    ¬ ScopedIn (dockerConfig "registry.example.com:5000")
        "registry.example.com/team/plugin:1.0" ∧
      ¬ ScopedIn (dockerConfig "index.docker.io") "localhost/plugin:1.0" ∧
      ¬ ScopedIn localConfig "localhost/plugin:1.0" := by
  refine ⟨not_scoped_of_other (by decide +kernel) (by decide +kernel),
    not_scoped_of_other (by decide +kernel) (by decide +kernel), fun h => ?_⟩
  have hmem : (registryHost "localhost/plugin:1.0", ciEntry) ∈
      localConfig.auths := by decide +kernel
  exact absurd (h.own ciEntry hmem) (by decide +kernel)

end Sample

end McpgOperator.Plugin
