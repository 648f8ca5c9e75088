import McpgOperator.Proofs.IssuerOrigins

/-!
# The shape of an issuer

`is_bare_origin_issuer` takes an issuer as it is and looks for what a bare
origin must not have; `url_origin` trims it, lower-cases it and drops a default
port. They agree on every issuer that is an origin and nothing else. What the
first lets through and the second takes away is white space at the end and a
second port, and neither looks at what the host is made of
(`PassingIssuer.Fault`).
-/

namespace McpgOperator.Gateway

open McpgOperator.Kube McpgOperator.Text McpgOperator.Url Json

/-! ## What the shape check lets through -/

/-- `scheme://authority`, and at most a `/` behind it. -/
def originText (secure : Bool) (authority : List Char) (slash : Bool) :
    List Char :=
  (if secure then "https".toList else "http".toList) ++
    ("://".toList ++ (authority ++ if slash then ['/'] else []))

/-- The authorities the shape check lets through. -/
structure Passes (authority : List Char) : Prop where
  ne_nil : authority ≠ []
  host : authority.head? ≠ some ':'
  free : ∀ c ∈ authority, c ∉ ['/', '?', '#', '@']

theorem passes_iff {authority : List Char} :
    (!authority.isEmpty && authority.head? != some ':' &&
        !authority.any fun c => ['/', '?', '#', '@'].contains c) = true ↔
      Passes authority := by
  rw [Bool.and_eq_true, Bool.and_eq_true, Bool.not_eq_true',
    List.isEmpty_eq_false_iff, bne_iff_ne, Bool.not_eq_true',
    List.any_eq_false]
  have hfree : (∀ c ∈ authority,
      ¬ ['/', '?', '#', '@'].contains c = true) ↔
        ∀ c ∈ authority, c ∉ ['/', '?', '#', '@'] := by
    simp only [List.contains_iff_mem]
  rw [hfree]
  constructor
  · rintro ⟨⟨hne, hhead⟩, hmem⟩
    exact ⟨hne, hhead, hmem⟩
  · intro h
    exact ⟨⟨h.ne_nil, h.host⟩, h.free⟩

/-- The trailing `/` that is allowed is no part of the authority. -/
theorem stripSuffix_slash {authority : List Char} (h : '/' ∉ authority)
    (slash : Bool) :
    (stripSuffix ['/'] (authority ++ if slash then ['/'] else [])).getD
      (authority ++ if slash then ['/'] else []) = authority := by
  cases slash with
  | true => rw [if_pos rfl, stripSuffix_append, Option.getD_some]
  | false =>
      rw [if_neg Bool.false_ne_true, List.append_nil]
      cases hstrip : stripSuffix ['/'] authority with
      | none => rfl
      | some rest =>
          rw [eq_append_of_stripSuffix hstrip] at h
          exact absurd (List.mem_append_right _ List.mem_cons_self) h

/-- What is left of the issuer behind its scheme. -/
theorem stripPrefix_scheme (secure : Bool) (rest : List Char) :
    (stripPrefix "https://".toList
        ((if secure then "https".toList else "http".toList) ++
          ("://".toList ++ rest))).or
      (stripPrefix "http://".toList
        ((if secure then "https".toList else "http".toList) ++
          ("://".toList ++ rest))) = some rest := by
  cases secure with
  | true =>
      have hstrip : stripPrefix "https://".toList
          ("https".toList ++ ("://".toList ++ rest)) = some rest :=
        stripPrefix_append "https://".toList rest
      rw [if_pos rfl, hstrip]
      rfl
  | false =>
      have hsecure : stripPrefix "https://".toList
          ("http".toList ++ ("://".toList ++ rest)) = none := rfl
      have hstrip : stripPrefix "http://".toList
          ("http".toList ++ ("://".toList ++ rest)) = some rest :=
        stripPrefix_append "http://".toList rest
      rw [if_neg Bool.false_ne_true, hsecure, hstrip]
      rfl

theorem scheme_of_stripPrefix {cs rest : List Char}
    (h : (stripPrefix "https://".toList cs).or
      (stripPrefix "http://".toList cs) = some rest) :
    ∃ secure : Bool,
      cs = (if secure then "https".toList else "http".toList) ++
        ("://".toList ++ rest) := by
  rcases Option.or_eq_some_iff.mp h with hstrip | ⟨-, hstrip⟩
  · have htext : cs = "https://".toList ++ rest :=
      eq_append_of_stripPrefix hstrip
    exact ⟨true, htext⟩
  · have htext : cs = "http://".toList ++ rest :=
      eq_append_of_stripPrefix hstrip
    exact ⟨false, htext⟩

theorem isBareOriginIssuer_iff {issuer : String} :
    isBareOriginIssuer issuer = true ↔ ∃ secure authority slash,
      issuer.toList = originText secure authority slash ∧
        Passes authority := by
  unfold isBareOriginIssuer
  constructor
  · intro h
    split at h
    · cases h
    · next rest hrest =>
      obtain ⟨secure, htext⟩ := scheme_of_stripPrefix hrest
      have hpasses := passes_iff.mp h
      cases hstrip : stripSuffix ['/'] rest with
      | none =>
          rw [hstrip, Option.getD_none] at hpasses
          refine ⟨secure, rest, false, ?_, hpasses⟩
          rw [htext, originText, if_neg Bool.false_ne_true, List.append_nil]
      | some authority =>
          rw [hstrip, Option.getD_some] at hpasses
          refine ⟨secure, authority, true, ?_, hpasses⟩
          rw [htext, originText, if_pos rfl,
            eq_append_of_stripSuffix hstrip]
  · rintro ⟨secure, authority, slash, htext, hpasses⟩
    rw [htext, originText, stripPrefix_scheme]
    dsimp only
    rw [stripSuffix_slash
      fun hmem => hpasses.free '/' hmem List.mem_cons_self]
    exact passes_iff.mpr hpasses

/-- What a bare issuer has behind its scheme. -/
def IsHostPort (authority : List Char) : Prop :=
  ∃ host, IssuerHost host ∧ (authority = host ∨
    ∃ digits, IssuerPort digits ∧ authority = host ++ ':' :: digits)

/-- The texts of the bare issuers. -/
theorem exists_bareIssuer {authority : List Char} (h : IsHostPort authority)
    (secure slash : Bool) :
    ∃ b : BareIssuer, b.text = originText secure authority slash := by
  obtain ⟨host, hhost, rfl | ⟨digits, hdigits, rfl⟩⟩ := h
  · let b : BareIssuer :=
      { secure := secure, host := authority, port := none, slash := slash
        host_ok := hhost
        port_ok := fun digits hport => absurd hport.symm (by simp) }
    have htext : b.text =
        originText secure (authority ++ []) slash := rfl
    exact ⟨b, htext.trans (by rw [List.append_nil])⟩
  · exact ⟨
      { secure := secure, host := host, port := some digits, slash := slash
        host_ok := hhost
        port_ok := fun _ hport => Option.some.inj hport ▸ hdigits }, rfl⟩

/-- A text has one authority. -/
theorem authority_of_originText {secure secure' slash slash' : Bool}
    {authority authority' : List Char}
    (h : '/' ∉ authority) (h' : '/' ∉ authority')
    (htext : originText secure authority slash =
      originText secure' authority' slash') : authority = authority' := by
  have hrest := stripPrefix_scheme secure
    (authority ++ if slash then ['/'] else [])
  have hsame : (if secure then "https".toList else "http".toList) ++
      ("://".toList ++ (authority ++ if slash then ['/'] else [])) =
        (if secure' then "https".toList else "http".toList) ++
          ("://".toList ++
            (authority' ++ if slash' then ['/'] else [])) := htext
  rw [hsame, stripPrefix_scheme] at hrest
  have hstrip := stripSuffix_slash h slash
  rw [← Option.some.inj hrest, stripSuffix_slash h'] at hstrip
  exact hstrip.symm

namespace BareIssuer

variable (b : BareIssuer)

theorem isHostPort_authority : IsHostPort b.authority := by
  refine ⟨b.host, b.host_ok, ?_⟩
  unfold authority portText
  split
  · exact .inl (List.append_nil _)
  · next digits hport =>
    exact .inr ⟨digits, b.port_ok digits hport, rfl⟩

theorem passes_authority : Passes b.authority := by
  obtain ⟨c, rest, hhost, hcolon⟩ := head_of_host b.host_ok
  refine ⟨?_, ?_, fun c hc => ?_⟩
  · rw [authority, hhost]
    exact List.cons_ne_nil _ _
  · rw [authority, hhost]
    exact fun heq => hcolon (Option.some.inj heq)
  · have hplain := b.plain_of_mem_authority c hc
    simp [hplain.slash, hplain.query, hplain.fragment, hplain.userinfo]

/-- The shape check lets every bare issuer through. -/
theorem isBareOriginIssuer_text {issuer : String}
    (h : issuer.toList = b.text) : isBareOriginIssuer issuer = true :=
  isBareOriginIssuer_iff.mpr
    ⟨b.secure, b.authority, b.slash, h, b.passes_authority⟩

end BareIssuer

/-! ## What passes and has an origin -/

def schemeText (secure : Bool) : List Char :=
  if secure then "https".toList else "http".toList

/-- The port that goes with the scheme, behind its colon. -/
def schemePort (secure : Bool) : List Char :=
  ':' :: if secure then "443".toList else "80".toList

/-- An issuer whose shape is let through, as its origin is read: behind the
host there may be the scheme's own port, and then a `/` or white space. -/
structure PassingIssuer where
  secure : Bool
  host : List Char
  ownPort : Bool
  blanks : List Char
  slash : Bool
  host_ok : Passes host
  port_ok : ownPort = false → ¬ schemePort secure <:+ host
  blanks_ok : ∀ c ∈ blanks, isWhitespace c = true
  slash_ok : slash = true → blanks = []
  end_ok : slash = false → ownPort = false →
    ∀ c ∈ host.getLast?, isWhitespace c = false

namespace PassingIssuer

variable (p : PassingIssuer)

/-- What the origin is read from. -/
def hostPort : List Char :=
  p.host ++ if p.ownPort then schemePort p.secure else []

def authority : List Char := p.hostPort ++ p.blanks

def text : List Char := originText p.secure p.authority p.slash

def origin : String :=
  String.ofList (schemeText p.secure ++ "://".toList ++
    p.host.map asciiLower)

/-- What keeps it from being a bare issuer. -/
inductive Fault : Prop
  | blankAtEnd (h : p.blanks ≠ [])
  | secondPort {host digits : List Char} (hown : p.ownPort = true)
      (hdigits : IssuerPort digits) (htext : p.host = host ++ ':' :: digits)
  | malformedHost (h : ¬ IsHostPort p.host)

end PassingIssuer

theorem dropWhile_schemeText (secure : Bool) :
    (schemeText secure).dropWhile isWhitespace = schemeText secure := by
  cases secure
  · decide
  · decide

/-- White space at the end goes, unless a `/` follows it. -/
theorem trim_originText {secure slash : Bool} {body blanks : List Char}
    (hblanks : ∀ c ∈ blanks, isWhitespace c = true)
    (hslash : slash = true → blanks = [])
    (hend : slash = false → ∀ c ∈ body.getLast?, isWhitespace c = false) :
    trimMatches isWhitespace (originText secure (body ++ blanks) slash) =
      schemeText secure ++ ("://".toList ++
        (body ++ if slash then ['/'] else [])) := by
  have hback : (blanks.reverse.dropWhile isWhitespace).reverse = [] := by
    rw [List.dropWhile_eq_nil_iff.mpr
      fun c hc => hblanks c (List.mem_reverse.mp hc)]
    rfl
  have hbetween (d : Char) (hd : isWhitespace d = false)
      (mid back : List Char) := trimMatches_between (p := isWhitespace)
    (c := ':') (by decide) hd (schemeText secure) mid back
  cases slash with
  | true =>
      obtain rfl := hslash rfl
      have h := hbetween '/' (by decide) ("//".toList ++ body) []
      rw [dropWhile_schemeText] at h
      unfold originText
      rw [if_pos rfl, List.append_nil]
      have htext : schemeText secure ++ ("://".toList ++ (body ++ ['/'])) =
          schemeText secure ++ ':' :: ("//".toList ++ body ++ '/' :: []) := by
        simp
      exact (congrArg _ htext).trans (h.trans htext.symm)
  | false =>
      unfold originText
      rw [if_neg Bool.false_ne_true, List.append_nil, List.append_nil]
      rcases List.eq_nil_or_concat body with rfl | ⟨init, d, hbody⟩
      · have h := hbetween '/' (by decide) "/".toList blanks
        rw [dropWhile_schemeText, hback] at h
        exact h
      · rw [List.concat_eq_append] at hbody
        subst hbody
        have hd := hend rfl d List.getLast?_concat
        have h := hbetween d hd ("//".toList ++ init) blanks
        rw [dropWhile_schemeText, hback] at h
        have htext (back : List Char) : schemeText secure ++
            ("://".toList ++ ((init ++ [d]) ++ back)) =
              schemeText secure ++
                ':' :: ("//".toList ++ init ++ d :: back) := by simp
        have hnil := htext []
        rw [List.append_nil] at hnil
        exact (congrArg _ (htext blanks)).trans (h.trans hnil.symm)

theorem urlOrigin_of_body {secure slash : Bool} {body blanks : List Char}
    {issuer : String}
    (hfree : ∀ c ∈ body, c ∉ ['/', '?', '#', '@'])
    (hblanks : ∀ c ∈ blanks, isWhitespace c = true)
    (hslash : slash = true → blanks = [])
    (hend : slash = false → ∀ c ∈ body.getLast?, isWhitespace c = false)
    (htext : issuer.toList = originText secure (body ++ blanks) slash) :
    urlOrigin issuer = originOf (schemeText secure) body := by
  have hcolon : ':' ∉ schemeText secure := by
    cases secure
    · decide
    · decide
  have hhost : hostPart (body ++ if slash then ['/'] else []) = body := by
    have htake : (body ++ if slash then ['/'] else []).takeWhile
        (fun c => !(['/', '?', '#'].contains c)) = body := by
      refine takeWhile_host (fun c hc => ?_) fun c hc => ?_
      · have hnot := hfree c hc
        simp only [List.mem_cons, not_or] at hnot
        simp [hnot]
      · cases slash with
        | false => cases hc
        | true =>
            cases hc
            decide
    unfold hostPart
    rw [htake]
    exact splitAfterLast_eq_self fun hmem => hfree '@' hmem (by decide)
  rw [urlOrigin_eq, htext, trim_originText hblanks hslash hend,
    splitOnceAt_scheme hcolon, Option.bind_some, hhost]

/-- A port in lower case was one before. -/
theorem exists_of_map_append_port {secure : Bool} {cs rest : List Char}
    (h : cs.map asciiLower = rest ++ schemePort secure) :
    ∃ host, cs = host ++ schemePort secure ∧ host.map asciiLower = rest := by
  obtain ⟨host, port, rfl, hhost, hport⟩ := List.map_eq_append_iff.mp h
  have hsame : ∀ c d : Char, d ∈ schemePort secure → asciiLower c = d →
      c = d := by
    intro c d hd heq
    by_cases hupper : 'A' ≤ c ∧ c ≤ 'Z'
    · have hlower := asciiLower_of_upper hupper
      have hrange : 65 ≤ c.toNat ∧ c.toNat ≤ 90 := hupper
      have hsmall : ((schemePort secure).all fun d => d.toNat < 60) = true := by
        cases secure
        · decide
        · decide
      have := of_decide_eq_true (List.all_eq_true.mp hsmall d hd)
      rw [heq] at hlower
      omega
    · rw [← heq]
      exact (if_neg hupper).symm
  have heq : port = schemePort secure := by
    have hlength := congrArg List.length hport
    rw [List.length_map] at hlength
    refine List.ext_getElem hlength fun i hi hi' => ?_
    refine hsame _ _ (List.getElem_mem hi') ?_
    rw [← List.getElem_map asciiLower (h := by rwa [List.length_map])]
    simp only [hport]
  exact ⟨host, by rw [heq], hhost⟩

theorem schemePort_free (secure : Bool) :
    ∀ c ∈ schemePort secure, c ∉ ['/', '?', '#', '@'] := by
  have hfree : ((schemePort secure).all
      fun c => decide (c ∉ ['/', '?', '#', '@'])) = true := by
    cases secure
    · decide
    · decide
  exact fun c hc => of_decide_eq_true (List.all_eq_true.mp hfree c hc)

theorem originOf_schemeText (secure : Bool) (body : List Char) :
    originOf (schemeText secure) body =
      let hostPort := (stripSuffix (schemePort secure)
        (body.map asciiLower)).getD (body.map asciiLower)
      if hostPort.isEmpty || hostPort.head? == some ':' then none
      else some (String.ofList
        (schemeText secure ++ "://".toList ++ hostPort)) := by
  cases secure
  · rfl
  · rfl

namespace PassingIssuer

variable (p : PassingIssuer)

theorem hostPort_free : ∀ c ∈ p.hostPort, c ∉ ['/', '?', '#', '@'] := by
  intro c hc
  rcases List.mem_append.mp hc with hc | hc
  · exact p.host_ok.free c hc
  · split at hc
    · exact schemePort_free p.secure c hc
    · cases hc

theorem hostPort_end (hslash : p.slash = false) :
    ∀ c ∈ p.hostPort.getLast?, isWhitespace c = false := by
  intro c hc
  cases hown : p.ownPort with
  | false =>
      unfold hostPort at hc
      rw [hown, if_neg Bool.false_ne_true, List.append_nil] at hc
      exact p.end_ok hslash hown c hc
  | true =>
      unfold hostPort at hc
      rw [hown, if_pos rfl, List.getLast?_append] at hc
      revert hc
      unfold schemePort
      cases p.secure
      · intro hc
        cases hc
        decide
      · intro hc
        cases hc
        decide

theorem map_ownPort (secure : Bool) :
    (schemePort secure).map asciiLower = schemePort secure := by
  cases secure
  · decide
  · decide

/-- The scheme's port is dropped once. -/
theorem stripSuffix_hostPort :
    (stripSuffix (schemePort p.secure) (p.hostPort.map asciiLower)).getD
      (p.hostPort.map asciiLower) = p.host.map asciiLower := by
  unfold hostPort
  cases hown : p.ownPort with
  | true =>
      rw [if_pos rfl, List.map_append, map_ownPort, stripSuffix_append,
        Option.getD_some]
  | false =>
      rw [if_neg Bool.false_ne_true, List.append_nil]
      cases hstrip : stripSuffix (schemePort p.secure)
          (p.host.map asciiLower) with
      | none => rfl
      | some rest =>
          obtain ⟨host, hhost, -⟩ :=
            exists_of_map_append_port (eq_append_of_stripSuffix hstrip)
          exact absurd ⟨host, hhost.symm⟩ (p.port_ok hown)

theorem urlOrigin_text {issuer : String} (h : issuer.toList = p.text) :
    urlOrigin issuer = some p.origin := by
  rw [urlOrigin_of_body p.hostPort_free p.blanks_ok p.slash_ok
    p.hostPort_end h, originOf_schemeText]
  dsimp only
  rw [p.stripSuffix_hostPort]
  have hne := p.host_ok.ne_nil
  have hhead := p.host_ok.host
  cases hhost : p.host with
  | nil => exact absurd hhost hne
  | cons c cs =>
      rw [hhost] at hhead
      have hlower : asciiLower c ≠ ':' :=
        asciiLower_ne_colon fun heq => hhead (by rw [heq]; rfl)
      rw [if_neg (by simp [hlower]), origin, hhost]

theorem passes_authority : Passes p.authority := by
  refine ⟨?_, ?_, fun c hc => ?_⟩
  · unfold authority hostPort
    simp [p.host_ok.ne_nil]
  · have hhead := p.host_ok.host
    unfold authority hostPort
    rw [List.head?_append_of_ne_nil _ (by simp [p.host_ok.ne_nil]),
      List.head?_append_of_ne_nil _ p.host_ok.ne_nil]
    exact hhead
  · rcases List.mem_append.mp hc with hc | hc
    · exact p.hostPort_free c hc
    · have hspace := p.blanks_ok c hc
      intro hmem
      have hnot : isWhitespace c = false :=
        not_isWhitespace_of_all (by decide) c hmem
      rw [hspace] at hnot
      cases hnot

theorem isBareOriginIssuer_text {issuer : String}
    (h : issuer.toList = p.text) : isBareOriginIssuer issuer = true :=
  isBareOriginIssuer_iff.mpr
    ⟨p.secure, p.authority, p.slash, h, p.passes_authority⟩

end PassingIssuer

/-! ### Every issuer that passes -/

theorem Passes.front {front back : List Char} (hne : front ≠ [])
    (h : Passes (front ++ back)) : Passes front := by
  refine ⟨hne, ?_, fun c hc => h.free c (List.mem_append_left _ hc)⟩
  have hhead := h.host
  rwa [List.head?_append_of_ne_nil _ hne] at hhead

/-- The white space at the end, where it is trimmed. -/
theorem exists_body (authority : List Char) (slash : Bool) :
    ∃ body blanks, authority = body ++ blanks ∧
      (∀ c ∈ blanks, isWhitespace c = true) ∧
      (slash = true → blanks = []) ∧
      (slash = false → ∀ c ∈ body.getLast?, isWhitespace c = false) := by
  cases slash with
  | true =>
      exact ⟨authority, [], (List.append_nil _).symm,
        fun _ hc => absurd hc List.not_mem_nil, fun _ => rfl,
        fun h => absurd h (by decide)⟩
  | false =>
      refine ⟨(authority.reverse.dropWhile isWhitespace).reverse,
        (authority.reverse.takeWhile isWhitespace).reverse, ?_, ?_,
        fun h => absurd h (by decide), fun _ c hc => ?_⟩
      · rw [← List.reverse_append, List.takeWhile_append_dropWhile,
          List.reverse_reverse]
      · intro c hc
        exact List.mem_takeWhile_imp (List.mem_reverse.mp hc)
      · rw [List.getLast?_reverse] at hc
        have hnot := List.head?_dropWhile_not isWhitespace authority.reverse
        rw [hc] at hnot
        exact hnot

theorem exists_passingIssuer {issuer o : String}
    (hbare : isBareOriginIssuer issuer = true)
    (ho : urlOrigin issuer = some o) :
    ∃ p : PassingIssuer, issuer.toList = p.text ∧ p.origin = o := by
  obtain ⟨secure, authority, slash, htext, hpasses⟩ :=
    isBareOriginIssuer_iff.mp hbare
  obtain ⟨body, blanks, rfl, hblanks, hslash, hend⟩ :=
    exists_body authority slash
  have hfree : ∀ c ∈ body, c ∉ ['/', '?', '#', '@'] := fun c hc =>
    hpasses.free c (List.mem_append_left _ hc)
  have horigin : originOf (schemeText secure) body = some o :=
    (urlOrigin_of_body hfree hblanks hslash hend htext).symm.trans ho
  have hne : body ≠ [] := by
    rintro rfl
    rw [originOf_schemeText] at horigin
    cases secure
    · cases horigin
    · cases horigin
  have hthere (p : PassingIssuer) (hp : issuer.toList = p.text) :
      issuer.toList = p.text ∧ p.origin = o :=
    ⟨hp, Option.some.inj ((p.urlOrigin_text hp).symm.trans ho)⟩
  by_cases hport : schemePort secure <:+ body
  · obtain ⟨host, rfl⟩ := hport
    have hhost : host ≠ [] := by
      rintro rfl
      exact hpasses.host rfl
    exact ⟨_, hthere
      { secure := secure, host := host, ownPort := true
        blanks := blanks, slash := slash
        host_ok := (hpasses.front hne).front hhost
        port_ok := fun h => absurd h (by decide)
        blanks_ok := hblanks
        slash_ok := hslash
        end_ok := fun _ h => absurd h (by decide) } htext⟩
  · have hbody : body ++ (if false = true then schemePort secure else []) =
        body := List.append_nil body
    exact ⟨_, hthere
      { secure := secure, host := body, ownPort := false
        blanks := blanks, slash := slash
        host_ok := hpasses.front hne
        port_ok := fun _ => hport
        blanks_ok := hblanks
        slash_ok := hslash
        end_ok := fun h _ => hend h }
      (htext.trans (congrArg
        (fun body => originText secure (body ++ blanks) slash)
        hbody.symm))⟩

/-! ### Its faults -/

theorem IsHostPort.not_isWhitespace {authority : List Char}
    (h : IsHostPort authority) : ∀ c ∈ authority, isWhitespace c = false := by
  intro c hc
  obtain ⟨host, hhost, rfl | ⟨digits, hdigits, rfl⟩⟩ := h
  · exact (plain_of_mem_host hhost c hc).space
  · rcases List.mem_append.mp hc with hc | hc
    · exact (plain_of_mem_host hhost c hc).space
    · rcases List.mem_cons.mp hc with rfl | hc
      · decide
      · exact (plain_of_digit (hdigits.2 c hc)).space

/-- A host has no port. -/
theorem not_issuerHost_port {host digits : List Char}
    (hdigits : IssuerPort digits) : ¬ IssuerHost (host ++ ':' :: digits) := by
  intro hhost
  have hsame : digits.map asciiLower = digits := by
    refine (List.map_congr_left fun c hc => ?_).trans (List.map_id _)
    exact asciiLower_digit (hdigits.2 c hc)
  refine not_suffix_host hhost hdigits ⟨host.map asciiLower, ?_⟩
  rw [List.map_append, List.map_cons, hsame]
  rfl

theorem issuerHost_of_port {host digits : List Char}
    (hdigits : IssuerPort digits)
    (h : IsHostPort (host ++ ':' :: digits)) : IssuerHost host := by
  obtain ⟨host', hhost, rfl | ⟨digits', hdigits', heq⟩⟩ := h
  · exact absurd hhost (not_issuerHost_port hdigits)
  · have hlast := congrArg (fun cs => (splitAfterLast ':' cs).2) heq
    rw [splitAfterLast_cons, splitAfterLast_cons,
      splitAfterLast_eq_self (not_mem_colon_digits hdigits),
      splitAfterLast_eq_self (not_mem_colon_digits hdigits')] at hlast
    rw [hlast] at heq
    rwa [List.append_cancel_right heq]

theorem exists_schemePort (secure : Bool) :
    ∃ digits, IssuerPort digits ∧ schemePort secure = ':' :: digits := by
  cases secure
  · exact ⟨_, issuerPort_of_all (by decide) (by decide), rfl⟩
  · exact ⟨_, issuerPort_of_all (by decide) (by decide), rfl⟩

namespace PassingIssuer

variable (p : PassingIssuer)

theorem fault_iff : p.Fault ↔ ¬ IsHostPort p.authority := by
  obtain ⟨own, hown, hport⟩ := exists_schemePort p.secure
  constructor
  · intro hfault h
    have hblanks : p.blanks = [] := by
      refine List.eq_nil_iff_forall_not_mem.mpr fun c hc => ?_
      have hnot := h.not_isWhitespace c (List.mem_append_right _ hc)
      rw [p.blanks_ok c hc] at hnot
      cases hnot
    unfold authority hostPort at h
    rw [hblanks, List.append_nil] at h
    cases hfault with
    | blankAtEnd hne => exact hne hblanks
    | secondPort htrue hdigits htext =>
        rw [htrue, if_pos rfl, hport, htext] at h
        exact not_issuerHost_port hdigits (issuerHost_of_port hown h)
    | malformedHost hhost =>
        cases htrue : p.ownPort with
        | true =>
            rw [htrue, if_pos rfl, hport] at h
            exact hhost ⟨_, issuerHost_of_port hown h, .inl rfl⟩
        | false =>
            rw [htrue, if_neg Bool.false_ne_true, List.append_nil] at h
            exact hhost h
  · intro hnot
    by_contra hfault
    have hblanks : p.blanks = [] := by
      by_contra hne
      exact hfault (.blankAtEnd hne)
    have hhost : IsHostPort p.host := by
      by_contra hhost
      exact hfault (.malformedHost hhost)
    refine hnot ?_
    unfold authority hostPort
    rw [hblanks, List.append_nil]
    cases htrue : p.ownPort with
    | false =>
        rw [if_neg Bool.false_ne_true, List.append_nil]
        exact hhost
    | true =>
        rw [if_pos rfl, hport]
        obtain ⟨host, hok, heq | ⟨digits, hdigits, heq⟩⟩ := hhost
        · exact ⟨host, hok, .inr ⟨own, hown, by rw [heq]⟩⟩
        · exact absurd (.secondPort htrue hdigits heq) hfault

/-- Without a fault it is a bare issuer, and only then. -/
theorem exists_bareIssuer_iff :
    (∃ b : BareIssuer, b.text = p.text) ↔ ¬ p.Fault := by
  rw [p.fault_iff, not_not]
  constructor
  · rintro ⟨b, hb⟩
    have hauthority : b.authority = p.authority :=
      authority_of_originText
        (fun hmem => b.passes_authority.free '/' hmem List.mem_cons_self)
        (fun hmem => p.passes_authority.free '/' hmem List.mem_cons_self) hb
    rw [← hauthority]
    exact b.isHostPort_authority
  · intro h
    exact exists_bareIssuer h p.secure p.slash

end PassingIssuer

end McpgOperator.Gateway
