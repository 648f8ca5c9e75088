import McpgOperator.Gateway.AuthorizationServer
import McpgOperator.Url

/-!
# The origin of a URL

`url_origin` reads a URL from both ends: the scheme is what stands before the
first `://`, the host and the port are what stands behind the last `@` of the
authority. On a web URL that is the scheme, the host and the port, in lower
case and without the port that goes with the scheme; and whatever the URL, its
userinfo does not matter.
-/

namespace McpgOperator.Gateway

open McpgOperator.Text McpgOperator.Url

/-! ## Bare origins -/

/-- A character of a host that is no IP literal. -/
def isNameChar (c : Char) : Bool :=
  !(['/', '?', '#', '@', ':', '[', ']'].contains c) && !isWhitespace c

inductive IssuerHost : List Char → Prop
  | name {cs : List Char} (hne : cs ≠ [])
      (h : ∀ c ∈ cs, isNameChar c = true) : IssuerHost cs
  | literal {cs : List Char} (hne : cs ≠ [])
      (h : ∀ c ∈ cs, isNameChar c = true ∨ c = ':') :
      IssuerHost ('[' :: (cs ++ [']']))

/-- A port is digits. -/
def IssuerPort (digits : List Char) : Prop :=
  digits ≠ [] ∧ ∀ c ∈ digits, '0' ≤ c ∧ c ≤ '9'

theorem issuerPort_of_all {digits : List Char} (hne : digits ≠ [])
    (h : (digits.all fun c => '0' ≤ c && c ≤ '9') = true) :
    IssuerPort digits :=
  ⟨hne, fun c hc => by simpa using List.all_eq_true.mp h c hc⟩

/-- `scheme://host[:port]`, and at most a `/` behind it. -/
structure BareIssuer where
  secure : Bool
  host : List Char
  port : Option (List Char)
  slash : Bool
  host_ok : IssuerHost host
  port_ok : ∀ digits, port = some digits → IssuerPort digits

namespace BareIssuer

variable (b : BareIssuer)

def scheme : List Char := if b.secure then "https".toList else "http".toList

def portText : List Char :=
  match b.port with
  | none => []
  | some digits => ':' :: digits

def authority : List Char := b.host ++ b.portText

def text : List Char :=
  b.scheme ++ ("://".toList ++
    (b.authority ++ if b.slash then ['/'] else []))

def defaultDigits : List Char :=
  if b.secure then "443".toList else "80".toList

/-- Its host in lower case, without the scheme's own port. -/
def origin : String :=
  String.ofList (b.scheme ++ ("://".toList ++ (b.host.map asciiLower ++
    if b.port = some b.defaultDigits then [] else b.portText)))

end BareIssuer

/-- What ends an authority, begins a host, or is no part of a URL. -/
structure Plain (c : Char) : Prop where
  slash : c ≠ '/'
  query : c ≠ '?'
  fragment : c ≠ '#'
  userinfo : c ≠ '@'
  space : isWhitespace c = false

theorem Plain.not_ends {c : Char} (h : Plain c) :
    (!(['/', '?', '#'].contains c)) = true := by
  simp [h.slash, h.query, h.fragment]

theorem plain_of_isNameChar {c : Char} (h : isNameChar c = true) :
    Plain c := by
  unfold isNameChar at h
  simp at h
  exact ⟨h.1.1, h.1.2.1, h.1.2.2.1, h.1.2.2.2.1, h.2⟩

theorem plain_of_digit {c : Char} (h : '0' ≤ c ∧ c ≤ '9') : Plain c := by
  have hrange : 48 ≤ c.toNat ∧ c.toNat ≤ 57 := h
  have hne : ∀ d : Char, d.toNat < 48 ∨ 57 < d.toNat → c ≠ d := by
    rintro d hd rfl
    omega
  exact ⟨hne '/' (by decide), hne '?' (by decide), hne '#' (by decide),
    hne '@' (by decide), not_isWhitespace_of_digit h⟩

theorem plain_of_mem_host {cs : List Char} (h : IssuerHost cs) :
    ∀ c ∈ cs, Plain c := by
  cases h with
  | name hne hchars => exact fun c hc => plain_of_isNameChar (hchars c hc)
  | literal hne hchars =>
      intro c hc
      rcases List.mem_cons.mp hc with rfl | hc
      · exact ⟨by decide, by decide, by decide, by decide, by decide⟩
      · rcases List.mem_append.mp hc with hc | hc
        · rcases hchars c hc with hname | rfl
          · exact plain_of_isNameChar hname
          · exact ⟨by decide, by decide, by decide, by decide, by decide⟩
        · rw [List.mem_singleton.mp hc]
          exact ⟨by decide, by decide, by decide, by decide, by decide⟩

theorem head_of_host {cs : List Char} (h : IssuerHost cs) :
    ∃ c rest, cs = c :: rest ∧ c ≠ ':' := by
  cases h with
  | name hne hchars =>
      cases cs with
      | nil => exact absurd rfl hne
      | cons c rest =>
          refine ⟨c, rest, rfl, ?_⟩
          rintro rfl
          exact absurd (hchars ':' List.mem_cons_self) (by decide)
  | literal hne hchars => exact ⟨_, _, rfl, by decide⟩

namespace BareIssuer

variable (b : BareIssuer)

theorem plain_of_mem_portText : ∀ c ∈ b.portText, Plain c := by
  intro c hc
  unfold portText at hc
  split at hc
  · cases hc
  · next digits hport =>
    rcases List.mem_cons.mp hc with rfl | hc
    · exact ⟨by decide, by decide, by decide, by decide, by decide⟩
    · exact plain_of_digit ((b.port_ok digits hport).2 c hc)

theorem plain_of_mem_authority : ∀ c ∈ b.authority, Plain c := by
  intro c hc
  rcases List.mem_append.mp hc with hc | hc
  · exact plain_of_mem_host b.host_ok c hc
  · exact b.plain_of_mem_portText c hc

theorem not_mem_colon_scheme : ':' ∉ b.scheme := by
  unfold scheme
  split
  · decide
  · decide

/-- No white space anywhere. -/
theorem not_isWhitespace_of_mem_text :
    ∀ c ∈ b.text, isWhitespace c = false := by
  intro c hc
  unfold text scheme at hc
  rcases List.mem_append.mp hc with hc | hc
  · split at hc
    · exact not_isWhitespace_of_all (by decide) c hc
    · exact not_isWhitespace_of_all (by decide) c hc
  · rcases List.mem_append.mp hc with hc | hc
    · exact not_isWhitespace_of_all (by decide) c hc
    · rcases List.mem_append.mp hc with hc | hc
      · exact (b.plain_of_mem_authority c hc).space
      · split at hc
        · rw [List.mem_singleton.mp hc]
          decide
        · cases hc

end BareIssuer

/-! ## The origin of an issuer -/

theorem splitAfterLast_eq_self {sep : Char} {cs : List Char}
    (h : sep ∉ cs) : (splitAfterLast sep cs).2 = cs := by
  have hempty := (splitAfterLast_append [] h).2
  exact hempty

/-- What an origin takes from behind the scheme. -/
def hostPart (rest : List Char) : List Char :=
  (splitAfterLast '@'
    (rest.takeWhile fun c => !(['/', '?', '#'].contains c))).2

/-- The origin of these two parts. -/
def originOf (scheme hostText : List Char) : Option String :=
  (defaultPort (scheme.map asciiLower)).bind fun port =>
    let hostPort := hostText.map asciiLower
    let hostPort := (stripSuffix port hostPort).getD hostPort
    if hostPort.isEmpty || hostPort.head? == some ':' then none
    else some (String.ofList
      (scheme.map asciiLower ++ "://".toList ++ hostPort))

theorem urlOrigin_eq (url : String) :
    urlOrigin url =
      (splitOnceAt "://".toList
        (trimMatches isWhitespace url.toList)).bind fun p =>
          originOf p.1 (hostPart p.2) := rfl

theorem splitOnceAt_scheme {scheme : List Char} (h : ':' ∉ scheme)
    (rest : List Char) :
    splitOnceAt "://".toList (scheme ++ ("://".toList ++ rest)) =
      some (scheme, rest) := by
  have hfirst : fromFirst "://".toList (scheme ++ ("://".toList ++ rest)) =
      some ("://".toList ++ rest) := by
    have hskip : fromFirst (':' :: "//".toList)
        (scheme ++ ("://".toList ++ rest)) =
          fromFirst (':' :: "//".toList) ("://".toList ++ rest) :=
      fromFirst_skip h _
    exact hskip.trans (fromFirst_of_front (by decide)
      (List.prefix_append _ _))
  unfold splitOnceAt
  rw [hfirst, Option.map_some, List.drop_left, List.length_append,
    Nat.add_sub_cancel, List.take_left]

theorem asciiLower_ne_colon {c : Char} (h : c ≠ ':') :
    asciiLower c ≠ ':' := by
  by_cases hupper : 'A' ≤ c ∧ c ≤ 'Z'
  · have hlower := asciiLower_of_upper hupper
    have hrange : 65 ≤ c.toNat ∧ c.toNat ≤ 90 := hupper
    intro heq
    rw [heq] at hlower
    have hcolon : ':'.toNat = 58 := rfl
    omega
  · have hsame : asciiLower c = c := if_neg hupper
    rw [hsame]
    exact h

theorem asciiLower_digit {c : Char} (h : '0' ≤ c ∧ c ≤ '9') :
    asciiLower c = c := by
  have hrange : 48 ≤ c.toNat ∧ c.toNat ≤ 57 := h
  refine if_neg fun hupper => ?_
  have hupper : 65 ≤ c.toNat ∧ c.toNat ≤ 90 := hupper
  omega

theorem not_mem_colon_digits {digits : List Char} (h : IssuerPort digits) :
    ':' ∉ digits := by
  intro hmem
  have hrange : 48 ≤ ':'.toNat ∧ ':'.toNat ≤ 57 := h.2 ':' hmem
  have hcolon : ':'.toNat = 58 := rfl
  omega

/-- A host in lower case does not end in a port. -/
theorem not_suffix_host {host digits : List Char} (hhost : IssuerHost host)
    (hdigits : IssuerPort digits) :
    ¬ ':' :: digits <:+ host.map asciiLower := by
  intro hsuffix
  cases hhost with
  | name hne hchars =>
      obtain ⟨c, hc, heq⟩ :=
        List.mem_map.mp (hsuffix.subset List.mem_cons_self)
      refine asciiLower_ne_colon ?_ heq
      rintro rfl
      exact absurd (hchars ':' hc) (by decide)
  | @literal cs hne hchars =>
      obtain ⟨front, hfront⟩ := hsuffix
      have hlast := congrArg List.getLast? hfront
      obtain ⟨d, hd⟩ := Option.isSome_iff_exists.mp
        (List.getLast?_isSome.mpr hdigits.1)
      have hdigit := hdigits.2 d (List.mem_of_getLast? hd)
      rw [List.getLast?_append, List.getLast?_cons, hd, List.map_cons,
        List.map_append, List.getLast?_cons, List.getLast?_append] at hlast
      have heq : d = ']' := Option.some.inj hlast
      rw [heq] at hdigit
      exact absurd hdigit (by decide)

namespace BareIssuer

variable (b : BareIssuer)

theorem issuerPort_defaultDigits : IssuerPort b.defaultDigits := by
  unfold defaultDigits
  split
  · exact issuerPort_of_all (by decide) (by decide)
  · exact issuerPort_of_all (by decide) (by decide)

theorem defaultPort_scheme :
    defaultPort (b.scheme.map asciiLower) =
      some (':' :: b.defaultDigits) := by
  unfold scheme defaultDigits
  split
  · rfl
  · rfl

theorem map_scheme : b.scheme.map asciiLower = b.scheme := by
  unfold scheme
  split
  · decide
  · decide

theorem map_portText : b.portText.map asciiLower = b.portText := by
  unfold portText
  split
  · rfl
  · next digits hport =>
    have hdigits := (b.port_ok digits hport).2
    have hsame : digits.map asciiLower = digits := by
      refine (List.map_congr_left fun c hc => ?_).trans (List.map_id _)
      exact asciiLower_digit (hdigits c hc)
    rw [List.map_cons, hsame]
    rfl

/-- A port that ends like the default one is the default one. -/
theorem port_of_text_eq {rest : List Char}
    (h : b.host.map asciiLower ++ b.portText =
      rest ++ ':' :: b.defaultDigits) : b.port = some b.defaultDigits := by
  unfold portText at h
  split at h
  · rw [List.append_nil] at h
    exact absurd ⟨rest, h.symm⟩
      (not_suffix_host b.host_ok b.issuerPort_defaultDigits)
  · next digits hport =>
    have hdefault := congrArg (fun cs => (splitAfterLast ':' cs).2) h
    rw [splitAfterLast_cons, splitAfterLast_cons,
      splitAfterLast_eq_self
        (not_mem_colon_digits (b.port_ok digits hport)),
      splitAfterLast_eq_self
        (not_mem_colon_digits b.issuerPort_defaultDigits)] at hdefault
    rw [hport, hdefault]

/-- The default port goes, and no other. -/
theorem stripSuffix_authority :
    (stripSuffix (':' :: b.defaultDigits)
        (b.authority.map asciiLower)).getD (b.authority.map asciiLower) =
      b.host.map asciiLower ++
        if b.port = some b.defaultDigits then [] else b.portText := by
  unfold authority
  rw [List.map_append, map_portText]
  split
  · next hport =>
    have htext : b.portText = ':' :: b.defaultDigits := by
      unfold portText
      rw [hport]
    rw [htext, stripSuffix_append, Option.getD_some, List.append_nil]
  · next hport =>
    have hnone : stripSuffix (':' :: b.defaultDigits)
        (b.host.map asciiLower ++ b.portText) = none := by
      cases hstrip : stripSuffix (':' :: b.defaultDigits)
          (b.host.map asciiLower ++ b.portText) with
      | none => rfl
      | some rest =>
          have heq := eq_append_of_stripSuffix hstrip
          refine absurd ?_ hport
          exact b.port_of_text_eq heq
    rw [hnone, Option.getD_none]

end BareIssuer

/-! ## Userinfo -/

/-- `scheme://userinfo@rest`. -/
def withUserinfo (scheme userinfo rest : List Char) : List Char :=
  scheme ++ ("://".toList ++ (userinfo ++ '@' :: rest))

/-- Nothing in it ends an authority. -/
def IsUserinfo (cs : List Char) : Prop :=
  ∀ c ∈ cs, c ∉ ['/', '?', '#']

/-- Where a text is split at its first `://` does not depend on what stands
behind some `://`. -/
theorem exists_splitOnceAt (scheme : List Char) :
    ∃ front mid, (mid = [] ∨ '/' ∈ mid) ∧
      ∀ rest, splitOnceAt "://".toList (scheme ++ ("://".toList ++ rest)) =
        some (front, mid ++ rest) := by
  have hne : fromFirst "://".toList (scheme ++ "://".toList) ≠ none := by
    intro hnone
    refine (fromFirst_eq_none (by decide)).mp hnone ?_
    exact (List.suffix_append scheme "://".toList).isInfix
  obtain ⟨tail, htail⟩ := Option.ne_none_iff_exists'.mp hne
  obtain ⟨mid, rfl⟩ := prefix_of_fromFirst htail
  obtain ⟨front, hfront⟩ := suffix_of_fromFirst htail
  refine ⟨front, mid, ?_, fun rest => ?_⟩
  · rcases List.eq_nil_or_concat mid with hnil | ⟨init, c, hmid⟩
    · exact .inl hnil
    · rw [List.concat_eq_append] at hmid
      have hmine : (front ++ ("://".toList ++ (init ++ [c]))).getLast? =
          some c := by
        rw [← List.append_assoc, ← List.append_assoc]
        exact List.getLast?_concat
      have hslash : (scheme ++ "://".toList).getLast? = some '/' := by
        rw [List.getLast?_append]
        rfl
      rw [← hfront, hmid, hmine] at hslash
      rw [hmid, Option.some.inj hslash]
      exact .inr (List.mem_append_right init List.mem_cons_self)
  · have hfirst := fromFirst_append_right htail rest
    have htext : scheme ++ ("://".toList ++ rest) =
        front ++ (("://".toList ++ mid) ++ rest) := by
      rw [← List.append_assoc, ← hfront, List.append_assoc]
    have hfirst : fromFirst "://".toList
        (scheme ++ ("://".toList ++ rest)) =
          some (("://".toList ++ mid) ++ rest) := by
      rw [← List.append_assoc]
      exact hfirst
    unfold splitOnceAt
    rw [hfirst, Option.map_some, htext, List.length_append,
      Nat.add_sub_cancel, List.take_left, List.append_assoc, List.drop_left]

/-- What stands before an `@` is no part of the host. -/
theorem hostPart_at {userinfo : List Char} (h : IsUserinfo userinfo)
    (rest : List Char) :
    hostPart (userinfo ++ '@' :: rest) = hostPart rest := by
  have hall : ∀ c ∈ userinfo, (!(['/', '?', '#'].contains c)) = true := by
    intro c hc
    rw [Bool.not_eq_true', Bool.eq_false_iff, ne_eq, List.contains_iff_mem]
    exact h c hc
  unfold hostPart
  rw [List.takeWhile_append_of_pos hall,
    List.takeWhile_cons_of_pos (by decide), splitAfterLast_cons]

theorem hostPart_userinfo {mid userinfo userinfo' : List Char}
    (hmid : mid = [] ∨ '/' ∈ mid) (h : IsUserinfo userinfo)
    (h' : IsUserinfo userinfo') (rest : List Char) :
    hostPart (mid ++ (userinfo ++ '@' :: rest)) =
      hostPart (mid ++ (userinfo' ++ '@' :: rest)) := by
  rcases hmid with rfl | hslash
  · rw [List.nil_append, List.nil_append, hostPart_at h, hostPart_at h']
  · have hstop : ∀ more,
        (mid ++ more).takeWhile (fun c => !(['/', '?', '#'].contains c)) =
          mid.takeWhile fun c => !(['/', '?', '#'].contains c) := by
      intro more
      rw [List.takeWhile_append, if_neg]
      intro hwhole
      have hall := List.takeWhile_eq_self_iff.mp
        ((List.takeWhile_prefix _).eq_of_length hwhole)
      exact absurd (hall '/' hslash) (by decide)
    unfold hostPart
    rw [hstop, hstop]

/-- The origin of a URL says nothing of its userinfo. -/
theorem urlOrigin_userinfo {url url' : String}
    {scheme userinfo userinfo' rest : List Char}
    (h : url.toList = withUserinfo scheme userinfo rest)
    (h' : url'.toList = withUserinfo scheme userinfo' rest)
    (huserinfo : IsUserinfo userinfo) (huserinfo' : IsUserinfo userinfo') :
    urlOrigin url = urlOrigin url' := by
  have htrim : ∀ u, trimMatches isWhitespace (withUserinfo scheme u rest) =
      scheme.dropWhile isWhitespace ++ ("://".toList ++
        (u ++ '@' :: (rest.reverse.dropWhile isWhitespace).reverse)) := by
    intro u
    exact trimMatches_between (by decide) (by decide) scheme
      ("//".toList ++ u) rest
  obtain ⟨front, mid, hmid, hsplit⟩ :=
    exists_splitOnceAt (scheme.dropWhile isWhitespace)
  rw [urlOrigin_eq, urlOrigin_eq, h, h', htrim, htrim, hsplit, hsplit,
    Option.bind_some, Option.bind_some,
    hostPart_userinfo hmid huserinfo huserinfo']

/-! ## Web URLs -/

/-- A web URL, the white space around it included: its scheme in any case,
its authority that of an origin, and in front of that perhaps userinfo. -/
structure WebUrl where
  base : BareIssuer
  scheme : List Char
  userinfo : Option (List Char)
  tail : List Char
  before : List Char
  after : List Char
  scheme_ok : scheme.map asciiLower = base.scheme
  userinfo_ok : ∀ u, userinfo = some u → IsUserinfo u
  tail_ok : ∀ c ∈ tail.head?, c ∈ ['/', '?', '#']
  before_ok : ∀ c ∈ before, isWhitespace c = true
  after_ok : ∀ c ∈ after, isWhitespace c = true

namespace WebUrl

variable (u : WebUrl)

def userinfoText : List Char :=
  match u.userinfo with
  | none => []
  | some userinfo => userinfo ++ ['@']

def text : List Char :=
  u.before ++ (u.scheme ++ ("://".toList ++
    (u.userinfoText ++ (u.base.authority ++ (u.tail ++ u.after)))))

/-- Lower case leaves white space and the colon alone. -/
theorem plain_of_mem_scheme {c : Char} (h : c ∈ u.scheme) :
    isWhitespace c = false ∧ c ≠ ':' := by
  have hlower : asciiLower c ∈ u.base.scheme := by
    rw [← u.scheme_ok]
    exact List.mem_map_of_mem h
  have hplain : isWhitespace (asciiLower c) = false ∧
      asciiLower c ≠ ':' := by
    refine ⟨?_, fun heq => u.base.not_mem_colon_scheme (heq ▸ hlower)⟩
    unfold BareIssuer.scheme at hlower
    split at hlower
    · exact not_isWhitespace_of_all (by decide) _ hlower
    · exact not_isWhitespace_of_all (by decide) _ hlower
  by_cases hupper : 'A' ≤ c ∧ c ≤ 'Z'
  · have hrange : 65 ≤ c.toNat ∧ c.toNat ≤ 90 := hupper
    refine ⟨?_, ?_⟩
    · simp only [isWhitespace, Bool.or_eq_false_iff, Bool.and_eq_false_iff,
        beq_eq_false_iff_ne, decide_eq_false_iff_not]
      omega
    · rintro rfl
      exact absurd hupper (by decide)
  · have hsame : asciiLower c = c := if_neg hupper
    rw [hsame] at hplain
    exact hplain

/-- What is left of the end of a web URL is no more of the authority. -/
theorem trimEnd_tail :
    ∀ c ∈ (((u.tail ++ u.after).reverse.dropWhile
      isWhitespace).reverse).head?, c ∈ ['/', '?', '#'] := by
  intro c hc
  have htail := u.tail_ok
  cases hu : u.tail with
  | nil =>
      have hafter : ∀ d ∈ u.after.reverse, isWhitespace d = true :=
        fun d hd => u.after_ok d (List.mem_reverse.mp hd)
      rw [hu, List.nil_append, List.dropWhile_eq_nil_iff.mpr hafter] at hc
      cases hc
  | cons d rest =>
      rw [hu] at htail
      have hd : d ∈ ['/', '?', '#'] := htail d rfl
      have hspace : isWhitespace d = false :=
        not_isWhitespace_of_all (by decide) d hd
      rw [hu, List.cons_append, List.reverse_cons,
        dropWhile_append_cons hspace, List.reverse_append] at hc
      cases hc
      exact hd

theorem trim_text :
    ∃ rest, (∀ c ∈ rest.head?, c ∈ ['/', '?', '#']) ∧
      trimMatches isWhitespace u.text =
        u.scheme ++ ("://".toList ++
          (u.userinfoText ++ (u.base.authority ++ rest))) := by
  refine ⟨_, u.trimEnd_tail, ?_⟩
  obtain ⟨c, cs, hhost, -⟩ := head_of_host u.base.host_ok
  have hne : u.base.authority ≠ [] := by
    rw [BareIssuer.authority, hhost]
    exact List.cons_ne_nil _ _
  obtain ⟨init, d, hlast⟩ :=
    (List.eq_nil_or_concat u.base.authority).resolve_left hne
  rw [List.concat_eq_append] at hlast
  have hd : isWhitespace d = false := by
    refine (u.base.plain_of_mem_authority d ?_).space
    rw [hlast]
    exact List.mem_append_right init List.mem_cons_self
  have hfront : (u.before ++ u.scheme).dropWhile isWhitespace = u.scheme := by
    rw [List.dropWhile_append_of_pos u.before_ok]
    exact dropWhile_eq_self fun e he => (u.plain_of_mem_scheme he).1
  have htrim := trimMatches_between (p := isWhitespace) (c := ':') (d := d)
    (by decide) hd (u.before ++ u.scheme)
    ("//".toList ++ (u.userinfoText ++ init)) (u.tail ++ u.after)
  rw [hfront] at htrim
  have htext : u.text = (u.before ++ u.scheme) ++ ':' ::
      (("//".toList ++ (u.userinfoText ++ init)) ++
        d :: (u.tail ++ u.after)) := by
    unfold text
    rw [hlast]
    simp
  rw [htext, htrim, hlast]
  simp

theorem hostPart_authority {rest : List Char}
    (h : ∀ c ∈ rest.head?, c ∈ ['/', '?', '#']) :
    hostPart (u.userinfoText ++ (u.base.authority ++ rest)) =
      u.base.authority := by
  have hplain : hostPart (u.base.authority ++ rest) = u.base.authority := by
    have htake : (u.base.authority ++ rest).takeWhile
        (fun c => !(['/', '?', '#'].contains c)) = u.base.authority := by
      refine takeWhile_host
        (fun c hc => (u.base.plain_of_mem_authority c hc).not_ends) ?_
      intro c hc
      rw [List.contains_iff_mem.mpr (h c hc)]
      rfl
    unfold hostPart
    rw [htake]
    exact splitAfterLast_eq_self fun hmem =>
      (u.base.plain_of_mem_authority _ hmem).userinfo rfl
  unfold userinfoText
  split
  · exact hplain
  · next userinfo huserinfo =>
    rw [List.append_assoc]
    exact (hostPart_at (u.userinfo_ok userinfo huserinfo) _).trans hplain

/-- The origin that is read off a web URL is the one it has. -/
theorem urlOrigin_text {url : String} (h : url.toList = u.text) :
    urlOrigin url = some u.base.origin := by
  obtain ⟨rest, hrest, htrim⟩ := u.trim_text
  have hcolon : ':' ∉ u.scheme := fun hmem =>
    (u.plain_of_mem_scheme hmem).2 rfl
  obtain ⟨c, cs, hhead, hhost⟩ := head_of_host u.base.host_ok
  have hlower := asciiLower_ne_colon hhost
  rw [urlOrigin_eq, h, htrim, splitOnceAt_scheme hcolon, Option.bind_some,
    u.hostPart_authority hrest]
  unfold originOf
  rw [u.scheme_ok, ← u.base.map_scheme, u.base.defaultPort_scheme,
    u.base.map_scheme, Option.bind_some]
  dsimp only
  rw [u.base.stripSuffix_authority,
    if_neg (by simp [hhead, hlower]), BareIssuer.origin, List.append_assoc]

end WebUrl

namespace BareIssuer

/-- A bare issuer is a web URL. -/
def webUrl (b : BareIssuer) : WebUrl where
  base := b
  scheme := b.scheme
  userinfo := none
  tail := if b.slash then ['/'] else []
  before := []
  after := []
  scheme_ok := b.map_scheme
  userinfo_ok := by simp
  tail_ok := by
    cases b.slash
    · simp
    · simp
  before_ok := by simp
  after_ok := by simp

theorem urlOrigin_text (b : BareIssuer) {issuer : String}
    (h : issuer.toList = b.text) : urlOrigin issuer = some b.origin := by
  refine b.webUrl.urlOrigin_text (h.trans ?_)
  show b.text = b.scheme ++ ("://".toList ++
    (b.authority ++ ((if b.slash then ['/'] else []) ++ [])))
  rw [List.append_nil]
  rfl

end BareIssuer

end McpgOperator.Gateway
