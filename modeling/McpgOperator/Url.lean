import McpgOperator.Text

/-!
# The host of a URL

What a client connects to when it is given a URL: the authority without
userinfo and port, in lower case, as the generic URI syntax has it. This is
no code of the operator's. It is what the operator's own reading of a URL is
compared with.
-/

namespace McpgOperator.Url

open McpgOperator.Text

/-- The authority ends here. -/
def endsAuthority (c : Char) : Bool := c == '/' || c == '?' || c == '#'

/-- The authority without userinfo and port; an IP literal keeps its
brackets. -/
def hostOfAuthority (authority : List Char) : List Char :=
  let hostPort := (splitAfterLast '@' authority).2
  if hostPort.head? = some '[' then hostPort.takeWhile (· ≠ ']') ++ [']']
  else hostPort.takeWhile (· ≠ ':')

/-- The host of an absolute URL; white space around the URL is no part of
it. -/
def urlHost (url : String) : Option String :=
  match afterFirst "://".toList (trimMatches isWhitespace url.toList) with
  | none => none
  | some rest =>
      let host :=
        hostOfAuthority (rest.takeWhile fun c => !endsAuthority c)
      if host.isEmpty then none
      else some (String.ofList (host.map asciiLower))

/-! ## Hosts that read the same everywhere -/

/-- A character of a host name in lower case. -/
def isHostChar (c : Char) : Bool :=
  ('a' ≤ c && c ≤ 'z') || ('0' ≤ c && c ≤ '9') || c == '-' || c == '.'

/-- Its code: of a lower-case letter, a digit, the hyphen or the dot. -/
theorem toNat_of_isHostChar {c : Char} (h : isHostChar c = true) :
    (97 ≤ c.toNat ∧ c.toNat ≤ 122) ∨ (48 ≤ c.toNat ∧ c.toNat ≤ 57) ∨
      c.toNat = 45 ∨ c.toNat = 46 := by
  simp only [isHostChar, Bool.or_eq_true, Bool.and_eq_true,
    decide_eq_true_eq, beq_iff_eq, Char.le_def, UInt32.le_iff_toNat_le] at h
  have ha : 'a'.val.toNat = 97 := rfl
  have hz : 'z'.val.toNat = 122 := rfl
  have h0 : '0'.val.toNat = 48 := rfl
  have h9 : '9'.val.toNat = 57 := rfl
  have hc : c.val.toNat = c.toNat := rfl
  rcases h with ((h | h) | rfl) | rfl
  · exact .inl (by omega)
  · exact .inr (.inl (by omega))
  · exact .inr (.inr (.inl rfl))
  · exact .inr (.inr (.inr rfl))

theorem ne_of_isHostChar {c d : Char} (hc : isHostChar c = true)
    (hd : isHostChar d = false) : c ≠ d := by
  rintro rfl
  rw [hc] at hd
  cases hd

theorem not_isWhitespace_of_isHostChar {c : Char}
    (h : isHostChar c = true) : isWhitespace c = false := by
  have hcode := toNat_of_isHostChar h
  simp only [isWhitespace, Bool.or_eq_false_iff, Bool.and_eq_false_iff,
    beq_eq_false_iff_ne, decide_eq_false_iff_not]
  omega

theorem asciiLower_of_isHostChar {c : Char} (h : isHostChar c = true) :
    asciiLower c = c := by
  have hcode := toNat_of_isHostChar h
  have hA : 'A'.val.toNat = 65 := rfl
  have hZ : 'Z'.val.toNat = 90 := rfl
  have hc : c.val.toNat = c.toNat := rfl
  unfold asciiLower
  rw [if_neg]
  simp only [Char.le_def, UInt32.le_iff_toNat_le]
  omega

theorem endsAuthority_of_isHostChar {c : Char} (h : isHostChar c = true) :
    endsAuthority c = false := by
  unfold endsAuthority
  rw [Bool.or_eq_false_iff, Bool.or_eq_false_iff]
  exact ⟨⟨beq_eq_false_iff_ne.mpr (ne_of_isHostChar h (by decide)),
    beq_eq_false_iff_ne.mpr (ne_of_isHostChar h (by decide))⟩,
    beq_eq_false_iff_ne.mpr (ne_of_isHostChar h (by decide))⟩

section Plain

variable {host : List Char}

theorem takeWhile_host {p : Char → Bool} {rest : List Char}
    (hhost : ∀ c ∈ host, p c = true) (hrest : ∀ c ∈ rest.head?, p c = false) :
    (host ++ rest).takeWhile p = host := by
  rw [List.takeWhile_append_of_pos hhost]
  cases rest with
  | nil => exact List.append_nil host
  | cons c rest =>
      have hc : p c = false := hrest c rfl
      rw [List.takeWhile_cons, hc]
      exact List.append_nil host

theorem hostOfAuthority_host (hhost : ∀ c ∈ host, isHostChar c = true) :
    hostOfAuthority host = host := by
  have hnone : ∀ d, isHostChar d = false →
      ∀ c ∈ host, decide (c ≠ d) = true := fun d hd c hc =>
    decide_eq_true (ne_of_isHostChar (hhost c hc) hd)
  have huserinfo : (splitAfterLast '@' host).2 = host := by
    have hrev : ∀ c ∈ host.reverse, decide (c ≠ '@') = true :=
      fun c hc => hnone '@' (by decide) c (List.mem_reverse.mp hc)
    have htake : (host.reverse ++ []).takeWhile (· ≠ '@') = host.reverse :=
      takeWhile_host hrev (fun _ h => nomatch h)
    rw [List.append_nil] at htake
    show (host.reverse.takeWhile (· ≠ '@')).reverse = host
    rw [htake, List.reverse_reverse]
  have hbracket : host.head? ≠ some '[' := by
    intro hhead
    exact ne_of_isHostChar (hhost '[' (List.mem_of_head? hhead)) (by decide)
      rfl
  have hport : (host ++ []).takeWhile (· ≠ ':') = host :=
    takeWhile_host (hnone ':' (by decide)) (fun _ h => nomatch h)
  rw [List.append_nil] at hport
  unfold hostOfAuthority
  dsimp only
  rw [huserinfo, if_neg hbracket, hport]

/-- Trimming goes no further back than to a character that is no white
space. -/
theorem dropWhile_append_cons {p : Char → Bool} {c : Char}
    (hc : p c = false) (front back : List Char) :
    (front ++ c :: back).dropWhile p = front.dropWhile p ++ c :: back := by
  induction front with
  | nil => rw [List.nil_append, List.dropWhile_cons, hc]; rfl
  | cons d front ih =>
      rw [List.cons_append, List.dropWhile_cons, List.dropWhile_cons]
      split
      · exact ih
      · rfl

/-- Nothing between two such characters is trimmed. -/
theorem trimMatches_between {p : Char → Bool} {c d : Char}
    (hc : p c = false) (hd : p d = false) (front mid back : List Char) :
    trimMatches p (front ++ c :: (mid ++ d :: back)) =
      front.dropWhile p ++
        c :: (mid ++ d :: (back.reverse.dropWhile p).reverse) := by
  have hrev : (front.dropWhile p ++ c :: (mid ++ d :: back)).reverse =
      back.reverse ++ d :: (front.dropWhile p ++ c :: mid).reverse := by
    simp
  unfold trimMatches
  rw [dropWhile_append_cons hc, hrev, dropWhile_append_cons hd]
  simp

/-- A text that begins with no white space loses only what follows the last
such character. -/
theorem trimMatches_append_cons {p : Char → Bool} {c d : Char}
    (hd : p d = false) (hc : p c = false) (front back : List Char) :
    trimMatches p (d :: front ++ c :: back) =
      d :: front ++ c :: (back.reverse.dropWhile p).reverse :=
  trimMatches_between hd hc [] front back

/-- After the host, nothing or a path. -/
def PathOrEnd (rest : List Char) : Prop := rest = [] ∨ rest.head? = some '/'

theorem PathOrEnd.stops {rest : List Char} (h : PathOrEnd rest) :
    ∀ c ∈ rest.head?, endsAuthority c = true := by
  intro c hc
  rcases h with rfl | hslash
  · cases hc
  · rw [hslash] at hc
    cases hc
    rfl

theorem trimEnd_host {rest : List Char}
    (hhost : ∀ c ∈ host, isHostChar c = true) (hrest : PathOrEnd rest) :
    ∃ rest', PathOrEnd rest' ∧
      ((host ++ rest).reverse.dropWhile isWhitespace).reverse =
        host ++ rest' := by
  cases rest with
  | nil =>
      have hrev : ∀ c ∈ host.reverse, isWhitespace c = false := fun c hc =>
        not_isWhitespace_of_isHostChar (hhost c (List.mem_reverse.mp hc))
      refine ⟨[], .inl rfl, ?_⟩
      rw [List.append_nil, dropWhile_eq_self hrev, List.reverse_reverse]
  | cons c rest =>
      have hc : c = '/' := by
        rcases hrest with hnil | hslash
        · cases hnil
        · exact Option.some.inj hslash
      subst hc
      refine ⟨'/' :: (rest.reverse.dropWhile isWhitespace).reverse,
        .inr rfl, ?_⟩
      rw [List.reverse_append, List.reverse_cons, List.append_assoc,
        List.singleton_append, dropWhile_append_cons (by decide),
        List.reverse_append, List.reverse_cons, List.reverse_reverse,
        List.append_assoc, List.singleton_append]

theorem afterFirst_scheme {scheme : List Char}
    (h : scheme = "http".toList ∨ scheme = "https".toList)
    (text : List Char) :
    afterFirst "://".toList (scheme ++ ("://".toList ++ text)) =
      some text := by
  rcases h with rfl | rfl <;> rfl

/-- The host of a web URL whose authority is a plain host, or empty. -/
theorem urlHost_eq {scheme rest : List Char}
    (hscheme : scheme = "http".toList ∨ scheme = "https".toList)
    (hhost : ∀ c ∈ host, isHostChar c = true) (hrest : PathOrEnd rest) :
    urlHost (String.ofList (scheme ++ ("://".toList ++ (host ++ rest)))) =
      if host.isEmpty then none else some (String.ofList host) := by
  obtain ⟨rest', hrest', hend⟩ := trimEnd_host hhost hrest
  have htrim : trimMatches isWhitespace
        (scheme ++ ("://".toList ++ (host ++ rest))) =
      scheme ++ ("://".toList ++ (host ++ rest')) := by
    rcases hscheme with rfl | rfl
    · have h := trimMatches_append_cons (p := isWhitespace) (d := 'h')
        (c := '/') (by decide) (by decide) "ttp:/".toList (host ++ rest)
      rw [hend] at h
      exact h
    · have h := trimMatches_append_cons (p := isWhitespace) (d := 'h')
        (c := '/') (by decide) (by decide) "ttps:/".toList (host ++ rest)
      rw [hend] at h
      exact h
  have htext : trimMatches isWhitespace (String.ofList
      (scheme ++ ("://".toList ++ (host ++ rest)))).toList =
        scheme ++ ("://".toList ++ (host ++ rest')) :=
    (congrArg _ String.toList_ofList).trans htrim
  have htake : (host ++ rest').takeWhile (fun c => !endsAuthority c) =
      host := by
    refine takeWhile_host (fun c hc => ?_) fun c hc => ?_
    · rw [endsAuthority_of_isHostChar (hhost c hc)]
      rfl
    · rw [hrest'.stops c hc]
      rfl
  have hlower : host.map asciiLower = host := by
    refine (List.map_congr_left fun c hc => ?_).trans (List.map_id host)
    exact asciiLower_of_isHostChar (hhost c hc)
  unfold urlHost
  rw [htext, afterFirst_scheme hscheme]
  dsimp only
  rw [htake, hostOfAuthority_host hhost, hlower]

end Plain

end McpgOperator.Url
