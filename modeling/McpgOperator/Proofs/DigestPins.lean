import McpgOperator.Plugin.OciPull

/-!
# Digest pins

A reference reads `host[:port]/path[:tag][@digest]`, and one character, the
`:`, introduces both a port and a tag. The repository is what is left once the
digest and the tag are gone. It carries no `@`, and after its last `/` no `:`,
so taking the repository of a repository changes nothing and the digest put
behind it is the one that is read back.
-/

namespace McpgOperator.Plugin

open McpgOperator.Text

/-! ## What the repository is -/

/-- The text of `repositoryOf` once the digest is gone. -/
def dropTag (repo : List Char) : List Char :=
  match splitOnce ':' (splitAfterLast '/' repo).2 with
  | some (beforeTag, _) => (splitAfterLast '/' repo).1 ++ beforeTag
  | none => repo

/-- What precedes the digest. -/
def beforeDigest (cs : List Char) : List Char :=
  match splitOnce '@' cs with
  | some (repo, _) => repo
  | none => cs

theorem toList_repositoryOf (reference : String) :
    (repositoryOf reference).toList =
      dropTag (beforeDigest reference.toList) := by
  unfold repositoryOf dropTag beforeDigest
  cases splitOnce '@' reference.toList with
  | none =>
      dsimp only
      cases splitOnce ':' (splitAfterLast '/' reference.toList).2 with
      | none => exact String.toList_ofList
      | some parts => exact String.toList_ofList
  | some halves =>
      dsimp only
      cases splitOnce ':' (splitAfterLast '/' halves.1).2 with
      | none => exact String.toList_ofList
      | some parts => exact String.toList_ofList

theorem beforeDigest_free (cs : List Char) : '@' ∉ beforeDigest cs := by
  unfold beforeDigest
  cases h : splitOnce '@' cs with
  | none => exact splitOnce_eq_none.mp h
  | some halves => exact (splitOnce_some h).2

theorem beforeDigest_append {name rest : List Char} (h : '@' ∉ name) :
    beforeDigest (name ++ '@' :: rest) = name := by
  unfold beforeDigest
  rw [splitOnce_append h]

theorem beforeDigest_of_free {name : List Char} (h : '@' ∉ name) :
    beforeDigest name = name := by
  unfold beforeDigest
  rw [splitOnce_eq_none.mpr h]

/-- The tag goes from its `:` on, when no `/` follows it. -/
theorem dropTag_append {name tag : List Char}
    (hname : ':' ∉ (splitAfterLast '/' name).2) (htag : '/' ∉ tag) :
    dropTag (name ++ ':' :: tag) = name := by
  have hfree : '/' ∉ ':' :: tag := by
    simp [htag]
  unfold dropTag
  obtain ⟨hfront, hlast⟩ := splitAfterLast_append name hfree
  rw [hlast, splitOnce_append hname, hfront]
  exact (splitAfterLast_spec '/' name).1

theorem dropTag_of_untagged {name : List Char}
    (h : ':' ∉ (splitAfterLast '/' name).2) : dropTag name = name := by
  unfold dropTag
  rw [splitOnce_eq_none.mpr h]

/-- Without a tag nothing is dropped; with one, what is left has none. -/
theorem dropTag_cases (repo : List Char) :
    ':' ∉ (splitAfterLast '/' (dropTag repo)).2 ∧
      ∃ tag, repo = dropTag repo ++ tag ∧
        (tag = [] ∨ ∃ t, tag = ':' :: t ∧ '/' ∉ t) := by
  obtain ⟨hparts, hslash⟩ := splitAfterLast_spec '/' repo
  cases htag : splitOnce ':' (splitAfterLast '/' repo).2 with
  | none =>
      have huntagged := splitOnce_eq_none.mp htag
      rw [dropTag_of_untagged huntagged]
      exact ⟨huntagged, [], (List.append_nil repo).symm, .inl rfl⟩
  | some parts =>
      obtain ⟨beforeTag, t⟩ := parts
      obtain ⟨hlast, hcolon⟩ := splitOnce_some htag
      have hdrop : dropTag repo =
          (splitAfterLast '/' repo).1 ++ beforeTag := by
        unfold dropTag
        rw [htag]
      rw [hlast, List.mem_append, List.mem_cons, not_or, not_or] at hslash
      obtain ⟨hbefore, -, ht⟩ := hslash
      refine ⟨?_, ':' :: t, ?_, .inr ⟨t, rfl, ht⟩⟩
      · rw [hdrop, (splitAfterLast_append _ hbefore).2,
          splitAfterLast_front '/' repo, List.nil_append]
        exact hcolon
      · rw [hdrop, List.append_assoc, ← hlast]
        exact hparts.symm

/-! ## The laws of a pin -/

theorem repositoryOf_free (reference : String) :
    '@' ∉ (repositoryOf reference).toList := by
  obtain ⟨-, tag, htag, -⟩ := dropTag_cases (beforeDigest reference.toList)
  rw [toList_repositoryOf]
  intro hmem
  have hfree := beforeDigest_free reference.toList
  rw [htag] at hfree
  exact hfree (List.mem_append_left _ hmem)

theorem toList_pinToDigest (reference digest : String) :
    (pinToDigest reference digest).toList =
      (repositoryOf reference).toList ++ '@' :: digest.toList := by
  have hat : "@".toList = ['@'] := rfl
  unfold pinToDigest
  rw [String.toList_append, String.toList_append, hat, List.append_assoc]
  rfl

theorem digestOf_pin (reference digest : String) :
    digestOf (pinToDigest reference digest) = some digest := by
  unfold digestOf
  rw [toList_pinToDigest, splitOnce_append (repositoryOf_free reference)]
  exact congrArg some String.ofList_toList

theorem repositoryOf_pin (reference digest : String) :
    repositoryOf (pinToDigest reference digest) = repositoryOf reference := by
  obtain ⟨huntagged, -⟩ := dropTag_cases (beforeDigest reference.toList)
  rw [← toList_repositoryOf] at huntagged
  apply String.toList_inj.mp
  rw [toList_repositoryOf, toList_pinToDigest,
    beforeDigest_append (repositoryOf_free reference),
    dropTag_of_untagged huntagged]

/-! ## References in their parts -/

/-- `intro` followed by the text, when there is one. -/
def optional (intro : Char) : Option String → List Char
  | some text => intro :: text.toList
  | none => []

/-- The parts of a reference. The `:` and `@` that separate them stand in none
of the parts they would cut. -/
structure ReferenceParts where
  host : String
  port : Option String
  path : String
  tag : Option String
  digest : Option String
  host_free : '@' ∉ host.toList
  port_free : '@' ∉ optional ':' port
  path_free : '@' ∉ path.toList ∧ ':' ∉ path.toList
  tag_free : '@' ∉ optional ':' tag ∧ '/' ∉ optional ':' tag

/-- `host[:port]/path`. -/
def ReferenceParts.name (p : ReferenceParts) : String :=
  String.ofList
    (p.host.toList ++ optional ':' p.port ++ '/' :: p.path.toList)

/-- `host[:port]/path[:tag][@digest]`. -/
def ReferenceParts.text (p : ReferenceParts) : String :=
  String.ofList
    (p.name.toList ++ optional ':' p.tag ++ optional '@' p.digest)

theorem ReferenceParts.name_free (p : ReferenceParts) :
    '@' ∉ p.name.toList := by
  unfold name
  rw [String.toList_ofList, List.mem_append, List.mem_append]
  rintro ((hhost | hport) | hpath)
  · exact p.host_free hhost
  · exact p.port_free hport
  · rcases List.mem_cons.mp hpath with heq | hmem
    · cases heq
    · exact p.path_free.1 hmem

/-- After the last `/` of the name stands a piece of the path, so the `:` of
the port is not looked at. -/
theorem ReferenceParts.name_untagged (p : ReferenceParts) :
    ':' ∉ (splitAfterLast '/' p.name.toList).2 := by
  unfold name
  rw [String.toList_ofList]
  intro hmem
  have hpath := (splitAfterLast_cons_suffix _ _).subset hmem
  exact p.path_free.2 hpath

theorem ReferenceParts.beforeDigest_text (p : ReferenceParts) :
    beforeDigest p.text.toList = p.name.toList ++ optional ':' p.tag := by
  have hfree : '@' ∉ p.name.toList ++ optional ':' p.tag := by
    intro hmem
    rcases List.mem_append.mp hmem with hname | htag
    · exact p.name_free hname
    · exact p.tag_free.1 htag
  unfold text
  rw [String.toList_ofList]
  cases p.digest with
  | none => rw [optional, List.append_nil, beforeDigest_of_free hfree]
  | some digest => exact beforeDigest_append hfree

theorem ReferenceParts.repositoryOf_text (p : ReferenceParts) :
    repositoryOf p.text = p.name := by
  apply String.toList_inj.mp
  rw [toList_repositoryOf, p.beforeDigest_text]
  have htag := p.tag_free.2
  revert htag
  cases p.tag with
  | none =>
      intro _
      rw [optional, List.append_nil]
      exact dropTag_of_untagged p.name_untagged
  | some tag =>
      intro hfree
      exact dropTag_append p.name_untagged
        (fun hmem => hfree (List.mem_cons_of_mem _ hmem))

/-- A pin is read back as it was put, keeps the repository and replaces an
earlier pin; and the repository of a reference is its host, port and path. -/
theorem pin_laws :
    (∀ reference digest later,
      digestOf (pinToDigest reference digest) = some digest ∧
      repositoryOf (pinToDigest reference digest) = repositoryOf reference ∧
      pinToDigest (pinToDigest reference digest) later =
        pinToDigest reference later) ∧
    ∀ parts : ReferenceParts, repositoryOf parts.text = parts.name := by
  refine ⟨fun reference digest later => ?_, fun parts => ?_⟩
  · refine ⟨digestOf_pin reference digest, repositoryOf_pin reference digest,
      ?_⟩
    exact congrArg (· ++ "@" ++ later) (repositoryOf_pin reference digest)
  · exact parts.repositoryOf_text

end McpgOperator.Plugin
