import McpgOperator.Proofs.IssuerShape

/-!
# When an issuer is aligned

The verdict looks at the shape of the issuer, at its origin and at the
resource. An issuer with a fault that the shape check lets through is called
aligned when it is read as an advertised origin, and every other verdict is
right.

Userinfo is read by neither: an `@` alone makes the shape wrong, and the origin
begins behind the last one.
-/

namespace McpgOperator.Gateway

open McpgOperator.Kube McpgOperator.Text McpgOperator.Url Json

/-! ## The verdict -/

/-- A rendered config with an issuer to judge and an origin to judge it
by. -/
structure Judged where
  rendered : Json
  authz : Json
  issuer : String
  block : rendered.getPath ["governance", "access", "authorization_server"] =
    some authz
  isObject : authz.asObject.isSome = true
  issuer_eq : (authz.get "issuer").bind Json.asStr = some issuer
  literal : hasPlaceholder issuer = false
  advertises : ∃ r ∈ advertisedResources rendered, (urlOrigin r).isSome = true

namespace Judged

variable (j : Judged)

/-- The condition is True. -/
def IsTrue : Prop :=
  ∃ c, authorizationServerAlignment j.rendered = some c ∧ c.status = "True"

/-- Some advertised resource has this origin. -/
def Serves (origin : String) : Prop :=
  ∃ r ∈ advertisedResources j.rendered, urlOrigin r = some origin

/-- A resource that is a literal and not blank is one that is advertised. -/
def ResourceMatches : Prop :=
  ∀ resource, (j.authz.get "resource").bind Json.asStr = some resource →
    trim resource ≠ "" → hasPlaceholder resource = false →
      ∃ r ∈ advertisedResources j.rendered,
        trimTrailingSlashes r = trimTrailingSlashes resource

/-- What True is to say: the issuer is an origin and nothing else, one the
instance is served at, and the resource is one it advertises. -/
def Aligned : Prop :=
  (∃ b : BareIssuer, j.issuer.toList = b.text ∧ j.Serves b.origin) ∧
    j.ResourceMatches

end Judged

theorem mem_foldl_origins {found origins : List String} {o : String} :
    o ∈ found.foldl
        (fun origins origin =>
          if origins.contains origin then origins else origins ++ [origin])
        origins ↔ o ∈ origins ∨ o ∈ found := by
  induction found generalizing origins with
  | nil => simp
  | cons first found ih =>
      rw [List.foldl_cons, ih, List.mem_cons]
      split
      · next hmem =>
        rw [List.contains_iff_mem] at hmem
        constructor
        · rintro (ho | ho)
          · exact .inl ho
          · exact .inr (.inr ho)
        · rintro (ho | rfl | ho)
          · exact .inl ho
          · exact .inl hmem
          · exact .inr ho
      · rw [List.mem_append, List.mem_singleton, or_assoc]

theorem mem_originsOf {advertised : List String} {o : String} :
    o ∈ originsOf advertised ↔ ∃ r ∈ advertised, urlOrigin r = some o := by
  unfold originsOf
  rw [mem_foldl_origins, List.mem_filterMap]
  exact or_iff_right List.not_mem_nil

theorem status_alignmentCondition (problems : List (String × String)) :
    (alignmentCondition problems).status = "True" ↔ problems = [] := by
  cases problems with
  | nil => exact iff_of_true rfl rfl
  | cons problem problems =>
      have hfalse : ¬ "False" = "True" := by decide
      exact iff_of_false hfalse (List.cons_ne_nil _ _)

theorem issuerShapeProblem_eq_none {issuer preferred : String} :
    issuerShapeProblem issuer preferred = none ↔
      ((urlOrigin issuer).isSome = true →
        isBareOriginIssuer issuer = true) := by
  unfold issuerShapeProblem
  rw [ite_eq_right_iff, Bool.and_eq_true, Bool.not_eq_true']
  constructor
  · intro h hsome
    by_contra hnot
    exact absurd (h ⟨hsome, eq_false_of_ne_true hnot⟩) (Option.some_ne_none _)
  · rintro h ⟨hsome, hnot⟩
    rw [h hsome] at hnot
    cases hnot

theorem issuerOriginProblem_eq_none {issuer preferred : String}
    {origins : List String} :
    issuerOriginProblem issuer preferred origins = none ↔
      ∃ o ∈ origins, urlOrigin issuer = some o := by
  unfold issuerOriginProblem
  cases urlOrigin issuer with
  | none => simp
  | some origin =>
      dsimp only
      rw [ite_eq_left_iff]
      simp

theorem resourceProblem_eq_none {authz : Json} {advertised : List String} :
    resourceProblem authz advertised = none ↔
      ∀ resource, (authz.get "resource").bind Json.asStr = some resource →
        trim resource ≠ "" → hasPlaceholder resource = false →
          ∃ r ∈ advertised,
            trimTrailingSlashes r = trimTrailingSlashes resource := by
  unfold resourceProblem
  cases hresource : (authz.get "resource").bind Json.asStr with
  | none =>
      refine iff_of_true rfl ?_
      intro resource h
      cases h
  | some resource =>
      rw [Option.filter_some]
      by_cases hkeep : (decide (trim resource ≠ "") &&
          !hasPlaceholder resource) = true
      · rw [if_pos hkeep]
        dsimp only
        rw [ite_eq_left_iff, imp_iff_not (Option.some_ne_none _),
          Bool.not_eq_true, Bool.not_eq_false, List.any_eq_true]
        rw [Bool.and_eq_true, decide_eq_true_eq, Bool.not_eq_true'] at hkeep
        simp only [beq_iff_eq]
        constructor
        · rintro hmem wanted heq - -
          cases heq
          exact hmem
        · intro h
          exact h resource rfl hkeep.1 hkeep.2
      · rw [if_neg hkeep]
        refine iff_of_true rfl ?_
        rintro wanted heq hne hliteral
        cases heq
        simp [hne, hliteral] at hkeep

namespace Judged

variable (j : Judged)

/-- The condition of a judged config, out of its problems. -/
theorem exists_alignment :
    ∃ preferred,
      (originsOf (advertisedResources j.rendered)).head? = some preferred ∧
      authorizationServerAlignment j.rendered = some (alignmentCondition
        ((issuerShapeProblem j.issuer preferred).toList ++
          (issuerOriginProblem j.issuer preferred
            (originsOf (advertisedResources j.rendered))).toList ++
          (resourceProblem j.authz
            (advertisedResources j.rendered)).toList)) := by
  obtain ⟨r, hr, hsome⟩ := j.advertises
  obtain ⟨o, ho⟩ := Option.isSome_iff_exists.mp hsome
  have hmem : o ∈ originsOf (advertisedResources j.rendered) :=
    mem_originsOf.mpr ⟨r, hr, ho⟩
  obtain ⟨preferred, hpreferred⟩ := Option.isSome_iff_exists.mp
    (List.isSome_head?.mpr (List.ne_nil_of_mem hmem))
  have hissuer : ((j.authz.get "issuer").bind Json.asStr).filter
      (fun v => !hasPlaceholder v) = some j.issuer := by
    rw [j.issuer_eq, Option.filter_some, j.literal]
    rfl
  have hauthz : (j.rendered.getPath
      ["governance", "access", "authorization_server"]).filter
        (fun v => v.asObject.isSome) = some j.authz := by
    rw [j.block, Option.filter_some, if_pos j.isObject]
  refine ⟨preferred, hpreferred, ?_⟩
  show ((j.rendered.getPath _).filter _).bind _ = _
  rw [hauthz, Option.bind_some]
  show (((j.authz.get "issuer").bind Json.asStr).filter _).bind _ = _
  rw [hissuer, Option.bind_some]
  show (originsOf (advertisedResources j.rendered)).head?.bind _ = _
  rw [hpreferred, Option.bind_some]

/-- The verdict in the words of the code. -/
theorem isTrue_iff :
    j.IsTrue ↔ (isBareOriginIssuer j.issuer = true ∧
      ∃ o, urlOrigin j.issuer = some o ∧ j.Serves o) ∧
        j.ResourceMatches := by
  obtain ⟨preferred, -, hcondition⟩ := j.exists_alignment
  unfold IsTrue
  rw [hcondition]
  simp only [Option.some.injEq, exists_eq_left']
  rw [status_alignmentCondition, List.append_eq_nil_iff,
    List.append_eq_nil_iff, Option.toList_eq_nil_iff,
    Option.toList_eq_nil_iff, Option.toList_eq_nil_iff,
    issuerShapeProblem_eq_none, issuerOriginProblem_eq_none,
    resourceProblem_eq_none]
  refine and_congr_left' ?_
  constructor
  · rintro ⟨hshape, o, hmem, ho⟩
    refine ⟨hshape ?_, o, ho, mem_originsOf.mp hmem⟩
    rw [ho]
    rfl
  · rintro ⟨hshape, o, ho, hserves⟩
    exact ⟨fun _ => hshape, o, mem_originsOf.mpr hserves, ho⟩

end Judged

/-- An `@` alone makes the shape wrong. -/
theorem not_isBareOriginIssuer_of_mem {issuer : String}
    (h : '@' ∈ issuer.toList) : isBareOriginIssuer issuer = false := by
  refine eq_false_of_ne_true fun hbare => ?_
  obtain ⟨secure, authority, slash, htext, hpasses⟩ :=
    isBareOriginIssuer_iff.mp hbare
  rw [htext, originText] at h
  have hauthority : '@' ∉ authority := fun hmem =>
    hpasses.free '@' hmem (by decide)
  have hscheme : '@' ∉ if secure then "https".toList else "http".toList := by
    cases secure
    · decide
    · decide
  have hslash : '@' ∉ if slash then ['/'] else [] := by
    cases slash
    · decide
    · decide
  have hcolon : '@' ∉ "://".toList := by decide
  simp only [List.mem_append] at h
  tauto

namespace Judged

variable (j : Judged)

/-- Two configs that differ, if at all, in the userinfo of the issuer. -/
structure SameButUserinfo (j k : Judged) : Prop where
  resource : k.authz.get "resource" = j.authz.get "resource"
  advertised :
    advertisedResources k.rendered = advertisedResources j.rendered
  issuers : ∃ scheme userinfo userinfo' rest,
    IsUserinfo userinfo ∧ IsUserinfo userinfo' ∧
      j.issuer.toList = withUserinfo scheme userinfo rest ∧
      k.issuer.toList = withUserinfo scheme userinfo' rest

/-- Neither the verdict nor the message depends on the userinfo. -/
def HidesUserinfo : Prop :=
  ∀ k : Judged, SameButUserinfo j k →
    authorizationServerAlignment k.rendered =
      authorizationServerAlignment j.rendered

theorem hidesUserinfo : j.HidesUserinfo := by
  rintro k ⟨hresource, hadvertised,
    scheme, userinfo, userinfo', rest, hfree, hfree', htext, htext'⟩
  have horigin : urlOrigin k.issuer = urlOrigin j.issuer :=
    urlOrigin_userinfo htext' htext hfree' hfree
  have hmem : ∀ u, '@' ∈ withUserinfo scheme u rest := by
    intro u
    unfold withUserinfo
    simp
  have hshape : isBareOriginIssuer k.issuer = isBareOriginIssuer j.issuer := by
    rw [not_isBareOriginIssuer_of_mem (by rw [htext']; exact hmem userinfo'),
      not_isBareOriginIssuer_of_mem (by rw [htext]; exact hmem userinfo)]
  obtain ⟨preferred, hpreferred, hj⟩ := j.exists_alignment
  obtain ⟨preferred', hpreferred', hk⟩ := k.exists_alignment
  rw [hadvertised, hpreferred] at hpreferred'
  rw [hj, hk, ← Option.some.inj hpreferred', hadvertised]
  unfold issuerShapeProblem issuerOriginProblem resourceProblem
  rw [horigin, hshape, hresource]

/-- The issuer has a blank at its end, a second port or a malformed host, and
an advertised resource has the origin it is read as. -/
def Disguised : Prop :=
  (∃ p : PassingIssuer, j.issuer.toList = p.text ∧ p.Fault ∧
    j.Serves p.origin) ∧ j.ResourceMatches

theorem isTrue_of_aligned (h : j.Aligned) : j.IsTrue := by
  obtain ⟨⟨b, hb, hserves⟩, hresource⟩ := h
  exact j.isTrue_iff.mpr ⟨⟨b.isBareOriginIssuer_text hb, b.origin,
    b.urlOrigin_text hb, hserves⟩, hresource⟩

theorem aligned_of_isTrue (hplain : ¬ j.Disguised) (h : j.IsTrue) :
    j.Aligned := by
  obtain ⟨⟨hbare, o, ho, hserves⟩, hresource⟩ := j.isTrue_iff.mp h
  obtain ⟨p, hp, rfl⟩ := exists_passingIssuer hbare ho
  have hfault : ¬ p.Fault := fun hfault =>
    hplain ⟨⟨p, hp, hfault, hserves⟩, hresource⟩
  obtain ⟨b, hb⟩ := p.exists_bareIssuer_iff.mpr hfault
  have hb : j.issuer.toList = b.text := hp.trans hb.symm
  have horigin : b.origin = p.origin :=
    Option.some.inj ((b.urlOrigin_text hb).symm.trans ho)
  exact ⟨⟨b, hb, horigin ▸ hserves⟩, hresource⟩

theorem isTrue_of_disguised (h : j.Disguised) : j.IsTrue := by
  obtain ⟨⟨p, hp, -, hserves⟩, hresource⟩ := h
  exact j.isTrue_iff.mpr ⟨⟨p.isBareOriginIssuer_text hp, p.origin,
    p.urlOrigin_text hp, hserves⟩, hresource⟩

theorem not_aligned_of_disguised (h : j.Disguised) : ¬ j.Aligned := by
  obtain ⟨⟨p, hp, hfault, -⟩, -⟩ := h
  rintro ⟨⟨b, hb, -⟩, -⟩
  exact p.exists_bareIssuer_iff.mp ⟨b, hb.symm.trans hp⟩ hfault

end Judged

/-- True says that the issuer is aligned, and no userinfo is told, unless the
issuer is one of those that are read as an advertised origin without being
one. -/
theorem aligned_iff_undisguised (j : Judged) :
    ((j.IsTrue ↔ j.Aligned) ∧ j.HidesUserinfo) ↔ ¬ j.Disguised := by
  constructor
  · rintro ⟨hiff, -⟩ hdisguised
    exact j.not_aligned_of_disguised hdisguised
      (hiff.mp (j.isTrue_of_disguised hdisguised))
  · intro hplain
    exact ⟨⟨j.aligned_of_isTrue hplain, j.isTrue_of_aligned⟩,
      j.hidesUserinfo⟩

/-! ### An issuer with a blank at its end -/

namespace Sample

/-- A config that advertises one resource, with this issuer. -/
def withIssuer (issuer : String) : Json :=
  .obj [("governance", .obj [("access", .obj [
    ("authorization_server", .obj [("issuer", .str issuer)]),
    ("resource_metadata", .obj [
      ("resource", .str "https://edge-1.mcpg.cloud/mcp")])])])]

def blankAtEnd : Judged where
  rendered := withIssuer "https://edge-1.mcpg.cloud "
  authz := .obj [("issuer", .str "https://edge-1.mcpg.cloud ")]
  issuer := "https://edge-1.mcpg.cloud "
  block := by decide +kernel
  isObject := rfl
  issuer_eq := by decide +kernel
  literal := by decide +kernel
  advertises := ⟨"https://edge-1.mcpg.cloud/mcp",
    by decide +kernel, by decide +kernel⟩

end Sample

/-- The origin is read from the trimmed issuer, the shape is not. -/
theorem not_aligned_blankAtEnd :
    ¬ ∀ j : Judged, (j.IsTrue ↔ j.Aligned) ∧ j.HidesUserinfo := by
  intro h
  have htrue : Sample.blankAtEnd.IsTrue := by
    refine Sample.blankAtEnd.isTrue_iff.mpr
      ⟨⟨by decide +kernel, "https://edge-1.mcpg.cloud", by decide +kernel,
        "https://edge-1.mcpg.cloud/mcp", by decide +kernel,
          by decide +kernel⟩, ?_⟩
    intro resource hresource
    cases hresource
  obtain ⟨⟨b, hb, -⟩, -⟩ := (h Sample.blankAtEnd).1.mp htrue
  have hblank : ' ' ∈ b.text := hb ▸ (by decide +kernel)
  have hspace := b.not_isWhitespace_of_mem_text ' ' hblank
  exact absurd hspace (by decide)

end McpgOperator.Gateway
