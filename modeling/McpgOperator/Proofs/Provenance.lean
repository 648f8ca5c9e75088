import McpgOperator.Lib.Base64
import McpgOperator.Lib.Except
import McpgOperator.Plugin.Reconcile
import McpgOperator.Plugin.Slsa

/-!
# The provenance decision

The loop over the attestation lines stops at the first statement it accepts
and at the first line that does not decode, so its outcome is that of the
first accepted one among the statements before the first bad line.

What a statement has to say is the same for both formats: an accepted type, the
artefact among its subjects, the configured source, and the configured ref. The
ref of a statement is its explicit `ref`, and only without one the field the
format falls back on. That is how the v1 branch reads it; the v0.2 branch
takes the fallback first. The two readings part on a v0.2 statement with both
fields of which one is the tag, and the decision is right as long as no such
statement is looked at.
-/

namespace McpgOperator.Plugin.Slsa

open McpgOperator.Kube McpgOperator.Text

/-! ## What a statement says -/

/-- The object a statement's format describes the source in. -/
def InTotoStatement.source (stmt : InTotoStatement) : Option Json :=
  if stmt.predicateType = slsaV1Predicate then
    ((stmt.predicate.get "buildDefinition").bind
      (·.get "externalParameters")).bind (·.get "source")
  else (stmt.predicate.get "invocation").bind (·.get "configSource")

/-- A text field of that object. -/
def InTotoStatement.field (stmt : InTotoStatement) (key : String) :
    Option String :=
  (stmt.source.bind (·.get key)).bind Json.asStr

def InTotoStatement.sourceUri (stmt : InTotoStatement) : Option String :=
  stmt.field
    (if stmt.predicateType = slsaV1Predicate then "repository" else "uri")

def InTotoStatement.explicitRef (stmt : InTotoStatement) : Option String :=
  stmt.field "ref"

def InTotoStatement.fallbackRef (stmt : InTotoStatement) : Option String :=
  stmt.field
    (if stmt.predicateType = slsaV1Predicate then "digest" else "entryPoint")

/-- The ref of the source a statement is about. -/
def InTotoStatement.sourceRef (stmt : InTotoStatement) : Option String :=
  stmt.explicitRef.or stmt.fallbackRef

/-- The statement is of an accepted type, about the artefact, built from the
configured source. -/
structure About (artefactSha : String) (policy : SlsaProvenance)
    (stmt : InTotoStatement) : Prop where
  accepted : stmt.predicateType = slsaV1Predicate ∨
    stmt.predicateType = slsaV02Predicate
  subject : ∃ s ∈ stmt.subject, ∃ h, s.digest.sha256 = some h ∧
    eqIgnoreAsciiCase h artefactSha = true
  uri : stmt.sourceUri = some policy.sourceUri

/-- And from the configured ref. -/
structure Vouches (artefactSha : String) (policy : SlsaProvenance)
    (stmt : InTotoStatement) : Prop where
  about : About artefactSha policy stmt
  ref : stmt.sourceRef = some policy.sourceTag

/-- A v0.2 statement with both fields, one of which is the tag and the other
not. -/
structure Ambiguous (artefactSha : String) (policy : SlsaProvenance)
    (stmt : InTotoStatement) : Prop where
  about : About artefactSha policy stmt
  old : stmt.predicateType = slsaV02Predicate
  both : ∃ explicit entry, stmt.explicitRef = some explicit ∧
    stmt.fallbackRef = some entry ∧
      ¬ (explicit = policy.sourceTag ↔ entry = policy.sourceTag)

/-! ## What the code makes of a statement -/

/-- The three checks of the loop. -/
def accepts (artefactSha : String) (policy : SlsaProvenance)
    (stmt : InTotoStatement) : Bool :=
  (acceptedPredicate stmt.predicateType).any fun matchedPredicate =>
    subjectMatches stmt.subject artefactSha &&
      predicateSourceMatches matchedPredicate stmt.predicate policy

/-- The ref as the code reads it. -/
def InTotoStatement.readRef (stmt : InTotoStatement) : Option String :=
  if stmt.predicateType = slsaV1Predicate then
    stmt.explicitRef.or stmt.fallbackRef
  else stmt.fallbackRef.or stmt.explicitRef

section Decision

variable {artefactSha : String} {policy : SlsaProvenance}
  {stmt : InTotoStatement}

theorem subjectMatches_iff {subjects : List Subject} :
    subjectMatches subjects artefactSha = true ↔
      ∃ s ∈ subjects, ∃ h, s.digest.sha256 = some h ∧
        eqIgnoreAsciiCase h artefactSha = true := by
  unfold subjectMatches
  rw [List.any_eq_true]
  simp only [Option.any_eq_true]

theorem v02_ne_v1 : slsaV02Predicate ≠ slsaV1Predicate := by decide

theorem sourceMatches_v1 (htype : stmt.predicateType = slsaV1Predicate) :
    slsaV1SourceMatches stmt.predicate policy = true ↔
      stmt.sourceUri = some policy.sourceUri ∧
        stmt.readRef = some policy.sourceTag := by
  unfold InTotoStatement.sourceUri InTotoStatement.readRef
    InTotoStatement.explicitRef InTotoStatement.fallbackRef
    InTotoStatement.field InTotoStatement.source slsaV1SourceMatches
  simp only [htype, if_true]
  cases ((stmt.predicate.get "buildDefinition").bind
      (·.get "externalParameters")).bind (·.get "source") with
  | none => simp
  | some source => simp

theorem sourceMatches_v02 (htype : stmt.predicateType = slsaV02Predicate) :
    slsaV02SourceMatches stmt.predicate policy = true ↔
      stmt.sourceUri = some policy.sourceUri ∧
        stmt.readRef = some policy.sourceTag := by
  unfold InTotoStatement.sourceUri InTotoStatement.readRef
    InTotoStatement.explicitRef InTotoStatement.fallbackRef
    InTotoStatement.field InTotoStatement.source slsaV02SourceMatches
  simp only [htype, v02_ne_v1, if_false]
  cases (stmt.predicate.get "invocation").bind (·.get "configSource") with
  | none => simp
  | some cfg => simp

theorem accepts_iff :
    accepts artefactSha policy stmt = true ↔
      About artefactSha policy stmt ∧
        stmt.readRef = some policy.sourceTag := by
  unfold accepts acceptedPredicate
  by_cases hv1 : stmt.predicateType = slsaV1Predicate
  · rw [if_pos hv1, Option.any_some, Bool.and_eq_true, subjectMatches_iff,
      predicateSourceMatches, if_pos rfl, sourceMatches_v1 hv1]
    constructor
    · rintro ⟨hsubject, huri, href⟩
      exact ⟨⟨.inl hv1, hsubject, huri⟩, href⟩
    · rintro ⟨⟨-, hsubject, huri⟩, href⟩
      exact ⟨hsubject, huri, href⟩
  · rw [if_neg hv1]
    by_cases hv02 : stmt.predicateType = slsaV02Predicate
    · rw [if_pos hv02, Option.any_some, Bool.and_eq_true,
        subjectMatches_iff, predicateSourceMatches, if_neg v02_ne_v1,
        if_pos rfl, sourceMatches_v02 hv02]
      constructor
      · rintro ⟨hsubject, huri, href⟩
        exact ⟨⟨.inr hv02, hsubject, huri⟩, href⟩
      · rintro ⟨⟨-, hsubject, huri⟩, href⟩
        exact ⟨hsubject, huri, href⟩
    · rw [if_neg hv02]
      refine iff_of_false (by simp) ?_
      rintro ⟨⟨hv1' | hv02', -, -⟩, -⟩
      · exact hv1 hv1'
      · exact hv02 hv02'

/-- Without an ambiguity both readings give the ref. -/
theorem readRef_iff (habout : About artefactSha policy stmt)
    (h : ¬ Ambiguous artefactSha policy stmt) :
    stmt.readRef = some policy.sourceTag ↔
      stmt.sourceRef = some policy.sourceTag := by
  unfold InTotoStatement.readRef InTotoStatement.sourceRef
  by_cases hv1 : stmt.predicateType = slsaV1Predicate
  · rw [if_pos hv1]
  · rw [if_neg hv1]
    have hv02 := habout.accepted.resolve_left hv1
    cases hexplicit : stmt.explicitRef with
    | none => rw [Option.or_none, Option.none_or]
    | some explicit =>
        cases hentry : stmt.fallbackRef with
        | none => rw [Option.none_or, Option.or_none]
        | some entry =>
            rw [Option.some_or, Option.some_or, Option.some.injEq,
              Option.some.injEq]
            by_contra hdiffer
            exact h ⟨habout, hv02, explicit, entry, hexplicit, hentry,
              fun hsame => hdiffer hsame.symm⟩

theorem accepts_iff_vouches (h : ¬ Ambiguous artefactSha policy stmt) :
    accepts artefactSha policy stmt = true ↔
      Vouches artefactSha policy stmt := by
  rw [accepts_iff]
  constructor
  · rintro ⟨habout, href⟩
    exact ⟨habout, (readRef_iff habout h).mp href⟩
  · rintro ⟨habout, href⟩
    exact ⟨habout, (readRef_iff habout h).mpr href⟩

/-- Where the readings part, the explicit ref says the opposite of what the
code decides. -/
theorem Ambiguous.explicitRef (h : Ambiguous artefactSha policy stmt) :
    ∃ explicit, stmt.explicitRef = some explicit ∧
      (accepts artefactSha policy stmt = true ↔
        explicit ≠ policy.sourceTag) := by
  obtain ⟨explicit, entry, hexplicit, hentry, hdiffer⟩ := h.both
  have hv1 : stmt.predicateType ≠ slsaV1Predicate := by
    rw [h.old]
    exact v02_ne_v1
  refine ⟨explicit, hexplicit, ?_⟩
  rw [accepts_iff, InTotoStatement.readRef, if_neg hv1, hentry,
    Option.some_or, Option.some.injEq, and_iff_right h.about]
  by_cases hentry' : entry = policy.sourceTag
  · exact iff_of_true hentry' fun hexplicit' =>
      hdiffer (iff_of_true hexplicit' hentry')
  · refine iff_of_false hentry' (not_not_intro ?_)
    by_contra hexplicit'
    exact hdiffer (iff_of_false hexplicit' hentry')

/-! ## The loop -/

/-- The statements of the lines up to the first that does not decode; blank
lines are none. -/
def statements (lib : SlsaLib) (i : Nat) : List String → List InTotoStatement
  | [] => []
  | line :: rest =>
      if trim line = "" then statements lib (i + 1) rest
      else
        match decodeLine lib (i + 1) (trim line) with
        | .error _ => []
        | .ok stmt => stmt :: statements lib (i + 1) rest

variable {lib : SlsaLib}

/-- A loop over lines has the outcome of the first accepted statement. -/
def EndsAtFirst (artefactSha : String) (policy : SlsaProvenance)
    (stmts : List InTotoStatement) (total : Nat)
    (outcome : Except SlsaError SlsaVerifyResult) : Prop :=
  (∀ r, outcome = .ok r →
    ∃ k, stmts.findIdx? (accepts artefactSha policy) = some k ∧
      r.envelopesTotal = total + k + 1) ∧
  ∀ k, stmts.findIdx? (accepts artefactSha policy) = some k →
    ∃ r, outcome = .ok r ∧ r.envelopesTotal = total + k + 1

theorem EndsAtFirst.skip {stmts : List InTotoStatement} {total : Nat}
    {outcome : Except SlsaError SlsaVerifyResult}
    (hstmt : accepts artefactSha policy stmt = false)
    (h : EndsAtFirst artefactSha policy stmts (total + 1) outcome) :
    EndsAtFirst artefactSha policy (stmt :: stmts) total outcome := by
  have hcons : (stmt :: stmts).findIdx? (accepts artefactSha policy) =
      (stmts.findIdx? (accepts artefactSha policy)).map (· + 1) := by
    rw [List.findIdx?_cons, hstmt]
    rfl
  refine ⟨fun r hr => ?_, fun k hk => ?_⟩
  · obtain ⟨k, hk, htotal⟩ := h.1 r hr
    refine ⟨k + 1, ?_, by omega⟩
    rw [hcons, hk]
    rfl
  · rw [hcons, Option.map_eq_some_iff] at hk
    obtain ⟨j, hj, rfl⟩ := hk
    obtain ⟨r, hr, htotal⟩ := h.2 j hj
    exact ⟨r, hr, by omega⟩

theorem EndsAtFirst.stop {stmts : List InTotoStatement} {total : Nat}
    {matchedPredicate : String}
    (hstmt : accepts artefactSha policy stmt = true) :
    EndsAtFirst artefactSha policy (stmt :: stmts) total
      (.ok { envelopesTotal := total + 1
             matchedPredicateType := matchedPredicate }) := by
  have hcons : (stmt :: stmts).findIdx? (accepts artefactSha policy) =
      some 0 := by
    rw [List.findIdx?_cons, hstmt]
    rfl
  refine ⟨fun r hr => ⟨0, hcons, ?_⟩, fun k hk => ?_⟩
  · cases hr
    rfl
  · rw [hcons] at hk
    cases hk
    exact ⟨_, rfl, rfl⟩

theorem EndsAtFirst.error {total : Nat} {e : SlsaError} :
    EndsAtFirst artefactSha policy [] total (.error e) := by
  refine ⟨fun r h => ?_, fun k h => ?_⟩
  · cases h
  · cases h

theorem verifyLines_spec (i total matched : Nat) (ls : List String) :
    EndsAtFirst artefactSha policy (statements lib i ls) total
      (verifyLines lib artefactSha policy i total matched ls) := by
  induction ls generalizing i total matched with
  | nil => exact .error
  | cons line rest ih =>
      rw [verifyLines, statements]
      by_cases hblank : trim line = ""
      · rw [if_pos hblank, if_pos hblank]
        exact ih (i + 1) total matched
      rw [if_neg hblank, if_neg hblank]
      cases decodeLine lib (i + 1) (trim line) with
      | error e => exact .error
      | ok stmt =>
          dsimp only
          cases htype : acceptedPredicate stmt.predicateType with
          | none =>
              have hskip : accepts artefactSha policy stmt = false := by
                rw [accepts, htype]
                rfl
              exact (ih (i + 1) (total + 1) matched).skip hskip
          | some matchedPredicate =>
              have haccepts : accepts artefactSha policy stmt =
                  (subjectMatches stmt.subject artefactSha &&
                    predicateSourceMatches matchedPredicate stmt.predicate
                      policy) := by
                rw [accepts, htype]
                rfl
              dsimp only
              cases hsubject : subjectMatches stmt.subject artefactSha with
              | false =>
                  rw [hsubject] at haccepts
                  exact (ih (i + 1) (total + 1) (matched + 1)).skip haccepts
              | true =>
                  cases hsource : predicateSourceMatches matchedPredicate
                      stmt.predicate policy with
                  | false =>
                      rw [hsubject, hsource] at haccepts
                      exact (ih (i + 1) (total + 1) (matched + 1)).skip
                        haccepts
                  | true =>
                      rw [hsubject, hsource] at haccepts
                      exact .stop haccepts

/-! ## Lines and their statements -/

/-- The line decodes to the statement. -/
def DecodesTo (lib : SlsaLib) (line : String) (stmt : InTotoStatement) :
    Prop :=
  ∃ envelope payload, lib.envelopeFromStr (trim line) = .ok envelope ∧
    lib.base64Decode (trim envelope.payload) = .ok payload ∧
      lib.statementFromSlice payload = .ok stmt

theorem decodeLine_eq_ok {number : Nat} {line : String} :
    decodeLine lib number (trim line) = .ok stmt ↔
      DecodesTo lib line stmt := by
  constructor
  · intro h
    obtain ⟨envelope, henvelope, h₁⟩ := Except.of_bind_ok h
    obtain ⟨payload, hpayload, h₂⟩ := Except.of_bind_ok h₁
    exact ⟨envelope, payload, Except.of_mapError_ok henvelope,
      Except.of_mapError_ok hpayload, Except.of_mapError_ok h₂⟩
  · rintro ⟨envelope, payload, henvelope, hpayload, hstmt⟩
    unfold decodeLine
    rw [henvelope]
    show ((lib.base64Decode (trim envelope.payload)).mapError _ >>= _) = _
    rw [hpayload]
    show (lib.statementFromSlice payload).mapError _ = _
    rw [hstmt]
    rfl

/-- A statement is one of those before the first bad line when its line is
not blank and all earlier ones are blank or decode. -/
def ReadAt (lib : SlsaLib) (ls : List String) (stmt : InTotoStatement) :
    Prop :=
  ∃ before line after, ls = before ++ line :: after ∧
    (∀ l ∈ before, trim l = "" ∨ ∃ s, DecodesTo lib l s) ∧
      trim line ≠ "" ∧ DecodesTo lib line stmt

theorem ReadAt.cons {line : String} {rest : List String}
    (hline : trim line = "" ∨ ∃ s, DecodesTo lib line s)
    (h : ReadAt lib rest stmt) : ReadAt lib (line :: rest) stmt := by
  obtain ⟨before, at_, after, rfl, hbefore, hat⟩ := h
  refine ⟨line :: before, at_, after, rfl, fun l hl => ?_, hat⟩
  rcases List.mem_cons.mp hl with rfl | hl
  · exact hline
  · exact hbefore l hl

theorem ReadAt.of_cons {line : String} {rest : List String}
    (h : ReadAt lib (line :: rest) stmt) :
    trim line ≠ "" ∧ DecodesTo lib line stmt ∨
      (trim line = "" ∨ ∃ s, DecodesTo lib line s) ∧
        ReadAt lib rest stmt := by
  obtain ⟨before, at_, after, hparts, hbefore, hat⟩ := h
  cases before with
  | nil =>
      obtain ⟨rfl, rfl⟩ := List.cons.inj hparts
      exact .inl hat
  | cons first before =>
      obtain ⟨rfl, rfl⟩ := List.cons.inj hparts
      exact .inr ⟨hbefore _ List.mem_cons_self, before, at_, after, rfl,
        fun l hl => hbefore l (List.mem_cons_of_mem _ hl), hat⟩

theorem mem_statements {i : Nat} {ls : List String} :
    stmt ∈ statements lib i ls ↔ ReadAt lib ls stmt := by
  induction ls generalizing i with
  | nil =>
      refine iff_of_false List.not_mem_nil ?_
      rintro ⟨before, line, after, hparts, -⟩
      simp at hparts
  | cons line rest ih =>
      rw [statements]
      by_cases hblank : trim line = ""
      · rw [if_pos hblank, ih]
        refine ⟨fun h => h.cons (.inl hblank), fun h => ?_⟩
        rcases h.of_cons with ⟨hline, -⟩ | ⟨-, hrest⟩
        · exact absurd hblank hline
        · exact hrest
      rw [if_neg hblank]
      cases hline : decodeLine lib (i + 1) (trim line) with
      | error e =>
          have hnone : ∀ s, ¬ DecodesTo lib line s := by
            intro s hs
            rw [decodeLine_eq_ok.mpr hs] at hline
            cases hline
          refine iff_of_false List.not_mem_nil fun h => ?_
          rcases h.of_cons with ⟨-, hstmt⟩ | ⟨hblank' | ⟨s, hs⟩, -⟩
          · exact hnone _ hstmt
          · exact hblank hblank'
          · exact hnone s hs
      | ok first =>
          have hfirst := decodeLine_eq_ok.mp hline
          dsimp only
          rw [List.mem_cons, ih]
          constructor
          · rintro (rfl | hrest)
            · exact ⟨[], line, rest, rfl, by simp, hblank, hfirst⟩
            · exact hrest.cons (.inr ⟨first, hfirst⟩)
          · intro h
            rcases h.of_cons with ⟨-, hstmt⟩ | ⟨-, hrest⟩
            · have hsame : decodeLine lib (i + 1) (trim line) = .ok stmt :=
                decodeLine_eq_ok.mpr hstmt
              rw [hline] at hsame
              exact .inl (Except.ok.inj hsame).symm
            · exact .inr hrest

theorem statements_of_blank {i : Nat} {ls : List String}
    (h : ∀ line ∈ ls, trim line = "") : statements lib i ls = [] := by
  induction ls generalizing i with
  | nil => rfl
  | cons line rest ih =>
      rw [statements, if_pos (h line List.mem_cons_self)]
      exact ih fun l hl => h l (List.mem_cons_of_mem line hl)

theorem verify_spec (jsonl : String) :
    EndsAtFirst artefactSha policy (statements lib 0 (lines jsonl)) 0
      (verifySlsaProvenance lib jsonl artefactSha policy) := by
  unfold verifySlsaProvenance
  by_cases hblank : trim jsonl = ""
  · have hlines : ∀ line ∈ lines jsonl, trim line = "" := by
      intro line hline
      refine trim_eq_empty.mpr fun c hc => ?_
      exact trim_eq_empty.mp hblank c (subset_of_mem_lines hline hc)
    rw [if_pos hblank, statements_of_blank hlines]
    exact .error
  · rw [if_neg hblank]
    exact verifyLines_spec 0 0 0 (lines jsonl)

/-! ## The decision -/

/-- The decision on a text of attestation lines: it is accepted when some
statement before the first bad line vouches, the statement it is accepted for
carries no other ref than the tag, and a statement that carries the tag is
enough. -/
structure Decides (lib : SlsaLib) (jsonl artefactSha : String)
    (policy : SlsaProvenance) : Prop where
  accepted_iff :
    (∃ r, verifySlsaProvenance lib jsonl artefactSha policy = .ok r) ↔
      ∃ stmt, ReadAt lib (lines jsonl) stmt ∧
        Vouches artefactSha policy stmt
  otherRef_refused : ∀ r stmt explicit,
    verifySlsaProvenance lib jsonl artefactSha policy = .ok r →
      (statements lib 0 (lines jsonl))[r.envelopesTotal - 1]? = some stmt →
        stmt.explicitRef = some explicit → explicit = policy.sourceTag
  tagRef_taken : ∀ (n : Nat) stmt,
    (statements lib 0 (lines jsonl))[n]? = some stmt →
      About artefactSha policy stmt →
        stmt.explicitRef = some policy.sourceTag →
          ∃ r, verifySlsaProvenance lib jsonl artefactSha policy = .ok r ∧
            r.envelopesTotal ≤ n + 1

/-- Before an ambiguous statement there is one that vouches and is not. -/
def Settled (lib : SlsaLib) (jsonl artefactSha : String)
    (policy : SlsaProvenance) : Prop :=
  ∀ (n : Nat) stmt, (statements lib 0 (lines jsonl))[n]? = some stmt →
    Ambiguous artefactSha policy stmt →
      ∃ m earlier, m < n ∧
        (statements lib 0 (lines jsonl))[m]? = some earlier ∧
          Vouches artefactSha policy earlier ∧
            ¬ Ambiguous artefactSha policy earlier

variable {jsonl : String}

/-- The loop has come to the statement at `n`. -/
def Reached (lib : SlsaLib) (jsonl artefactSha : String)
    (policy : SlsaProvenance) (n : Nat) : Prop :=
  ∀ m < n, ∀ s, (statements lib 0 (lines jsonl))[m]? = some s →
    accepts artefactSha policy s = false

theorem accepted_at_iff {n : Nat} :
    (∃ r, verifySlsaProvenance lib jsonl artefactSha policy = .ok r ∧
      r.envelopesTotal = n + 1) ↔
      Reached lib jsonl artefactSha policy n ∧
        ∃ stmt, (statements lib 0 (lines jsonl))[n]? = some stmt ∧
          accepts artefactSha policy stmt = true := by
  have hfirst : (∃ r,
      verifySlsaProvenance lib jsonl artefactSha policy = .ok r ∧
        r.envelopesTotal = n + 1) ↔
      (statements lib 0 (lines jsonl)).findIdx?
        (accepts artefactSha policy) = some n := by
    have hspec : EndsAtFirst artefactSha policy
        (statements lib 0 (lines jsonl)) 0
        (verifySlsaProvenance lib jsonl artefactSha policy) :=
      verify_spec jsonl
    obtain ⟨hok, hfound⟩ := hspec
    constructor
    · rintro ⟨r, hr, htotal⟩
      obtain ⟨k, hk, hk'⟩ := hok r hr
      rw [hk]
      exact congrArg some (by omega)
    · intro h
      obtain ⟨r, hr, htotal⟩ := hfound n h
      exact ⟨r, hr, by omega⟩
  rw [hfirst, List.findIdx?_eq_some_iff_getElem]
  constructor
  · rintro ⟨hlength, haccepts, hbefore⟩
    refine ⟨fun m hm s hs => ?_, _, List.getElem?_eq_getElem hlength,
      haccepts⟩
    obtain ⟨hm', rfl⟩ := List.getElem?_eq_some_iff.mp hs
    exact Bool.eq_false_iff.mpr (hbefore m hm)
  · rintro ⟨hreached, stmt, hstmt, haccepts⟩
    obtain ⟨hlength, rfl⟩ := List.getElem?_eq_some_iff.mp hstmt
    refine ⟨hlength, haccepts, fun m hm => ?_⟩
    exact Bool.eq_false_iff.mp (hreached m hm _
      (List.getElem?_eq_getElem (Nat.lt_trans hm hlength)))

/-- An acceptance is for the statement the loop had come to. -/
theorem accepted_at {r : SlsaVerifyResult}
    (h : verifySlsaProvenance lib jsonl artefactSha policy = .ok r) :
    ∃ n stmt, r.envelopesTotal = n + 1 ∧
      Reached lib jsonl artefactSha policy n ∧
        (statements lib 0 (lines jsonl))[n]? = some stmt ∧
          accepts artefactSha policy stmt = true := by
  obtain ⟨k, -, htotal⟩ := (verify_spec jsonl).1 r h
  have hindex : r.envelopesTotal = k + 1 := by omega
  obtain ⟨hreached, stmt, hstmt, haccepts⟩ :=
    accepted_at_iff.mp ⟨r, h, hindex⟩
  exact ⟨k, stmt, hindex, hreached, hstmt, haccepts⟩

/-- The loop ends at a statement it accepts, or before it. -/
theorem taken_of_accepts {n : Nat}
    (hstmt : (statements lib 0 (lines jsonl))[n]? = some stmt)
    (haccepts : accepts artefactSha policy stmt = true) :
    ∃ r, verifySlsaProvenance lib jsonl artefactSha policy = .ok r ∧
      r.envelopesTotal ≤ n + 1 := by
  induction n using Nat.strong_induction_on generalizing stmt with
  | _ n ih =>
      by_cases hearlier : ∃ m s, m < n ∧
          (statements lib 0 (lines jsonl))[m]? = some s ∧
            accepts artefactSha policy s = true
      · obtain ⟨m, s, hm, hs, haccepts'⟩ := hearlier
        obtain ⟨r, hr, htotal⟩ := ih m hm hs haccepts'
        exact ⟨r, hr, by omega⟩
      · have hreached : Reached lib jsonl artefactSha policy n := by
          intro m hm s hs
          refine Bool.eq_false_iff.mpr fun haccepts' => ?_
          exact hearlier ⟨m, s, hm, hs, haccepts'⟩
        obtain ⟨r, hr, htotal⟩ :=
          accepted_at_iff.mpr ⟨hreached, stmt, hstmt, haccepts⟩
        exact ⟨r, hr, by omega⟩

/-- What the loop comes to is not ambiguous when that is settled before. -/
theorem Settled.reached (h : Settled lib jsonl artefactSha policy) {n : Nat}
    (hreached : Reached lib jsonl artefactSha policy n)
    (hstmt : (statements lib 0 (lines jsonl))[n]? = some stmt) :
    ¬ Ambiguous artefactSha policy stmt := by
  intro hambiguous
  obtain ⟨m, earlier, hm, hearlier, hvouches, hclear⟩ :=
    h n stmt hstmt hambiguous
  have haccepts := (accepts_iff_vouches hclear).mpr hvouches
  rw [hreached m hm earlier hearlier] at haccepts
  cases haccepts

/-- And so it ends at a statement that vouches, or before it. -/
theorem Settled.taken (h : Settled lib jsonl artefactSha policy) {n : Nat}
    (hstmt : (statements lib 0 (lines jsonl))[n]? = some stmt)
    (hvouches : Vouches artefactSha policy stmt) :
    ∃ r, verifySlsaProvenance lib jsonl artefactSha policy = .ok r ∧
      r.envelopesTotal ≤ n + 1 := by
  by_cases hambiguous : Ambiguous artefactSha policy stmt
  · obtain ⟨m, earlier, hm, hearlier, hvouches', hclear⟩ :=
      h n stmt hstmt hambiguous
    obtain ⟨r, hr, htotal⟩ := taken_of_accepts hearlier
      ((accepts_iff_vouches hclear).mpr hvouches')
    exact ⟨r, hr, by omega⟩
  · exact taken_of_accepts hstmt
      ((accepts_iff_vouches hambiguous).mpr hvouches)

theorem decides_of_settled (h : Settled lib jsonl artefactSha policy) :
    Decides lib jsonl artefactSha policy where
  accepted_iff := by
    constructor
    · rintro ⟨r, hr⟩
      obtain ⟨n, stmt, -, hreached, hstmt, haccepts⟩ := accepted_at hr
      have hclear := h.reached hreached hstmt
      exact ⟨stmt, mem_statements.mp (List.mem_of_getElem? hstmt),
        (accepts_iff_vouches hclear).mp haccepts⟩
    · rintro ⟨stmt, hread, hvouches⟩
      have hmem : stmt ∈ statements lib 0 (lines jsonl) :=
        mem_statements.mpr hread
      obtain ⟨n, hstmt⟩ := List.getElem?_of_mem hmem
      obtain ⟨r, hr, -⟩ := h.taken hstmt hvouches
      exact ⟨r, hr⟩
  otherRef_refused := by
    intro r stmt explicit hr hstmt hexplicit
    obtain ⟨n, taken, hindex, hreached, htaken, haccepts⟩ := accepted_at hr
    have hsame : taken = stmt := by
      rw [hindex, Nat.add_sub_cancel, htaken] at hstmt
      exact Option.some.inj hstmt
    subst hsame
    have hclear := h.reached hreached htaken
    have href := ((accepts_iff_vouches hclear).mp haccepts).ref
    rw [InTotoStatement.sourceRef, hexplicit] at href
    exact Option.some.inj href
  tagRef_taken := by
    intro n stmt hstmt habout hexplicit
    refine h.taken hstmt ⟨habout, ?_⟩
    rw [InTotoStatement.sourceRef, hexplicit]
    rfl

/-- At the first ambiguous statement the loop comes to it decides wrongly. -/
theorem settled_of_decides (h : Decides lib jsonl artefactSha policy) :
    Settled lib jsonl artefactSha policy := by
  intro n
  induction n using Nat.strong_induction_on with
  | _ n ih =>
      intro stmt hstmt hambiguous
      by_cases hprevious : ∃ m s, m < n ∧
          (statements lib 0 (lines jsonl))[m]? = some s ∧
            Ambiguous artefactSha policy s
      · obtain ⟨m, s, hm, hs, hambiguous'⟩ := hprevious
        obtain ⟨k, earlier, hk, hearlier⟩ := ih m hm s hs hambiguous'
        exact ⟨k, earlier, Nat.lt_trans hk hm, hearlier⟩
      by_contra hnone
      have hreached : Reached lib jsonl artefactSha policy n := by
        intro m hm s hs
        refine Bool.eq_false_iff.mpr fun haccepts => ?_
        have hclear : ¬ Ambiguous artefactSha policy s :=
          fun hs' => hprevious ⟨m, s, hm, hs, hs'⟩
        exact hnone ⟨m, s, hm, hs, (accepts_iff_vouches hclear).mp haccepts,
          hclear⟩
      obtain ⟨explicit, hexplicit, hcode⟩ := hambiguous.explicitRef
      by_cases htag : explicit = policy.sourceTag
      · -- The genuine one is passed over.
        subst htag
        obtain ⟨r, hr, htotal⟩ := h.tagRef_taken n stmt hstmt
          hambiguous.about hexplicit
        obtain ⟨k, taken, hindex, -, htaken, haccepts⟩ := accepted_at hr
        rcases Nat.lt_or_ge k n with hlt | hge
        · rw [hreached k hlt taken htaken] at haccepts
          cases haccepts
        · have hsame : k = n := by omega
          subst hsame
          rw [hstmt] at htaken
          cases htaken
          exact hcode.mp haccepts rfl
      · -- Another ref's is accepted.
        obtain ⟨r, hr, htotal⟩ := accepted_at_iff.mpr
          ⟨hreached, stmt, hstmt, hcode.mpr htag⟩
        refine htag (h.otherRef_refused r stmt explicit hr ?_ hexplicit)
        rw [htotal, Nat.add_sub_cancel]
        exact hstmt

/-- The decision is right exactly when no ambiguous statement is looked at. -/
theorem decides_iff (lib : SlsaLib) (jsonl artefactSha : String)
    (policy : SlsaProvenance) :
    Decides lib jsonl artefactSha policy ↔
      Settled lib jsonl artefactSha policy :=
  ⟨settled_of_decides, decides_of_settled⟩

/-- The gate of a pass opens on an accepted text of the plugin's
ConfigMap. -/
theorem accepted_of_slsaGate {libs : PluginLibs} {ans : PluginAnswers}
    {obj : MCPGPlugin} {verified : Option Bool}
    (hlib : libs.verifySlsaProvenance = verifyProvenance lib)
    (hpolicy : obj.spec.trust.slsaProvenance = some policy)
    (h : slsaGate libs ans obj artefactSha = .ok verified) :
    ∃ cm text r, ans.getConfigMap policy.configMapName = .ok cm ∧
      (cm.data.getD []).lookup "provenance.intoto.jsonl" = some text ∧
        verifySlsaProvenance lib text artefactSha policy = .ok r := by
  unfold slsaGate at h
  rw [hpolicy] at h
  dsimp only at h
  unfold runSlsaVerify at h
  cases hcm : ans.getConfigMap policy.configMapName with
  | error e =>
      rw [hcm] at h
      cases h
  | ok cm =>
      rw [hcm] at h
      dsimp only at h
      cases htext : (cm.data.getD []).lookup "provenance.intoto.jsonl" with
      | none =>
          rw [htext] at h
          cases h
      | some text =>
          rw [htext, hlib] at h
          dsimp only at h
          unfold verifyProvenance at h
          cases hverify :
              verifySlsaProvenance lib text artefactSha policy with
          | error e =>
              rw [hverify] at h
              cases h
          | ok r => exact ⟨cm, text, r, rfl, htext, hverify⟩

end Decision

/-! ## Two v0.2 statements with both fields -/

namespace Sample

def bytesOf (cs : List Char) : Bytes := cs.map fun c => UInt8.ofNat c.toNat

/-- The text of a v0.2 statement with these two fields. -/
def statementText (entry ref_ : String) : List Char :=
  "\x7b\"predicateType\":\"".toList ++ slsaV02Predicate.toList ++
    "\",\"subject\":[\x7b\"digest\":".toList ++
    "\x7b\"sha256\":\"deadbeef\"\x7d\x7d],".toList ++
    "\"predicate\":\x7b\"invocation\":".toList ++
    "\x7b\"configSource\":\x7b\"uri\":\"".toList ++
    "github.com/mcpg-dev/source-code".toList ++
    "\",\"entryPoint\":\"".toList ++ entry.toList ++
    "\",\"ref\":\"".toList ++ ref_.toList ++
    "\"\x7d\x7d\x7d\x7d".toList

def statement (entry ref_ : String) : InTotoStatement where
  predicateType := slsaV02Predicate
  subject := [{ digest := { sha256 := some "deadbeef" } }]
  predicate :=
    .obj [("invocation", .obj [("configSource", .obj
      [("uri", .str "github.com/mcpg-dev/source-code"),
        ("entryPoint", .str entry), ("ref", .str ref_)])])]

def payload (entry ref_ : String) : List Char :=
  (Base64.encode Base64.standard true
    (bytesOf (statementText entry ref_))).map fun b => Char.ofNat b.toNat

/-- The attestation line of the statement. -/
def line (entry ref_ : String) : List Char :=
  "\x7b\"payload\":\"".toList ++ payload entry ref_ ++ "\"\x7d".toList

/-- The text with that one line. -/
def jsonl (entry ref_ : String) : String := String.ofList (line entry ref_)

/-- Decoders that read the line and its statement. -/
def slsaLib (entry ref_ : String) : SlsaLib where
  envelopeFromStr s :=
    if s = String.ofList (line entry ref_) then
      .ok { payload := String.ofList (payload entry ref_)
            payloadType := none }
    else .error "expected value"
  base64Decode s :=
    match Base64.decode Base64.standard true (bytesOf s.toList) with
    | some bytes => .ok bytes
    | none => .error "Invalid padding"
  statementFromSlice bytes :=
    if bytes = bytesOf (statementText entry ref_) then
      .ok (statement entry ref_)
    else .error "expected value"

/-- No character of the line is white space, and those of the payload are
single bytes. -/
def Plain (entry ref_ : String) : Prop :=
  (line entry ref_).all (fun c => !isWhitespace c) = true ∧
    bytesOf (payload entry ref_) = Base64.encode Base64.standard true
      (bytesOf (statementText entry ref_))

instance (entry ref_ : String) : Decidable (Plain entry ref_) :=
  inferInstanceAs (Decidable (_ ∧ _))

theorem Plain.trim_eq {entry ref_ : String} (h : Plain entry ref_)
    {cs : List Char} (hcs : cs ⊆ line entry ref_) :
    trim (String.ofList cs) = String.ofList cs := by
  refine trim_eq_self fun c hc => ?_
  rw [String.toList_ofList] at hc
  exact (Bool.not_eq_true' _).mp (List.all_eq_true.mp h.1 c (hcs hc))

theorem Plain.statements_eq {entry ref_ : String} (h : Plain entry ref_) :
    statements (slsaLib entry ref_) 0 (lines (jsonl entry ref_)) =
      [statement entry ref_] := by
  have hbreak : '\n' ∉ line entry ref_ := by
    intro hmem
    have hblank := List.all_eq_true.mp h.1 _ hmem
    revert hblank
    decide
  have hsome : line entry ref_ ≠ [] :=
    List.append_ne_nil_of_right_ne_nil _ (by decide)
  have hpayload : payload entry ref_ ⊆ line entry ref_ := by
    intro c hc
    exact List.mem_append_left _ (List.mem_append_right _ hc)
  have hdecodes : DecodesTo (slsaLib entry ref_) (jsonl entry ref_)
      (statement entry ref_) := by
    refine ⟨{ payload := String.ofList (payload entry ref_)
              payloadType := none },
      bytesOf (statementText entry ref_), ?_, ?_, ?_⟩
    · unfold jsonl
      rw [h.trim_eq (List.Subset.refl _)]
      dsimp only [slsaLib]
      rw [if_pos rfl]
    · dsimp only [slsaLib]
      rw [h.trim_eq hpayload, String.toList_ofList, h.2,
        Base64.decode_encode]
    · dsimp only [slsaLib]
      rw [if_pos rfl]
  have hlines : lines (jsonl entry ref_) = [jsonl entry ref_] :=
    lines_of_unbroken hsome hbreak
  have hline : trim (jsonl entry ref_) ≠ "" := by
    unfold jsonl
    rw [h.trim_eq (List.Subset.refl _), ← String.toList_inj.ne,
      String.toList_ofList]
    exact hsome
  rw [hlines, statements, if_neg hline, decodeLine_eq_ok.mpr hdecodes]
  rfl

def slsaPolicy : SlsaProvenance where
  configMapName := "provenance"
  sourceUri := "github.com/mcpg-dev/source-code"
  sourceTag := "v1.2.3"

/-- A statement of another ref is accepted for its entry point, and one of the
tag is refused for its. -/
theorem not_decides :
    ¬ Decides (slsaLib "v1.2.3" "refs/heads/evil")
        (jsonl "v1.2.3" "refs/heads/evil") "deadbeef" slsaPolicy ∧
      ¬ Decides (slsaLib "release.yaml" "v1.2.3")
        (jsonl "release.yaml" "v1.2.3") "deadbeef" slsaPolicy := by
  refine ⟨fun h => ?_, fun h => ?_⟩
  · have hplain : Plain "v1.2.3" "refs/heads/evil" := by decide +kernel
    have hstmt : (statements (slsaLib "v1.2.3" "refs/heads/evil") 0
        (lines (jsonl "v1.2.3" "refs/heads/evil")))[0]? =
        some (statement "v1.2.3" "refs/heads/evil") := by
      rw [hplain.statements_eq]
      rfl
    have haccepts : accepts "deadbeef" slsaPolicy
        (statement "v1.2.3" "refs/heads/evil") = true := by decide +kernel
    obtain ⟨r, hr, htotal⟩ := accepted_at_iff.mpr
      ⟨fun m hm => absurd hm (Nat.not_lt_zero m), _, hstmt, haccepts⟩
    have hsame := h.otherRef_refused r _ "refs/heads/evil" hr
      (by rw [htotal]; exact hstmt) (by decide +kernel)
    revert hsame
    decide +kernel
  · have hplain : Plain "release.yaml" "v1.2.3" := by decide +kernel
    have hstmt := hplain.statements_eq
    have habout : About "deadbeef" slsaPolicy
        (statement "release.yaml" "v1.2.3") :=
      ⟨.inr rfl, ⟨_, List.mem_singleton_self _, _, rfl, by decide +kernel⟩,
        by decide +kernel⟩
    have hrefuses : accepts "deadbeef" slsaPolicy
        (statement "release.yaml" "v1.2.3") = false := by decide +kernel
    obtain ⟨r, hr, -⟩ := h.tagRef_taken 0 _ (by rw [hstmt]; rfl) habout
      (by decide +kernel)
    obtain ⟨n, taken, -, -, htaken, haccepts⟩ := accepted_at hr
    rw [hstmt] at htaken
    obtain rfl := List.mem_singleton.mp (List.mem_of_getElem? htaken)
    rw [hrefuses] at haccepts
    cases haccepts

end Sample

end McpgOperator.Plugin.Slsa
