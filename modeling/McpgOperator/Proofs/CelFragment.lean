import McpgOperator.Proofs.CelQuote

/-!
# An evaluator for the conditions the fan-in writes

Disjunctions of `true` and of tenants, with parentheses wherever they stand:
a text is read token by token, and is true when one of its tokens is. It has
every property that is asked of CEL.
-/

namespace McpgOperator.Gateway.CelFragment

open McpgOperator.Text

inductive Token
  | open_
  | close
  | or_
  | true_
  | tenant (t : String)
  deriving DecidableEq, Repr

def tenantPrefix : List Char := "identity.attributes.tenant == \"".toList

def token (cs : List Char) : Option (Token × List Char) :=
  match cs with
  | '(' :: rest => some (.open_, rest)
  | ')' :: rest => some (.close, rest)
  | ' ' :: '|' :: '|' :: ' ' :: rest => some (.or_, rest)
  | 't' :: 'r' :: 'u' :: 'e' :: rest => some (.true_, rest)
  | _ =>
      ((stripPrefix tenantPrefix cs).bind (CelCore.readBody 0)).map fun (t, rest) =>
        (.tenant (String.ofList t), rest)

/-- The tokens of a text, at most as many as asked for. -/
def tokens : Nat → List Char → Option (List Token)
  | _, [] => some []
  | 0, _ => none
  | n + 1, cs =>
      (token cs).bind fun (tok, rest) => (tokens n rest).map (tok :: ·)

/-- An identity is its tenant, if it has one. -/
def Token.allows (i : Option String) : Token → Bool
  | .true_ => true
  | .tenant t => i == some t
  | _ => false

def allows (e : String) (i : Option String) : Bool :=
  ((tokens e.toList.length e.toList).getD []).any (·.allows i)

/-! ## Reading back what is written -/

def Token.text : Token → List Char
  | .open_ => ['(']
  | .close => [')']
  | .or_ => " || ".toList
  | .true_ => "true".toList
  | .tenant t => tenantPrefix ++ (escaped t.toList ++ ['"'])

/-- The literals of the token end on their line. -/
def Token.Closed : Token → Prop
  | .tenant t => hasLineBreak t = false
  | _ => True

def text (ts : List Token) : List Char := ts.flatMap Token.text

theorem token_tenant (t : String) (rest : List Char) :
    token ((Token.tenant t).text ++ rest) =
      if hasLineBreak t then none else some (.tenant t, rest) := by
  have hstart : token ((Token.tenant t).text ++ rest) =
      ((stripPrefix tenantPrefix
          (tenantPrefix ++ (escaped t.toList ++ '"' :: rest))).bind
        (CelCore.readBody 0)).map
        fun (t, rest) => (.tenant (String.ofList t), rest) := by
    rw [Token.text, List.append_assoc, List.append_assoc]
    rfl
  rw [hstart, stripPrefix_append, Option.bind_some, readBody_escaped]
  unfold hasLineBreak
  split
  · rfl
  · simp

theorem token_text {tok : Token} (h : tok.Closed) (rest : List Char) :
    token (tok.text ++ rest) = some (tok, rest) := by
  cases tok with
  | open_ => rfl
  | close => rfl
  | or_ => rfl
  | true_ => rfl
  | tenant t =>
      have hline : hasLineBreak t = false := h
      rw [token_tenant, hline, if_neg Bool.false_ne_true]

theorem text_ne_nil (tok : Token) : tok.text ≠ [] := by
  cases tok with
  | open_ => exact List.cons_ne_nil _ _
  | close => exact List.cons_ne_nil _ _
  | or_ => exact List.ne_nil_of_length_pos (by decide)
  | true_ => exact List.ne_nil_of_length_pos (by decide)
  | tenant t =>
      exact List.append_ne_nil_of_left_ne_nil
        (List.ne_nil_of_length_pos (by decide)) _

theorem tokens_succ (n : Nat) {cs : List Char} (h : cs ≠ []) :
    tokens (n + 1) cs =
      (token cs).bind fun (tok, rest) =>
        (tokens n rest).map (tok :: ·) := by
  cases cs with
  | nil => exact absurd rfl h
  | cons c cs => rfl

theorem tokens_text {ts : List Token} (h : ∀ tok ∈ ts, tok.Closed)
    (n : Nat) (rest : List Char) :
    tokens (ts.length + n) (text ts ++ rest) =
      (tokens n rest).map (ts ++ ·) := by
  induction ts with
  | nil => simp [text]
  | cons tok ts ih =>
      obtain ⟨htok, hts⟩ := List.forall_mem_cons.mp h
      have hlength : (tok :: ts).length + n = ts.length + n + 1 := by
        rw [List.length_cons]
        omega
      have htext : text (tok :: ts) ++ rest =
          tok.text ++ (text ts ++ rest) := List.append_assoc _ _ _
      rw [hlength, htext, tokens_succ _
          (List.append_ne_nil_of_left_ne_nil (text_ne_nil tok) _),
        token_text htok, Option.bind_some]
      dsimp only
      rw [ih hts, Option.map_map]
      rfl

theorem length_le_text (ts : List Token) : ts.length ≤ (text ts).length := by
  induction ts with
  | nil => exact Nat.le_refl _
  | cons tok ts ih =>
      have hpos := List.length_pos_iff.mpr (text_ne_nil tok)
      have htext : (text (tok :: ts)).length =
          tok.text.length + (text ts).length := List.length_append
      rw [htext, List.length_cons]
      omega

/-! ## Expressions -/

def Expr (e : String) : Prop :=
  ∃ ts, (∀ tok ∈ ts, Token.Closed tok) ∧ e.toList = text ts

def Broken (e : String) : Prop :=
  ∃ ts t rest, (∀ tok ∈ ts, Token.Closed tok) ∧ hasLineBreak t = true ∧
    e.toList = text ts ++ ((Token.tenant t).text ++ rest)

theorem allows_text {e : String} {ts : List Token}
    (hts : ∀ tok ∈ ts, tok.Closed) (he : e.toList = text ts)
    (i : Option String) : allows e i = ts.any (·.allows i) := by
  obtain ⟨n, hn⟩ := Nat.exists_eq_add_of_le (length_le_text ts)
  have hread : tokens (text ts).length (text ts) = some ts := by
    have h := tokens_text hts n []
    rw [List.append_nil, ← hn] at h
    rw [h]
    cases n <;> simp [tokens]
  unfold allows
  rw [he, hread]
  rfl

theorem allows_broken {e : String} (h : Broken e) (i : Option String) :
    allows e i = false := by
  obtain ⟨ts, t, rest, hts, hline, he⟩ := h
  have hne : (Token.tenant t).text ++ rest ≠ [] :=
    List.append_ne_nil_of_left_ne_nil (text_ne_nil _) _
  have hlong : ts.length + 1 ≤
      (text ts ++ ((Token.tenant t).text ++ rest)).length := by
    have hpos := List.length_pos_iff.mpr hne
    have hts' := length_le_text ts
    rw [List.length_append]
    omega
  obtain ⟨n, hn⟩ := Nat.exists_eq_add_of_le hlong
  have hread : tokens e.toList.length e.toList = none := by
    rw [he, hn, Nat.add_assoc, tokens_text hts, Nat.add_comm 1 n,
      tokens_succ n hne, token_tenant, hline, if_pos rfl]
    rfl
  unfold allows
  rw [hread]
  rfl

/-! ## Disjunctions -/

theorem toList_celOr_singleton (p : String) :
    (celOr [p]).toList = '(' :: (p.toList ++ [')']) := by
  simp [celOr]

theorem toList_celOr_cons (p : String) {ps : List String} (h : ps ≠ []) :
    (celOr (p :: ps)).toList =
      '(' :: (p.toList ++ (")".toList ++ " || ".toList ++
        (celOr ps).toList)) := by
  unfold celOr
  rw [List.map_cons, String.intercalate_cons_of_ne_nil (by simpa using h)]
  simp

theorem text_cons (tok : Token) (ts : List Token) :
    text (tok :: ts) = tok.text ++ text ts := rfl

theorem text_append (ts ts' : List Token) :
    text (ts ++ ts') = text ts ++ text ts' := List.flatMap_append

/-- The tokens of `(p)` and of what follows it. -/
def grouped (ts rest : List Token) : List Token :=
  .open_ :: (ts ++ .close :: rest)

theorem text_grouped (ts rest : List Token) :
    text (grouped ts rest) = '(' :: (text ts ++ ')' :: text rest) := by
  unfold grouped
  rw [text_cons, text_append, text_cons]
  rfl

theorem closed_grouped {ts rest : List Token}
    (hts : ∀ tok ∈ ts, tok.Closed) (hrest : ∀ tok ∈ rest, tok.Closed) :
    ∀ tok ∈ grouped ts rest, tok.Closed := by
  unfold grouped
  rw [List.forall_mem_cons, List.forall_mem_append, List.forall_mem_cons]
  exact ⟨trivial, hts, trivial, hrest⟩

theorem any_grouped (i : Option String) (ts rest : List Token) :
    (grouped ts rest).any (·.allows i) =
      (ts.any (·.allows i) || rest.any (·.allows i)) := by
  unfold grouped
  rw [List.any_cons, List.any_append, List.any_cons]
  rfl

/-- What is written for a disjunction is read as its operands. -/
theorem exists_text_celOr {ps : List String} (hne : ps ≠ [])
    (h : ∀ p ∈ ps, Expr p) :
    ∃ ts, (∀ tok ∈ ts, Token.Closed tok) ∧
      (celOr ps).toList = text ts ∧
      ∀ i, ts.any (·.allows i) = ps.any fun p => allows p i := by
  induction ps with
  | nil => exact absurd rfl hne
  | cons p ps ih =>
      obtain ⟨⟨ts, hts, hp⟩, hps⟩ := List.forall_mem_cons.mp h
      by_cases hnil : ps = []
      · subst hnil
        have hrest : ∀ tok ∈ [], Token.Closed tok :=
          fun tok h => absurd h List.not_mem_nil
        refine ⟨grouped ts [], closed_grouped hts hrest, ?_, fun i => ?_⟩
        · rw [toList_celOr_singleton, hp, text_grouped]
          rfl
        · rw [any_grouped, List.any_cons, allows_text hts hp]
          rfl
      · obtain ⟨rest, hrest, heq, hany⟩ := ih hnil hps
        have hor : ∀ tok ∈ .or_ :: rest, Token.Closed tok :=
          List.forall_mem_cons.mpr ⟨trivial, hrest⟩
        refine ⟨grouped ts (.or_ :: rest), closed_grouped hts hor, ?_,
          fun i => ?_⟩
        · rw [toList_celOr_cons p hnil, hp, heq, text_grouped, text_cons]
          rfl
        · rw [any_grouped, List.any_cons, hany, List.any_cons,
            allows_text hts hp]
          rfl

theorem broken_celOr {before : List String} {p : String}
    (after : List String) (hbefore : ∀ q ∈ before, Expr q)
    (hp : Broken p) : Broken (celOr (before ++ p :: after)) := by
  induction before with
  | nil =>
      obtain ⟨ts, t, rest, hts, hline, hp⟩ := hp
      have hopen : ∀ tok ∈ .open_ :: ts, Token.Closed tok :=
        List.forall_mem_cons.mpr ⟨trivial, hts⟩
      by_cases hnil : after = []
      · subst hnil
        refine ⟨.open_ :: ts, t, rest ++ [')'], hopen, hline, ?_⟩
        rw [List.nil_append, toList_celOr_singleton, hp, text_cons]
        simp [Token.text]
      · refine ⟨.open_ :: ts, t,
          rest ++ (")".toList ++ " || ".toList ++ (celOr after).toList),
          hopen, hline, ?_⟩
        rw [List.nil_append, toList_celOr_cons p hnil, hp, text_cons]
        simp [Token.text]
  | cons q before ih =>
      obtain ⟨⟨qs, hqs, hq⟩, hbefore⟩ := List.forall_mem_cons.mp hbefore
      obtain ⟨ts, t, rest, hts, hline, heq⟩ := ih hbefore
      have hor : ∀ tok ∈ .or_ :: ts, Token.Closed tok :=
        List.forall_mem_cons.mpr ⟨trivial, hts⟩
      have hne : before ++ p :: after ≠ [] :=
        List.append_ne_nil_of_right_ne_nil _ (List.cons_ne_nil p after)
      refine ⟨grouped qs (.or_ :: ts), t, rest, closed_grouped hqs hor,
        hline, ?_⟩
      rw [List.cons_append, toList_celOr_cons q hne, hq, heq, text_grouped,
        text_cons]
      simp [Token.text]

theorem toList_tenantPredicate (t : String) :
    (tenantPredicate t).toList = text [.tenant t] := by
  have hprefix : tenantPrefix =
      "identity.attributes.tenant == ".toList ++ ['"'] := by decide
  have htext : text [.tenant t] =
      tenantPrefix ++ (escaped t.toList ++ ['"']) := List.append_nil _
  unfold tenantPredicate
  rw [String.toList_append, htext, hprefix, toList_celQuote,
    List.append_assoc]
  rfl

/-- The conditions the fan-in writes, with an identity that is its tenant. -/
def fragment : Cel (Option String) where
  Expr := Expr
  Broken := Broken
  allows := allows
  tenant := id
  expr_true := ⟨[.true_], by simp [Token.Closed], rfl⟩
  allows_true := by
    intro i
    rfl
  expr_or := by
    intro ps hne h
    obtain ⟨ts, hts, heq, -⟩ := exists_text_celOr hne h
    exact ⟨ts, hts, heq⟩
  allows_or := by
    intro ps i hne h
    obtain ⟨ts, hts, heq, hany⟩ := exists_text_celOr hne h
    rw [allows_text hts heq, hany]
  expr_tenant := by
    intro t h
    exact ⟨[.tenant t], List.forall_mem_singleton.mpr h,
      toList_tenantPredicate t⟩
  allows_tenant := by
    intro t i h
    have hclosed : ∀ tok ∈ [.tenant t], Token.Closed tok :=
      List.forall_mem_singleton.mpr h
    rw [allows_text hclosed (toList_tenantPredicate t)]
    exact Bool.or_false _
  broken_tenant := by
    intro t h
    refine ⟨[], t, [], fun tok h => absurd h List.not_mem_nil, h, ?_⟩
    rw [toList_tenantPredicate]
    rfl
  broken_or := fun _ _ after => broken_celOr after
  allows_broken := fun _ i h => allows_broken h i
  anonymous := none
  tenant_anonymous := rfl
  member := some
  tenant_member := fun _ => rfl

end McpgOperator.Gateway.CelFragment
