import McpgOperator.Proofs.CelQuote

/-!
# What `cel_quote` quotes

A tenant goes into a predicate between double quotes, with a backslash before
every quote and backslash of its own. No character of it can then end the
literal or begin an escape, so the literal is read back as the tenant, to its
end and no further. What is not escaped is a line feed or a carriage return,
and a literal in double quotes must not hold one: with it the predicate is no
expression, and no identity satisfies it.
-/

namespace McpgOperator.Gateway

open CelCore

/-- An identity as a predicate sees it. -/
structure Caller where
  attributes : List (String × Value)

namespace Caller

/-- The variables of a predicate. -/
def env (i : Caller) (name : String) : Option Value :=
  if name = "identity" then
    some (.map [("attributes", .map i.attributes)])
  else none

def tenant (i : Caller) : Option Value := i.attributes.lookup "tenant"

end Caller

/-- The predicate is an expression and evaluates to true. -/
def TrueOf (predicate : String) (i : Caller) : Prop :=
  run i.env predicate = some (.bool true)

/-- Quoted, the text is one literal in double quotes, with the text for its
value; it is one token, with nothing behind it; and an identity satisfies the
predicate when its tenant is the text. -/
structure QuotedExactly (s : String) : Prop where
  literal : DoubleQuoted (celQuote s).toList s.toList
  token : tokens (celQuote s) = some [.str s]
  predicate : ∀ i : Caller,
    TrueOf (tenantPredicate s) i ↔ i.tenant = some (.str s)

/-! ## Reading the literal back -/

/-- The long literal begins with three quotes, and what is quoted with one
that is a quote of its own, or none. -/
theorem readLiteral_escaped (s : List Char) :
    readLiteral (escaped s ++ ['"']) =
      if s.any endsLine then none else some (s, []) := by
  rw [← readBody_escaped s []]
  cases s with
  | nil => rfl
  | cons c s =>
      by_cases hescape : c = '\\' ∨ c = '"'
      · rw [escaped_escape hescape]
        rfl
      · rw [escaped_plain hescape, List.cons_append]
        obtain ⟨-, hquote⟩ := not_or.mp hescape
        unfold readLiteral
        split
        · next heq => exact absurd (List.cons.inj heq).1 hquote
        · rfl

/-- The token of the literal. -/
theorem readToken_celQuote (s : String) :
    readToken ((celQuote s).toList.dropWhile isSpace) =
      if hasLineBreak s then none else some (.str s, []) := by
  rw [toList_celQuote]
  show (readLiteral (escaped s.toList ++ ['"'])).map _ = _
  rw [readLiteral_escaped]
  show (if hasLineBreak s then none else some (s.toList, [])).map _ = _
  split
  · rfl
  · rw [Option.map_some]
    dsimp only
    rw [String.ofList_toList]

/-- The tokens of the literal, where it ends what is read. -/
theorem readTokens_celQuote {s : String} (h : hasLineBreak s = false)
    (n : Nat) : readTokens (n + 1) (celQuote s).toList = some [.str s] := by
  have htoken := readToken_celQuote s
  rw [h] at htoken
  rw [readTokens_token htoken]
  cases n <;> rfl

theorem readTokens_celQuote_broken {s : String} (h : hasLineBreak s = true)
    (n : Nat) : readTokens n (celQuote s).toList = none := by
  have htoken := readToken_celQuote s
  rw [h, toList_celQuote] at htoken
  rw [toList_celQuote]
  exact readTokens_stuck rfl htoken n

/-! ## The predicate -/

/-- What the predicate has before the literal. -/
def selection : List Token :=
  [.ident "identity", .dot, .ident "attributes", .dot, .ident "tenant",
    .equals]

theorem toList_tenantPredicate (s : String) :
    (tenantPredicate s).toList =
      "identity.attributes.tenant == ".toList ++ (celQuote s).toList := by
  unfold tenantPredicate
  rw [String.toList_append]

theorem readTokens_selection (n : Nat) (rest : List Char) :
    readTokens (n + 6) ("identity.attributes.tenant == ".toList ++ rest) =
      (readTokens n (' ' :: rest)).map (selection ++ ·) := by
  have hidentity : readToken
      (("identity.attributes.tenant == ".toList ++ rest).dropWhile
        isSpace) =
      some (.ident "identity",
        ".attributes.tenant == ".toList ++ rest) := rfl
  have hdot : readToken
      ((".attributes.tenant == ".toList ++ rest).dropWhile isSpace) =
      some (.dot, "attributes.tenant == ".toList ++ rest) := rfl
  have hattributes : readToken
      (("attributes.tenant == ".toList ++ rest).dropWhile isSpace) =
      some (.ident "attributes", ".tenant == ".toList ++ rest) := rfl
  have hdot' : readToken
      ((".tenant == ".toList ++ rest).dropWhile isSpace) =
      some (.dot, "tenant == ".toList ++ rest) := rfl
  have htenant : readToken
      (("tenant == ".toList ++ rest).dropWhile isSpace) =
      some (.ident "tenant", " == ".toList ++ rest) := rfl
  have hequals : readToken
      ((" == ".toList ++ rest).dropWhile isSpace) =
      some (.equals, ' ' :: rest) := rfl
  rw [readTokens_token hidentity, readTokens_token hdot,
    readTokens_token hattributes, readTokens_token hdot',
    readTokens_token htenant, readTokens_token hequals]
  cases readTokens n (' ' :: rest) <;> rfl

theorem readTokens_space (n : Nat) (rest : List Char) :
    readTokens n (' ' :: rest) = readTokens n rest := by
  have hspaces : (' ' :: rest).dropWhile isSpace =
      rest.dropWhile isSpace := rfl
  unfold readTokens
  rw [hspaces]

/-- There is room for as many tokens as there are characters. -/
theorem tokens_tenantPredicate (s : String) :
    tokens (tenantPredicate s) =
      if hasLineBreak s then none else some (selection ++ [.str s]) := by
  have hlength : ∃ n, (tenantPredicate s).toList.length = n + 1 + 6 := by
    refine ⟨23 + (celQuote s).toList.length, ?_⟩
    rw [toList_tenantPredicate, List.length_append]
    have hselection :
        "identity.attributes.tenant == ".toList.length = 30 := rfl
    omega
  obtain ⟨n, hn⟩ := hlength
  unfold tokens
  rw [hn, toList_tenantPredicate, readTokens_selection, readTokens_space]
  cases hline : hasLineBreak s with
  | true => rw [readTokens_celQuote_broken hline, if_pos rfl]; rfl
  | false =>
      rw [readTokens_celQuote hline, if_neg Bool.false_ne_true]
      rfl

/-- What the predicate of a tenant without line breaks is parsed as. -/
def tenantExpr (s : String) : Expr :=
  .equals (.select (.select (.ident "identity") "attributes") "tenant")
    (.str s)

theorem parse_selection (s : String) :
    parse (selection ++ [.str s]) = some (tenantExpr s) := rfl

theorem eval_tenantExpr (s : String) (i : Caller) :
    eval i.env (tenantExpr s) =
      i.tenant.bind fun x => (x.equals (.str s)).map .bool := rfl

theorem run_tenantPredicate (s : String) (i : Caller) :
    run i.env (tenantPredicate s) =
      if hasLineBreak s then none
      else i.tenant.bind fun x => (x.equals (.str s)).map .bool := by
  unfold run
  rw [tokens_tenantPredicate]
  cases hasLineBreak s with
  | true => rfl
  | false =>
      rw [if_neg Bool.false_ne_true, if_neg Bool.false_ne_true,
        Option.bind_some, parse_selection, Option.bind_some,
        eval_tenantExpr]

/-- A value of another kind is not the tenant, nor an error. -/
theorem equals_str_iff {x : Value} {s : String} :
    (x.equals (.str s)).map Value.bool = some (.bool true) ↔
      x = .str s := by
  cases x <;> simp [Value.equals]

/-- Of a tenant with a line break the predicate is no expression. -/
theorem not_trueOf_of_lineBreak {s : String} (h : hasLineBreak s = true)
    (i : Caller) : ¬ TrueOf (tenantPredicate s) i := by
  unfold TrueOf
  rw [run_tenantPredicate, h, if_pos rfl]
  intro hnone
  cases hnone

/-- A tenant is quoted exactly when it holds no line feed and no carriage
return. -/
theorem quoted_exactly_iff (s : String) :
    QuotedExactly s ↔ hasLineBreak s = false := by
  constructor
  · intro h
    cases hline : hasLineBreak s with
    | false => rfl
    | true =>
        have htoken := h.token
        unfold tokens at htoken
        rw [readTokens_celQuote_broken hline] at htoken
        cases htoken
  · intro hline
    have hread : readBody 0 (escaped s.toList ++ ['"']) =
        some (s.toList, []) := by
      rw [readBody_escaped]
      exact if_neg (Bool.eq_false_iff.mp hline)
    refine ⟨?_, ?_, ?_⟩
    · obtain ⟨body, heq, hbody⟩ := readBody_iff.mp hread
      exact ⟨body, by rw [toList_celQuote, heq], hbody⟩
    · have hlength : ∃ n, (celQuote s).toList.length = n + 1 := by
        rw [toList_celQuote]
        exact ⟨_, rfl⟩
      obtain ⟨n, hn⟩ := hlength
      unfold tokens
      rw [hn]
      exact readTokens_celQuote hline n
    · intro i
      unfold TrueOf
      rw [run_tenantPredicate, hline, if_neg Bool.false_ne_true]
      cases i.tenant with
      | none => simp
      | some x =>
          rw [Option.bind_some, equals_str_iff]
          exact Option.some_inj.symm

/-- A tenant over two lines. -/
theorem not_quoted_exactly :
    tokens (celQuote "acme\nglobex") = none ∧
      ¬ TrueOf (tenantPredicate "acme\nglobex")
        { attributes := [("tenant", .str "acme\nglobex")] } ∧
      ¬ QuotedExactly "acme\nglobex" := by
  have hline : hasLineBreak "acme\nglobex" = true := by decide
  refine ⟨readTokens_celQuote_broken hline _,
    not_trueOf_of_lineBreak hline _, ?_⟩
  intro h
  have htoken := h.token
  unfold tokens at htoken
  rw [readTokens_celQuote_broken hline] at htoken
  cases htoken

end McpgOperator.Gateway
