import McpgOperator.Gateway.Config

/-!
# What a tool-access rule allows

The condition of a rule is a CEL expression, and CEL is not part of the
repository: it is a parameter, `Cel`, with what is relied on of it. A rule
without a condition allows every identity, and so does one whose condition is
no string, as `apply_routes_to_config` reads it.
-/

namespace McpgOperator.Gateway

open McpgOperator.Templates

/-- `(p) || (q) || …`. -/
def celOr (operands : List String) : String :=
  " || ".intercalate (operands.map fun p => "(" ++ p ++ ")")

def tenantPredicate (tenant : String) : String :=
  "identity.attributes.tenant == " ++ celQuote tenant

/-- What `cel_quote` leaves as it is, and a literal cannot hold. -/
def endsLine (c : Char) : Bool := c == '\n' || c == '\r'

def hasLineBreak (s : String) : Bool := s.toList.any endsLine

/-- CEL, as far as the fan-in writes it. -/
structure Cel (Identity : Type) where
  /-- Expressions: they parse, and go on parsing in parentheses. -/
  Expr : String → Prop
  /-- The text runs into a literal that its line leaves open. -/
  Broken : String → Prop
  /-- The expression evaluates to true. -/
  allows : String → Identity → Bool
  /-- The attribute `tenant`. -/
  tenant : Identity → Option String
  expr_true : Expr "true"
  allows_true : ∀ i, allows "true" i = true
  expr_or : ∀ ps, ps ≠ [] → (∀ p ∈ ps, Expr p) → Expr (celOr ps)
  /-- An operand that is an error does not keep another from being true. -/
  allows_or : ∀ ps i, ps ≠ [] → (∀ p ∈ ps, Expr p) →
    allows (celOr ps) i = ps.any fun p => allows p i
  expr_tenant : ∀ t, hasLineBreak t = false → Expr (tenantPredicate t)
  allows_tenant : ∀ t i, hasLineBreak t = false →
    allows (tenantPredicate t) i = (tenant i == some t)
  broken_tenant : ∀ t, hasLineBreak t = true → Broken (tenantPredicate t)
  broken_or : ∀ before p after, (∀ q ∈ before, Expr q) → Broken p →
    Broken (celOr (before ++ p :: after))
  /-- What does not parse is true of nobody. -/
  allows_broken : ∀ e i, Broken e → allows e i = false
  /-- Attributes are free: none, or any string. -/
  anonymous : Identity
  tenant_anonymous : tenant anonymous = none
  member : String → Identity
  tenant_member : ∀ t, tenant (member t) = some t

/-- The condition of a rule. -/
def conditionOf (rule : Json) : Option String :=
  (rule.get "cel_allow_if").bind Json.asStr

def ruleAllows {Identity : Type} (cel : Cel Identity) (rule : Json)
    (i : Identity) : Bool :=
  match conditionOf rule with
  | none => true
  | some e => cel.allows e i

namespace Cel

variable {Identity : Type} (cel : Cel Identity)

/-- The operands, OR-ed unless there is one only. -/
def Joins (e : String) (operands : List String) : Prop :=
  operands ≠ [] ∧ (e = celOr operands ∨ operands = [e])

variable {cel} {e : String} {operands : List String}

theorem Joins.expr (h : Joins e operands)
    (hexpr : ∀ p ∈ operands, cel.Expr p) : cel.Expr e := by
  obtain ⟨hne, rfl | rfl⟩ := h
  · exact cel.expr_or operands hne hexpr
  · exact hexpr e List.mem_cons_self

theorem Joins.allows (h : Joins e operands)
    (hexpr : ∀ p ∈ operands, cel.Expr p) (i : Identity) :
    cel.allows e i = operands.any fun p => cel.allows p i := by
  obtain ⟨hne, rfl | rfl⟩ := h
  · exact cel.allows_or operands i hne hexpr
  · simp

/-- The first operand that is broken breaks the expression. -/
theorem Joins.broken (h : Joins e operands)
    (hall : ∀ p ∈ operands, cel.Expr p ∨ cel.Broken p)
    (hbroken : ∃ p ∈ operands, cel.Broken p) : cel.Broken e := by
  obtain ⟨-, rfl | rfl⟩ := h
  · have hfirst : ∃ before p after, operands = before ++ p :: after ∧
        (∀ q ∈ before, cel.Expr q) ∧ cel.Broken p := by
      induction operands with
      | nil =>
          obtain ⟨p, hp, -⟩ := hbroken
          exact absurd hp List.not_mem_nil
      | cons p ps ih =>
          by_cases hp : cel.Broken p
          · exact ⟨[], p, ps, rfl, fun q h => absurd h List.not_mem_nil, hp⟩
          · obtain ⟨q, hq, hqbroken⟩ := hbroken
            have hqps : q ∈ ps := by
              refine (List.mem_cons.mp hq).resolve_left ?_
              rintro rfl
              exact hp hqbroken
            obtain ⟨before, r, after, rfl, hbefore, hr⟩ := ih
              (fun q hq => hall q (List.mem_cons_of_mem p hq))
              ⟨q, hqps, hqbroken⟩
            exact ⟨p :: before, r, after, rfl,
              List.forall_mem_cons.mpr
                ⟨(hall p List.mem_cons_self).resolve_right hp, hbefore⟩,
              hr⟩
    obtain ⟨before, p, after, rfl, hbefore, hp⟩ := hfirst
    exact cel.broken_or before p after hbefore hp
  · obtain ⟨p, hp, hbroken⟩ := hbroken
    rwa [← List.mem_singleton.mp hp]

end Cel

end McpgOperator.Gateway
