import McpgOperator.Gateway.Cel
import McpgOperator.Lib.AssocList
import McpgOperator.Proofs.CelFragment
import McpgOperator.Proofs.FanIn
import Mathlib.Data.List.Sort

/-!
# Who may call a tool that routes name

The fan-in keeps, for every tool, the predicates of the routes that name it,
and folds their disjunction into the first rule of the tool. The expression
depends on which predicates there are and not on their order, so the config
does not depend on the order of the routes.

What the rule allows is the base rule or some route, except in two cases. A
rule without a condition allows everybody, and the condition it is given
takes that back. A tenant with a line break is quoted into a literal that CEL
does not read, and takes every other operand along.
-/

namespace McpgOperator.Gateway

open McpgOperator.Kube McpgOperator.Templates Json

/-! ## The predicates of a tool -/

/-- The predicates of the routes that name the tool, in their order. -/
def predicatesFor (tool : String) (routes : List MCPGRoute) : List String :=
  routes.flatMap fun route =>
    (route.spec.tools.filter (· = tool)).map fun _ => routePredicate route

theorem mem_predicatesFor {tool p : String} {routes : List MCPGRoute} :
    p ∈ predicatesFor tool routes ↔
      ∃ route ∈ routes, tool ∈ route.spec.tools ∧
        routePredicate route = p := by
  unfold predicatesFor
  simp only [List.mem_flatMap, List.mem_map, List.mem_filter,
    decide_eq_true_eq]
  constructor
  · rintro ⟨route, hroute, tool', ⟨htool, rfl⟩, hp⟩
    exact ⟨route, hroute, htool, hp⟩
  · rintro ⟨route, hroute, htool, hp⟩
    exact ⟨route, hroute, tool, ⟨htool, rfl⟩, hp⟩

/-- The entry of a key, which is there for a list that is not empty. -/
def entry (ps : List String) : Option (List String) :=
  if ps = [] then none else some ps

theorem getD_entry (ps : List String) : (entry ps).getD [] = ps := by
  unfold entry
  split
  · next h => exact h.symm
  · rfl

/-- The map holds what the function says, by ascending keys. -/
structure Represents (m : List (String × List String))
    (f : String → List String) : Prop where
  sorted : (m.map Prod.fst).SortedLT
  lookup : ∀ tool, m.lookup tool = entry (f tool)

theorem lookup_none_of_lt {tool t : String} {ps : List String}
    {m : List (String × List String)} (h : tool < t)
    (hm : (((t, ps) :: m).map Prod.fst).SortedLT) :
    List.lookup tool ((t, ps) :: m) = none := by
  rw [List.lookup_eq_none_iff]
  intro e he
  refine bne_iff_ne.mpr (ne_of_lt ?_)
  rcases List.mem_cons.mp he with rfl | he
  · exact h
  · exact h.trans
      (List.rel_of_pairwise_cons hm.pairwise (List.mem_map_of_mem he))

theorem lookup_pushPredicate {tool p : String}
    {m : List (String × List String)}
    (hm : (m.map Prod.fst).SortedLT) (other : String) :
    (pushPredicate tool p m).lookup other =
      if other = tool then some ((m.lookup tool).getD [] ++ [p])
      else m.lookup other := by
  induction m with
  | nil =>
      rw [pushPredicate, List.lookup_cons]
      by_cases h : other = tool
      · rw [if_pos h, beq_iff_eq.mpr h]
        rfl
      · rw [if_neg h, beq_false_of_ne h]
  | cons e m ih =>
      obtain ⟨t, ps⟩ := e
      have htail : (m.map Prod.fst).SortedLT :=
        List.Pairwise.sortedLT (List.Pairwise.of_cons hm.pairwise)
      unfold pushPredicate
      split
      · next heq =>
        subst heq
        by_cases h : other = tool
        · rw [if_pos h, List.lookup_cons, List.lookup_cons_self,
            beq_iff_eq.mpr h]
          rfl
        · rw [if_neg h, List.lookup_cons, List.lookup_cons,
            beq_false_of_ne h]
      · next hne =>
        split
        · next hlt =>
          rw [lookup_none_of_lt hlt hm, List.lookup_cons]
          by_cases h : other = tool
          · rw [if_pos h, beq_iff_eq.mpr h]
            rfl
          · rw [if_neg h, beq_false_of_ne h]
        · next hge =>
          rw [List.lookup_cons, ih htail, List.lookup_cons,
            List.lookup_cons, beq_false_of_ne hne]
          by_cases h : other = tool
          · subst h
            rw [if_pos rfl, if_pos rfl, beq_false_of_ne hne]
          · rw [if_neg h, if_neg h]

theorem mem_keys_pushPredicate {tool p k : String}
    {m : List (String × List String)}
    (h : k ∈ (pushPredicate tool p m).map Prod.fst) :
    k = tool ∨ k ∈ m.map Prod.fst := by
  induction m with
  | nil => exact .inl (List.mem_singleton.mp h)
  | cons e m ih =>
      obtain ⟨t, ps⟩ := e
      unfold pushPredicate at h
      split at h
      · exact .inr h
      · split at h
        · exact List.mem_cons.mp h
        · rcases List.mem_cons.mp h with hk | hk
          · exact .inr (List.mem_cons.mpr (.inl hk))
          · exact (ih hk).imp_right (List.mem_cons_of_mem _)

theorem sorted_pushPredicate {tool p : String}
    {m : List (String × List String)} (hm : (m.map Prod.fst).SortedLT) :
    ((pushPredicate tool p m).map Prod.fst).SortedLT := by
  induction m with
  | nil => exact List.Pairwise.sortedLT (List.pairwise_singleton _ _)
  | cons e m ih =>
      obtain ⟨t, ps⟩ := e
      have hpairwise := hm.pairwise
      obtain ⟨hhead, htail⟩ := List.pairwise_cons.mp hpairwise
      unfold pushPredicate
      split
      · exact hm
      · next hne =>
        split
        · next hlt =>
          refine List.Pairwise.sortedLT (List.pairwise_cons.mpr ⟨?_, hpairwise⟩)
          intro k hk
          rcases List.mem_cons.mp hk with rfl | hk
          · exact hlt
          · exact hlt.trans (hhead k hk)
        · next hge =>
          refine List.Pairwise.sortedLT (List.pairwise_cons.mpr
            ⟨?_, (ih (List.Pairwise.sortedLT htail)).pairwise⟩)
          intro k hk
          rcases mem_keys_pushPredicate hk with rfl | hk
          · exact lt_of_le_of_ne (not_lt.mp hge) (Ne.symm hne)
          · exact hhead k hk

namespace Represents

variable {m : List (String × List String)} {f : String → List String}

theorem push (h : Represents m f) (tool p : String) :
    Represents (pushPredicate tool p m)
      fun k => if k = tool then f k ++ [p] else f k where
  sorted := sorted_pushPredicate h.sorted
  lookup := by
    intro k
    rw [lookup_pushPredicate h.sorted]
    split
    · next heq =>
      rw [h.lookup, getD_entry, heq]
      unfold entry
      rw [if_neg (List.append_ne_nil_of_right_ne_nil _
        (List.cons_ne_nil p []))]
    · exact h.lookup k

theorem pushAll (h : Represents m f) (tools : List String) (p : String) :
    Represents (tools.foldl (fun acc tool => pushPredicate tool p acc) m)
      fun k => f k ++ (tools.filter (· = k)).map fun _ => p := by
  induction tools generalizing m f with
  | nil => simpa using h
  | cons tool tools ih =>
      have hrest := ih (h.push tool p)
      refine ⟨hrest.sorted, fun k => ?_⟩
      rw [List.foldl_cons, hrest.lookup]
      by_cases hk : k = tool
      · subst hk
        simp
      · simp [hk, Ne.symm hk]

theorem routes (h : Represents m f) (routes : List MCPGRoute) :
    Represents
      (routes.foldl
        (fun acc route =>
          route.spec.tools.foldl
            (fun acc tool => pushPredicate tool (routePredicate route) acc)
            acc) m)
      fun k => f k ++ predicatesFor k routes := by
  induction routes generalizing m f with
  | nil => simpa [predicatesFor] using h
  | cons route routes ih =>
      have hrest := ih (h.pushAll route.spec.tools (routePredicate route))
      refine ⟨hrest.sorted, fun k => ?_⟩
      rw [List.foldl_cons, hrest.lookup]
      simp [predicatesFor]

end Represents

theorem represents_toolPredicates (routes : List MCPGRoute) :
    Represents (toolPredicates routes) (predicatesFor · routes) := by
  have hempty : Represents [] fun _ => [] :=
    ⟨List.Pairwise.sortedLT List.Pairwise.nil, fun _ => rfl⟩
  simpa [toolPredicates] using hempty.routes routes

/-- The tools the routes name, ascending. -/
def namedTools (routes : List MCPGRoute) : List String :=
  (toolPredicates routes).map Prod.fst

theorem sorted_namedTools (routes : List MCPGRoute) :
    (namedTools routes).SortedLT :=
  (represents_toolPredicates routes).sorted

theorem toolPredicates_eq (routes : List MCPGRoute) :
    toolPredicates routes =
      (namedTools routes).map fun tool =>
        (tool, predicatesFor tool routes) := by
  have hrep := represents_toolPredicates routes
  have hnodup : ((toolPredicates routes).map Prod.fst).Nodup :=
    hrep.sorted.nodup
  unfold namedTools
  rw [List.map_map]
  conv_lhs => rw [← List.map_id (toolPredicates routes)]
  refine List.map_congr_left fun e he => ?_
  have hlookup := AssocList.lookup_eq_some_of_mem hnodup he
  rw [hrep.lookup] at hlookup
  unfold entry at hlookup
  split at hlookup
  · cases hlookup
  · exact Prod.ext rfl (Option.some.inj hlookup).symm

theorem predicatesFor_ne_nil_iff {tool : String}
    {routes : List MCPGRoute} :
    predicatesFor tool routes ≠ [] ↔
      ∃ route ∈ routes, tool ∈ route.spec.tools := by
  constructor
  · intro hne
    obtain ⟨p, hp⟩ := List.exists_mem_of_ne_nil _ hne
    obtain ⟨route, hroute, htool, -⟩ := mem_predicatesFor.mp hp
    exact ⟨route, hroute, htool⟩
  · rintro ⟨route, hroute, htool⟩
    exact List.ne_nil_of_mem
      (mem_predicatesFor.mpr ⟨route, hroute, htool, rfl⟩)

theorem mem_namedTools {tool : String} {routes : List MCPGRoute} :
    tool ∈ namedTools routes ↔
      ∃ route ∈ routes, tool ∈ route.spec.tools := by
  have hlookup := (represents_toolPredicates routes).lookup tool
  rw [← predicatesFor_ne_nil_iff]
  unfold entry at hlookup
  constructor
  · intro hmem hnil
    rw [if_pos hnil, List.lookup_eq_none_iff] at hlookup
    obtain ⟨e, he, rfl⟩ := List.mem_map.mp hmem
    simpa using hlookup e he
  · intro hne
    rw [if_neg hne] at hlookup
    obtain ⟨before, after, heq, -⟩ := List.lookup_eq_some_iff.mp hlookup
    unfold namedTools
    rw [heq]
    simp

/-! ## The expression of a tool -/

theorem mem_destutter' {p a : String} {ps : List String} :
    p ∈ ps.destutter' (· ≠ ·) a ↔ p = a ∨ p ∈ ps := by
  induction ps generalizing a with
  | nil => simp
  | cons q ps ih =>
      rw [List.destutter'_cons]
      split
      · rw [List.mem_cons, ih, List.mem_cons]
      · next heq =>
        obtain rfl := not_not.mp heq
        rw [ih, List.mem_cons, or_self_left]

theorem mem_destutter {p : String} {ps : List String} :
    p ∈ ps.destutter (· ≠ ·) ↔ p ∈ ps := by
  cases ps with
  | nil => exact Iff.rfl
  | cons a ps => rw [List.destutter_cons', mem_destutter', List.mem_cons]

/-- The predicates sorted, without duplicates. -/
def uniq (predicates : List String) : List String :=
  (predicates.mergeSort (· ≤ ·)).destutter (· ≠ ·)

theorem mem_uniq {p : String} {ps : List String} :
    p ∈ uniq ps ↔ p ∈ ps := by
  unfold uniq
  rw [mem_destutter, List.mem_mergeSort]

theorem combinePredicates_of_true {ps : List String} (h : "true" ∈ ps) :
    combinePredicates ps = "true" := by
  unfold combinePredicates
  exact if_pos (List.contains_iff_mem.mpr (mem_uniq.mpr h))

theorem joins_combinePredicates {ps : List String} (hne : ps ≠ [])
    (h : "true" ∉ ps) : Cel.Joins (combinePredicates ps) (uniq ps) := by
  have hcontains : ¬ (uniq ps).contains "true" = true := by
    intro hmem
    exact h (mem_uniq.mp (List.contains_iff_mem.mp hmem))
  have hnil : uniq ps ≠ [] := by
    obtain ⟨p, hp⟩ := List.exists_mem_of_ne_nil ps hne
    exact List.ne_nil_of_mem (mem_uniq.mpr hp)
  refine ⟨hnil, ?_⟩
  unfold combinePredicates
  dsimp only
  split
  · next hmem => exact absurd hmem hcontains
  · split
    · next p heq => exact .inr heq
    · exact .inl rfl

theorem combinePredicates_perm {ps qs : List String} (h : ps.Perm qs) :
    combinePredicates ps = combinePredicates qs := by
  have hsort : ps.mergeSort (· ≤ ·) = qs.mergeSort (· ≤ ·) :=
    ((List.mergeSort_perm ps _).trans
      (h.trans (List.mergeSort_perm qs _).symm)).eq_of_sortedLE
      List.sortedLE_mergeSort List.sortedLE_mergeSort
  unfold combinePredicates
  rw [hsort]

theorem combinedRule_eq_celOr {prev cel : String} (hprev : prev ≠ "true")
    (hcel : cel ≠ "true") :
    combinedRule (some prev) cel = celOr [prev, cel] := by
  have h : combinedRule (some prev) cel =
      "(" ++ prev ++ ") || (" ++ cel ++ ")" := if_pos ⟨hprev, hcel⟩
  rw [h]
  show _ = "(" ++ prev ++ ")" ++ " || " ++ ("(" ++ cel ++ ")")
  simp only [String.append_assoc]
  rfl

theorem combinedRule_of_cel_true (prev : Option String) :
    combinedRule prev "true" = "true" := by
  unfold combinedRule
  cases prev <;> simp

theorem combinedRule_of_prev_true (cel : String) :
    combinedRule (some "true") cel = "true" := by
  unfold combinedRule
  simp

section Meaning

variable {Identity : Type} {cel : Cel Identity}

theorem allows_combinedRule {p e : String} (hp : cel.Expr p)
    (he : cel.Expr e) (i : Identity) :
    cel.allows (combinedRule (some p) e) i =
      (cel.allows p i || cel.allows e i) := by
  by_cases hptrue : p = "true"
  · rw [hptrue, combinedRule_of_prev_true, cel.allows_true, Bool.true_or]
  · by_cases hetrue : e = "true"
    · rw [hetrue, combinedRule_of_cel_true, cel.allows_true, Bool.or_true]
    · rw [combinedRule_eq_celOr hptrue hetrue, cel.allows_or [p, e] i
        (List.cons_ne_nil _ _)]
      · simp
      · simp [hp, he]

theorem not_allows_combinedRule {p e : String} (hp : cel.Expr p)
    (htrue : p ≠ "true") (he : cel.Broken e) (i : Identity) :
    cel.allows (combinedRule (some p) e) i = false := by
  have hetrue : e ≠ "true" := by
    rintro rfl
    have hfalse := cel.allows_broken _ i he
    rw [cel.allows_true] at hfalse
    cases hfalse
  rw [combinedRule_eq_celOr htrue hetrue]
  refine cel.allows_broken _ i ?_
  refine cel.broken_or [p] e [] ?_ he
  exact List.forall_mem_singleton.mpr hp

/-- The tenants of the routes that name the tool can all be quoted. -/
def Quotable (tool : String) (routes : List MCPGRoute) : Prop :=
  ∀ route ∈ routes, tool ∈ route.spec.tools →
    ∀ t, route.spec.tenant = some t → hasLineBreak t = false

/-- A route that names the tool is for everybody. -/
def OpenTo (tool : String) (routes : List MCPGRoute) : Prop :=
  ∃ route ∈ routes, tool ∈ route.spec.tools ∧ route.spec.tenant = none

/-- Some route that names the tool admits the identity. -/
def Admits (cel : Cel Identity) (routes : List MCPGRoute) (tool : String)
    (i : Identity) : Prop :=
  ∃ route ∈ routes, tool ∈ route.spec.tools ∧
    (route.spec.tenant = none ∨ route.spec.tenant = cel.tenant i)

theorem routePredicate_of_some {route : MCPGRoute} {t : String}
    (h : route.spec.tenant = some t) :
    routePredicate route = tenantPredicate t := by
  unfold routePredicate
  rw [h]
  rfl

theorem routePredicate_of_none {route : MCPGRoute}
    (h : route.spec.tenant = none) : routePredicate route = "true" := by
  unfold routePredicate
  rw [h]

theorem tenantPredicate_ne_true (t : String) :
    tenantPredicate t ≠ "true" := by
  intro h
  have hhead := congrArg (fun s => s.toList.head?) h
  unfold tenantPredicate at hhead
  simp at hhead

theorem true_mem_predicatesFor {tool : String} {routes : List MCPGRoute} :
    "true" ∈ predicatesFor tool routes ↔ OpenTo tool routes := by
  rw [mem_predicatesFor]
  unfold OpenTo
  refine exists_congr fun route => and_congr_right fun _ =>
    and_congr_right fun _ => ⟨fun h => ?_, routePredicate_of_none⟩
  cases htenant : route.spec.tenant with
  | none => rfl
  | some t =>
      rw [routePredicate_of_some htenant] at h
      exact absurd h (tenantPredicate_ne_true t)

/-- Every predicate of a tool that is not open is that of a tenant. -/
theorem tenant_of_mem_predicatesFor {tool p : String}
    {routes : List MCPGRoute} (hclosed : ¬ OpenTo tool routes)
    (h : p ∈ predicatesFor tool routes) :
    ∃ route ∈ routes, tool ∈ route.spec.tools ∧ ∃ t,
      route.spec.tenant = some t ∧ p = tenantPredicate t := by
  obtain ⟨route, hroute, htool, rfl⟩ := mem_predicatesFor.mp h
  cases htenant : route.spec.tenant with
  | none => exact absurd ⟨route, hroute, htool, htenant⟩ hclosed
  | some t =>
      exact ⟨route, hroute, htool, t, htenant,
        routePredicate_of_some htenant⟩

/-- The expression a tool's routes put on its rule. -/
def toolCel (tool : String) (routes : List MCPGRoute) : String :=
  combinePredicates (predicatesFor tool routes)

section Closed

variable {tool : String} {routes : List MCPGRoute}
  (hnamed : predicatesFor tool routes ≠ [])
  (hclosed : ¬ OpenTo tool routes)

include hnamed hclosed

theorem joins_toolCel :
    Cel.Joins (toolCel tool routes) (uniq (predicatesFor tool routes)) :=
  joins_combinePredicates hnamed
    fun h => hclosed (true_mem_predicatesFor.mp h)

theorem expr_toolCel (hquotable : Quotable tool routes) :
    cel.Expr (toolCel tool routes) := by
  refine (joins_toolCel hnamed hclosed).expr fun p hp => ?_
  obtain ⟨route, hroute, htool, t, htenant, rfl⟩ :=
    tenant_of_mem_predicatesFor hclosed (mem_uniq.mp hp)
  exact cel.expr_tenant t (hquotable route hroute htool t htenant)

theorem broken_toolCel (hquotable : ¬ Quotable tool routes) :
    cel.Broken (toolCel tool routes) := by
  refine (joins_toolCel hnamed hclosed).broken (fun p hp => ?_) ?_
  · obtain ⟨route, hroute, htool, t, htenant, rfl⟩ :=
      tenant_of_mem_predicatesFor hclosed (mem_uniq.mp hp)
    cases hbreak : hasLineBreak t with
    | false => exact .inl (cel.expr_tenant t hbreak)
    | true => exact .inr (cel.broken_tenant t hbreak)
  · unfold Quotable at hquotable
    push Not at hquotable
    obtain ⟨route, hroute, htool, t, htenant, hbreak⟩ := hquotable
    refine ⟨tenantPredicate t, mem_uniq.mpr (mem_predicatesFor.mpr
      ⟨route, hroute, htool, routePredicate_of_some htenant⟩), ?_⟩
    exact cel.broken_tenant t (Bool.eq_true_of_not_eq_false hbreak)

theorem allows_toolCel (hquotable : Quotable tool routes) (i : Identity) :
    cel.allows (toolCel tool routes) i = true ↔ Admits cel routes tool i := by
  have hpredicate : ∀ route ∈ routes, tool ∈ route.spec.tools → ∀ t,
      route.spec.tenant = some t →
        (cel.allows (tenantPredicate t) i = true ↔
          route.spec.tenant = cel.tenant i) := by
    intro route hroute htool t htenant
    rw [cel.allows_tenant t i (hquotable route hroute htool t htenant),
      beq_iff_eq, htenant]
    exact eq_comm
  have hexpr : ∀ p ∈ uniq (predicatesFor tool routes), cel.Expr p := by
    intro p hp
    obtain ⟨route, hroute, htool, t, htenant, rfl⟩ :=
      tenant_of_mem_predicatesFor hclosed (mem_uniq.mp hp)
    exact cel.expr_tenant t (hquotable route hroute htool t htenant)
  rw [(joins_toolCel hnamed hclosed).allows hexpr, List.any_eq_true]
  constructor
  · rintro ⟨p, hp, hallows⟩
    obtain ⟨route, hroute, htool, t, htenant, rfl⟩ :=
      tenant_of_mem_predicatesFor hclosed (mem_uniq.mp hp)
    exact ⟨route, hroute, htool,
      .inr ((hpredicate route hroute htool t htenant).mp hallows)⟩
  · rintro ⟨route, hroute, htool, hnone | hsame⟩
    · exact absurd ⟨route, hroute, htool, hnone⟩ hclosed
    · cases htenant : route.spec.tenant with
      | none => exact absurd ⟨route, hroute, htool, htenant⟩ hclosed
      | some t =>
          exact ⟨tenantPredicate t, mem_uniq.mpr (mem_predicatesFor.mpr
              ⟨route, hroute, htool, routePredicate_of_some htenant⟩),
            (hpredicate route hroute htool t htenant).mpr hsame⟩

end Closed

end Meaning

/-! ## The rules -/

/-- The tool a rule is for. -/
def toolName (rule : Json) : Option String :=
  (rule.get "tool_name").bind Json.asStr

/-- The first rule for a tool. -/
def toolRule (tool : String) (config : Json) : Option Json :=
  (items rulesPath config).find? (isRuleFor tool)

/-- What becomes of the first rule for a tool. -/
def foldedRule (tool e : String) : Option Json → Json
  | none =>
      .obj
        [("cel_allow_if", .str e), ("minimum_trust", .str "verified"),
          ("tool_name", .str tool)]
  | some rule =>
      set "cel_allow_if" (.str (combinedRule (conditionOf rule) e)) rule

theorem toolName_foldedRule {tool e : String} {base : Option Json}
    (h : ∀ rule, base = some rule → isRuleFor tool rule = true) :
    toolName (foldedRule tool e base) = some tool := by
  cases base with
  | none => rfl
  | some rule =>
      unfold foldedRule toolName
      rw [get_set_ne (by decide)]
      exact beq_iff_eq.mp (h rule rfl)

theorem conditionOf_foldedRule (tool e : String) (base : Option Json) :
    conditionOf (foldedRule tool e base) =
      some (combinedRule (base.bind conditionOf) e) := by
  cases base with
  | none => rfl
  | some rule =>
      unfold foldedRule conditionOf
      rw [get_set_self]
      rfl

/-- The rules before the first one for the tool stay, and so do those after
it. -/
theorem foldToolRule_eq (tool e : String) (rules : List Json) :
    (rules.find? (isRuleFor tool) = none ∧
      foldToolRule tool e rules = rules ++ [foldedRule tool e none]) ∨
    ∃ before rule after, rules = before ++ rule :: after ∧
      (∀ r ∈ before, isRuleFor tool r = false) ∧
      isRuleFor tool rule = true ∧
      foldToolRule tool e rules =
        before ++ foldedRule tool e (some rule) :: after := by
  induction rules with
  | nil => exact .inl ⟨rfl, rfl⟩
  | cons rule rules ih =>
      cases hrule : isRuleFor tool rule with
      | true =>
          refine .inr ⟨[], rule, rules, rfl,
            fun r h => absurd h List.not_mem_nil, hrule, ?_⟩
          exact if_pos hrule
      | false =>
          have hstep : foldToolRule tool e (rule :: rules) =
              rule :: foldToolRule tool e rules :=
            if_neg (Bool.eq_false_iff.mp hrule)
          rcases ih with ⟨hnone, heq⟩ |
            ⟨before, found, after, rfl, hbefore, hfound, heq⟩
          · refine .inl ⟨?_, by rw [hstep, heq, List.cons_append]⟩
            rw [List.find?_cons, hrule]
            exact hnone
          · exact .inr ⟨rule :: before, found, after, rfl,
              List.forall_mem_cons.mpr ⟨hrule, hbefore⟩, hfound,
              by rw [hstep, heq, List.cons_append]⟩

theorem isRuleFor_iff {tool : String} {rule : Json} :
    isRuleFor tool rule = true ↔ toolName rule = some tool := beq_iff_eq

theorem find?_append_cons {α : Type} {p : α → Bool} {before after : List α}
    {x : α} (hbefore : ∀ y ∈ before, p y = false) (hx : p x = true) :
    (before ++ x :: after).find? p = some x := by
  rw [List.find?_append, List.find?_cons, hx,
    List.find?_eq_none.mpr fun y hy => by simp [hbefore y hy]]
  rfl

theorem find?_foldToolRule (tool e : String) (rules : List Json) :
    (foldToolRule tool e rules).find? (isRuleFor tool) =
      some (foldedRule tool e (rules.find? (isRuleFor tool))) := by
  rcases foldToolRule_eq tool e rules with
    ⟨hnone, heq⟩ | ⟨before, rule, after, rfl, hbefore, hrule, heq⟩
  · rw [heq, hnone, List.find?_append, hnone]
    have hnew : isRuleFor tool (foldedRule tool e none) = true :=
      isRuleFor_iff.mpr rfl
    rw [Option.none_or, List.find?_cons, hnew]
  · rw [heq, find?_append_cons hbefore hrule, find?_append_cons hbefore]
    refine isRuleFor_iff.mpr (toolName_foldedRule fun r hr => ?_)
    obtain rfl := Option.some.inj hr
    exact hrule

/-- Nothing that a rule for another tool, or for none, is kept by tells the
rules apart. -/
theorem filter_foldToolRule {tool : String} (e : String)
    {keep : Option String → Bool} (h : keep (some tool) = false)
    (rules : List Json) :
    (foldToolRule tool e rules).filter (fun rule => keep (toolName rule)) =
      rules.filter fun rule => keep (toolName rule) := by
  have hdrop : ∀ {base}, (∀ rule, base = some rule →
      isRuleFor tool rule = true) →
      keep (toolName (foldedRule tool e base)) = false := by
    intro base hbase
    rw [toolName_foldedRule hbase]
    exact h
  rcases foldToolRule_eq tool e rules with
    ⟨-, heq⟩ | ⟨before, rule, after, rfl, -, hrule, heq⟩
  · have hnew : keep (toolName (foldedRule tool e none)) = false := h
    rw [heq, List.filter_append, List.filter_cons, hnew]
    simp
  · have hbase : ∀ r, some rule = some r → isRuleFor tool r = true := by
      intro r hr
      rwa [← Option.some.inj hr]
    rw [heq, List.filter_append, List.filter_append, List.filter_cons,
      List.filter_cons, hdrop hbase, isRuleFor_iff.mp hrule, h,
      if_neg Bool.false_ne_true, if_neg Bool.false_ne_true]

/-- The loop over the tools. -/
def foldTools (tools : List String) (e : String → String)
    (rules : List Json) : List Json :=
  tools.foldl (fun rules tool => foldToolRule tool (e tool) rules) rules

theorem filter_foldTools {tools : List String} (e : String → String)
    {keep : Option String → Bool}
    (h : ∀ tool ∈ tools, keep (some tool) = false) (rules : List Json) :
    (foldTools tools e rules).filter (fun rule => keep (toolName rule)) =
      rules.filter fun rule => keep (toolName rule) := by
  unfold foldTools
  induction tools generalizing rules with
  | nil => rfl
  | cons tool tools ih =>
      obtain ⟨htool, htools⟩ := List.forall_mem_cons.mp h
      rw [List.foldl_cons, ih htools, filter_foldToolRule _ htool]

theorem find?_foldTools_of_not_mem {tools : List String}
    (e : String → String) {tool : String} (h : tool ∉ tools)
    (rules : List Json) :
    (foldTools tools e rules).find? (isRuleFor tool) =
      rules.find? (isRuleFor tool) := by
  have hkeep : ∀ t ∈ tools, (some t == some tool) = false := by
    intro t ht
    have hne : t ≠ tool := fun heq => h (heq ▸ ht)
    simpa using hne
  have hfilter : (foldTools tools e rules).filter (isRuleFor tool) =
      rules.filter (isRuleFor tool) :=
    @filter_foldTools tools e (· == some tool) hkeep rules
  rw [← List.head?_filter, hfilter, List.head?_filter]

theorem find?_foldTools {tools : List String} (htools : tools.Nodup)
    (e : String → String) {tool : String} (h : tool ∈ tools)
    (rules : List Json) :
    (foldTools tools e rules).find? (isRuleFor tool) =
      some (foldedRule tool (e tool) (rules.find? (isRuleFor tool))) := by
  induction tools generalizing rules with
  | nil => exact absurd h List.not_mem_nil
  | cons t tools ih =>
      obtain ⟨hnotin, htail⟩ := List.nodup_cons.mp htools
      show (foldTools tools e (foldToolRule t (e t) rules)).find? _ = _
      rcases List.mem_cons.mp h with rfl | hmem
      · rw [find?_foldTools_of_not_mem e hnotin, find?_foldToolRule]
      · have hne : t ≠ tool := by
          rintro rfl
          exact hnotin hmem
        rw [ih htail hmem]
        have hfirst := @find?_foldTools_of_not_mem [t] e tool
          (by simpa using Ne.symm hne) rules
        exact congrArg (fun base => some (foldedRule tool (e tool) base))
          hfirst

/-! ## The fan-in -/

/-- The gateway the routes fan into. -/
structure RouteTarget where
  api : GatewayApi
  name : String
  ns : String
  accepted : List String

namespace RouteTarget

variable (gw : RouteTarget)

/-- The route targets the gateway, from the gateway's own namespace or one it
accepts. -/
def Targets (route : MCPGRoute) : Prop :=
  ∃ ns, route.metadata.namespace_ = some ns ∧
    route.spec.gatewayRef = gw.name ∧
    gw.api.gatewayNamespace route.spec ns = gw.ns ∧
    (ns = gw.ns ∨ ns ∈ gw.accepted)

/-- The routes the fan-in takes. -/
def selected (routes : List MCPGRoute) : List MCPGRoute :=
  routes.filter (routeAccepted gw.api gw.name gw.ns gw.accepted)

theorem routeAccepted_iff {route : MCPGRoute} :
    routeAccepted gw.api gw.name gw.ns gw.accepted route = true ↔
      gw.Targets route := by
  unfold routeAccepted Targets
  cases route.metadata.namespace_ with
  | none => simp
  | some ns => simp [and_assoc]

theorem mem_selected {routes : List MCPGRoute} {route : MCPGRoute} :
    route ∈ gw.selected routes ↔ route ∈ routes ∧ gw.Targets route := by
  unfold selected
  rw [List.mem_filter, routeAccepted_iff]

def apply (routes : List MCPGRoute) (config : Json) : Json × Nat :=
  applyRoutesToConfig gw.api routes gw.name gw.ns gw.accepted config

/-- The rules after the routes that target the gateway. -/
def foldRoutes (routes : List MCPGRoute) : List Json → List Json :=
  foldTools (namedTools routes) (toolCel · routes)

theorem apply_eq (routes : List MCPGRoute) (config : Json) :
    gw.apply routes config =
      (if (namedTools (gw.selected routes)).isEmpty then config
        else
          ensurePath rulesPath
            (fun rules =>
              .arr (foldRoutes (gw.selected routes)
                (rules.asArray.getD [])))
            config,
        (gw.selected routes).length) := by
  have hfold : ∀ arr : List Json,
      (toolPredicates (gw.selected routes)).foldl
          (fun arr e => foldToolRule e.1 (combinePredicates e.2) arr) arr =
        foldRoutes (gw.selected routes) arr := by
    intro arr
    rw [toolPredicates_eq, List.foldl_map]
    rfl
  have hempty : (namedTools (gw.selected routes)).isEmpty =
      (toolPredicates (gw.selected routes)).isEmpty := List.isEmpty_map
  simp only [← hfold, hempty]
  unfold apply applyRoutesToConfig
  dsimp only
  split
  · next h => exact congrArg (·, _) (if_pos h).symm
  · next h => exact congrArg (·, _) (if_neg h).symm

theorem items_apply (routes : List MCPGRoute) (config : Json) :
    items rulesPath (gw.apply routes config).1 =
      foldRoutes (gw.selected routes) (items rulesPath config) := by
  rw [apply_eq]
  dsimp only
  split
  · next hempty =>
    unfold foldRoutes
    rw [List.isEmpty_iff.mp hempty]
    rfl
  · unfold items
    rw [getPath_ensurePath]
    cases getPath rulesPath config with
    | none => rfl
    | some rules => rfl

/-- The order in which the routes are listed leaves the config as it is. -/
theorem apply_perm {routes routes' : List MCPGRoute}
    (h : routes.Perm routes') (config : Json) :
    gw.apply routes config = gw.apply routes' config := by
  have hselected : (gw.selected routes).Perm (gw.selected routes') :=
    h.filter _
  have hnames : namedTools (gw.selected routes) =
      namedTools (gw.selected routes') := by
    refine (sorted_namedTools _).eq_of_mem_iff (sorted_namedTools _)
      fun tool => ?_
    rw [mem_namedTools, mem_namedTools]
    simp only [hselected.mem_iff]
  have hcel : (toolCel · (gw.selected routes)) =
      (toolCel · (gw.selected routes')) :=
    funext fun tool =>
      combinePredicates_perm (hselected.flatMap_right _)
  rw [apply_eq, apply_eq]
  unfold foldRoutes
  rw [hnames, hcel, hselected.length_eq]

/-- A route that is not for the gateway might as well not be listed. -/
theorem apply_skip {route : MCPGRoute} (h : ¬ gw.Targets route)
    (before after : List MCPGRoute) (config : Json) :
    gw.apply (before ++ route :: after) config =
      gw.apply (before ++ after) config := by
  have hselected : gw.selected (before ++ route :: after) =
      gw.selected (before ++ after) := by
    unfold selected
    rw [List.filter_append, List.filter_cons_of_neg
      (fun haccepted => h (gw.routeAccepted_iff.mp haccepted)),
      List.filter_append]
  rw [apply_eq, apply_eq, hselected]

/-- A tool that a route for the gateway names. -/
def Names (routes : List MCPGRoute) (tool : String) : Prop :=
  ∃ route ∈ routes, gw.Targets route ∧ tool ∈ route.spec.tools

theorem mem_namedTools_selected {routes : List MCPGRoute} {tool : String} :
    tool ∈ namedTools (gw.selected routes) ↔ gw.Names routes tool := by
  rw [mem_namedTools]
  simp only [mem_selected, Names, and_assoc]

theorem toolRule_apply {routes : List MCPGRoute} {tool : String}
    (h : gw.Names routes tool) (config : Json) :
    toolRule tool (gw.apply routes config).1 =
      some (foldedRule tool (toolCel tool (gw.selected routes))
        (toolRule tool config)) := by
  unfold toolRule
  rw [items_apply]
  exact find?_foldTools (sorted_namedTools _).nodup _
    (gw.mem_namedTools_selected.mpr h) _

section Semantics

variable {Identity : Type} (cel : Cel Identity)

/-- The first rule for the tool is there, and allows the identity. -/
def Allowed (config : Json) (tool : String) (i : Identity) : Prop :=
  ∃ rule, toolRule tool config = some rule ∧ ruleAllows cel rule i = true

/-- What the fan-in makes of the rules. -/
structure Meaning (routes : List MCPGRoute) (config : Json) : Prop where
  /-- A tool the routes name is allowed by its base rule, or by a route. -/
  allowed : ∀ tool, gw.Names routes tool → ∀ i,
    Allowed cel (gw.apply routes config).1 tool i ↔
      Allowed cel config tool i ∨
        ∃ route ∈ routes, gw.Targets route ∧ tool ∈ route.spec.tools ∧
          (route.spec.tenant = none ∨ route.spec.tenant = cel.tenant i)
  order : ∀ routes', routes.Perm routes' →
    gw.apply routes' config = gw.apply routes config
  /-- A route that is not for the gateway has no effect. -/
  foreign : ∀ before route after, routes = before ++ route :: after →
    ¬ gw.Targets route →
    gw.apply (before ++ after) config = gw.apply routes config
  /-- The rules for the other tools, and for none, in their order. -/
  others : ∀ keep : Option String → Bool,
    (∀ tool, gw.Names routes tool → keep (some tool) = false) →
    (items rulesPath (gw.apply routes config).1).filter
        (fun rule => keep (toolName rule)) =
      (items rulesPath config).filter fun rule => keep (toolName rule)

/-- The routes leave the tool to everybody, or its base rule does in so many
words, or the base rule is conditional and the tenants can be quoted. -/
def Foldable (routes : List MCPGRoute) (config : Json) (tool : String) :
    Prop :=
  OpenTo tool routes ∨
    (toolRule tool config).bind conditionOf = some "true" ∨
    ((∀ rule, toolRule tool config = some rule →
        conditionOf rule ≠ none) ∧
      Quotable tool routes)

variable {gw cel} {routes : List MCPGRoute} {config : Json} {tool : String}

theorem admits_selected {i : Identity} :
    Admits cel (gw.selected routes) tool i ↔
      ∃ route ∈ routes, gw.Targets route ∧ tool ∈ route.spec.tools ∧
        (route.spec.tenant = none ∨ route.spec.tenant = cel.tenant i) := by
  simp only [Admits, mem_selected, and_assoc]

theorem predicatesFor_selected_ne_nil (h : gw.Names routes tool) :
    predicatesFor tool (gw.selected routes) ≠ [] := by
  obtain ⟨route, hroute, htargets, htool⟩ := h
  exact predicatesFor_ne_nil_iff.mpr
    ⟨route, gw.mem_selected.mpr ⟨hroute, htargets⟩, htool⟩

theorem allowed_apply (h : gw.Names routes tool) (i : Identity) :
    Allowed cel (gw.apply routes config).1 tool i ↔
      cel.allows
        (combinedRule ((toolRule tool config).bind conditionOf)
          (toolCel tool (gw.selected routes))) i = true := by
  unfold Allowed
  rw [toolRule_apply gw h config]
  simp only [Option.some.injEq, exists_eq_left', ruleAllows,
    conditionOf_foldedRule]

theorem allowed_of_conditionOf {p : String}
    (h : (toolRule tool config).bind conditionOf = some p) (i : Identity) :
    Allowed cel config tool i ↔ cel.allows p i = true := by
  obtain ⟨rule, hrule, hcond⟩ := Option.bind_eq_some_iff.mp h
  unfold Allowed
  rw [hrule]
  simp only [Option.some.injEq, exists_eq_left', ruleAllows, hcond]

section Named

variable (h : gw.Names routes tool)
  (hexpr : ∀ rule, toolRule tool config = some rule →
    ∀ e, conditionOf rule = some e → cel.Expr e)

include h hexpr

theorem allowed_iff_of_foldable
    (hfoldable : Foldable (gw.selected routes) config tool)
    (i : Identity) :
    Allowed cel (gw.apply routes config).1 tool i ↔
      Allowed cel config tool i ∨
        Admits cel (gw.selected routes) tool i := by
  rw [allowed_apply h]
  by_cases hopen : OpenTo tool (gw.selected routes)
  · obtain ⟨route, hroute, htool, htenant⟩ := id hopen
    have hcel : toolCel tool (gw.selected routes) = "true" :=
      combinePredicates_of_true (true_mem_predicatesFor.mpr hopen)
    rw [hcel, combinedRule_of_cel_true]
    exact iff_of_true (cel.allows_true i)
      (.inr ⟨route, hroute, htool, .inl htenant⟩)
  · rcases hfoldable.resolve_left hopen with htrue | ⟨hcond, hquotable⟩
    · rw [allowed_of_conditionOf htrue, htrue, combinedRule_of_prev_true]
      exact iff_of_true (cel.allows_true i) (.inl (cel.allows_true i))
    · have hnamed : predicatesFor tool (gw.selected routes) ≠ [] :=
        predicatesFor_selected_ne_nil h
      have hcel : cel.allows (toolCel tool (gw.selected routes)) i = true ↔
          Admits cel (gw.selected routes) tool i :=
        allows_toolCel hnamed hopen hquotable i
      cases hbase : toolRule tool config with
      | none =>
          have hnot : ¬ Allowed cel config tool i := by
            rintro ⟨rule, hrule, -⟩
            rw [hbase] at hrule
            cases hrule
          rw [or_iff_right hnot]
          exact hcel
      | some rule =>
          obtain ⟨p, hp⟩ :=
            Option.ne_none_iff_exists'.mp (hcond rule hbase)
          have hprev : (toolRule tool config).bind conditionOf = some p := by
            rw [hbase]
            exact hp
          rw [allowed_of_conditionOf hprev, Option.bind_some, hp,
            allows_combinedRule (hexpr rule hbase p hp)
              (expr_toolCel hnamed hopen hquotable),
            Bool.or_eq_true, hcel]

theorem foldable_of_allowed_iff
    (hmeans : ∀ i, Allowed cel (gw.apply routes config).1 tool i ↔
      Allowed cel config tool i ∨
        Admits cel (gw.selected routes) tool i) :
    Foldable (gw.selected routes) config tool := by
  have hnamed : predicatesFor tool (gw.selected routes) ≠ [] :=
    predicatesFor_selected_ne_nil h
  by_cases hopen : OpenTo tool (gw.selected routes)
  · exact .inl hopen
  · by_cases htrue : (toolRule tool config).bind conditionOf = some "true"
    · exact .inr (.inl htrue)
    · by_cases hquotable : Quotable tool (gw.selected routes)
      · refine .inr (.inr ⟨fun rule hrule hnone => hopen ?_, hquotable⟩)
        -- whoever has no tenant was allowed, and no tenant admits them
        have hbefore : Allowed cel config tool cel.anonymous := by
          refine ⟨rule, hrule, ?_⟩
          unfold ruleAllows
          rw [hnone]
        have hafter := (allowed_apply h _).mp
          ((hmeans cel.anonymous).mpr (.inl hbefore))
        rw [hrule, Option.bind_some, hnone] at hafter
        obtain ⟨route, hroute, htool, htenant⟩ :=
          (allows_toolCel hnamed hopen hquotable _).mp hafter
        rw [cel.tenant_anonymous, or_self] at htenant
        exact ⟨route, hroute, htool, htenant⟩
      · have hbroken : cel.Broken (toolCel tool (gw.selected routes)) :=
          broken_toolCel hnamed hopen hquotable
        unfold Quotable at hquotable
        push Not at hquotable
        obtain ⟨route, hroute, htool, t, htenant, -⟩ := hquotable
        -- a member of the tenant is admitted, and the rule allows nobody
        have hadmits : Admits cel (gw.selected routes) tool
            (cel.member t) :=
          ⟨route, hroute, htool, .inr (by rw [htenant, cel.tenant_member])⟩
        have hafter := (allowed_apply h _).mp
          ((hmeans (cel.member t)).mpr (.inr hadmits))
        have hdenies : cel.allows
            (combinedRule ((toolRule tool config).bind conditionOf)
              (toolCel tool (gw.selected routes))) (cel.member t) =
            false := by
          cases hprev : (toolRule tool config).bind conditionOf with
          | none => exact cel.allows_broken _ _ hbroken
          | some p =>
              obtain ⟨rule, hrule, hcond⟩ := Option.bind_eq_some_iff.mp hprev
              refine not_allows_combinedRule (hexpr rule hrule p hcond) ?_
                hbroken _
              rintro rfl
              exact htrue hprev
        rw [hdenies] at hafter
        cases hafter

end Named

/-- The fan-in means what it should exactly when every tool it touches can be
folded into. -/
theorem meaning_iff
    (hexpr : ∀ tool, gw.Names routes tool →
      ∀ rule, toolRule tool config = some rule →
      ∀ e, conditionOf rule = some e → cel.Expr e) :
    Meaning gw cel routes config ↔
      ∀ tool, gw.Names routes tool →
        Foldable (gw.selected routes) config tool := by
  constructor
  · intro hmeaning tool hnamed
    refine foldable_of_allowed_iff hnamed (hexpr tool hnamed) fun i => ?_
    rw [admits_selected]
    exact hmeaning.allowed tool hnamed i
  · intro hfoldable
    refine ⟨fun tool hnamed i => ?_, fun routes' h => ?_, ?_,
      fun keep h => ?_⟩
    · rw [← admits_selected]
      exact allowed_iff_of_foldable hnamed (hexpr tool hnamed)
        (hfoldable tool hnamed) i
    · exact apply_perm gw h.symm config
    · rintro before route after rfl hroute
      exact (apply_skip gw hroute before after config).symm
    · rw [items_apply]
      exact filter_foldTools _
        (fun tool htool => h tool (gw.mem_namedTools_selected.mp htool)) _

end Semantics

end RouteTarget

namespace Sample

def catalog : RouteTarget :=
  { api := gatewayApi, name := "edge", ns := "payments"
    accepted := ["team-a"] }

/-- A route of the tenant to one tool of the gateway. -/
def ordersRoute (ns tenant : String) : MCPGRoute :=
  { metadata := { name := some "orders", namespace_ := some ns }
    spec :=
      { gatewayRef := "edge", gatewayRefNamespace := some "payments"
        tools := ["orders.read"], tenant := some tenant } }

/-- A rule for the tool, with this condition if any. -/
def ordersRule (condition : Option String) : Json :=
  setOptional "cel_allow_if" (condition.map .str)
    (.obj
      [("minimum_trust", .str "verified"), ("tool_name", .str "orders.read")])

def withRules (rules : List Json) : Json :=
  .obj
    [("governance", .obj
      [("policy", .obj [("tool_access", .obj [("rules", .arr rules)])])])]

end Sample

namespace RouteTarget

open Sample

/-- The rule of one tenant, and a second and a third one's routes; the third
comes from a namespace that is not accepted. -/
theorem meaning_catalog :
    Meaning catalog CelFragment.fragment
      [ordersRoute "team-a" "acme", ordersRoute "team-b" "umbrella"]
      (withRules [ordersRule (some (tenantPredicate "globex"))]) := by
  have hrule : toolRule "orders.read"
      (withRules [ordersRule (some (tenantPredicate "globex"))]) =
      some (ordersRule (some (tenantPredicate "globex"))) := rfl
  have hcond : conditionOf (ordersRule (some (tenantPredicate "globex"))) =
      some (tenantPredicate "globex") := rfl
  have hselected : catalog.selected
      [ordersRoute "team-a" "acme", ordersRoute "team-b" "umbrella"] =
      [ordersRoute "team-a" "acme"] := by decide
  have htool : ∀ tool, catalog.Names
      [ordersRoute "team-a" "acme", ordersRoute "team-b" "umbrella"] tool →
      tool = "orders.read" := by
    rintro tool ⟨route, hroute, -, hmem⟩
    simp only [List.mem_cons, List.not_mem_nil, or_false] at hroute
    rcases hroute with rfl | rfl
    · exact List.mem_singleton.mp hmem
    · exact List.mem_singleton.mp hmem
  refine (meaning_iff fun tool hnamed rule h e he => ?_).mpr
    fun tool hnamed => ?_
  · obtain rfl := htool tool hnamed
    rw [hrule] at h
    obtain rfl := Option.some.inj h
    rw [hcond] at he
    obtain rfl := Option.some.inj he
    exact CelFragment.fragment.expr_tenant "globex" (by decide)
  · obtain rfl := htool tool hnamed
    refine .inr (.inr ⟨fun rule h => ?_, ?_⟩)
    · rw [hrule] at h
      obtain rfl := Option.some.inj h
      rw [hcond]
      exact Option.some_ne_none _
    · rw [hselected]
      intro route hroute _ t ht
      obtain rfl := List.mem_singleton.mp hroute
      obtain rfl := Option.some.inj ht
      decide

/-- A rule without a condition is for everybody, until a route is folded into
it. -/
theorem not_meaning_unconditional :
    ¬ Meaning catalog CelFragment.fragment [ordersRoute "team-a" "acme"]
      (withRules [ordersRule none]) := by
  intro hmeaning
  have hnamed : catalog.Names [ordersRoute "team-a" "acme"]
      "orders.read" :=
    ⟨_, List.mem_cons_self, catalog.routeAccepted_iff.mp (by decide),
      List.mem_cons_self⟩
  have hbefore : Allowed CelFragment.fragment (withRules [ordersRule none])
      "orders.read" none := ⟨ordersRule none, rfl, rfl⟩
  have hafter := (allowed_apply hnamed none).mp
    ((hmeaning.allowed _ hnamed none).mpr (.inl hbefore))
  revert hafter
  decide +kernel

end RouteTarget

end McpgOperator.Gateway
