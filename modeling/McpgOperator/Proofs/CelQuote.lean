import McpgOperator.Gateway.Cel
import McpgOperator.Lib.CelCore

/-!
# The literals of `cel_quote`

Quotes and backslashes are escaped, so a literal is read back as what was
quoted, up to its own closing quote; a line feed or a carriage return is not,
and the literal that holds one is no literal.
-/

namespace McpgOperator.Gateway

open CelCore

/-- The text with its escapes. -/
def escaped (s : List Char) : List Char :=
  s.flatMap fun c => if c = '\\' ∨ c = '"' then ['\\', c] else [c]

theorem endsLine_iff {c : Char} :
    endsLine c = true ↔ c = '\n' ∨ c = '\r' := by
  simp [endsLine]

theorem toList_celQuote (s : String) :
    (celQuote s).toList = '"' :: (escaped s.toList ++ ['"']) := by
  unfold celQuote
  dsimp only
  rw [String.toList_ofList]
  rfl

theorem escaped_escape {c : Char} (h : c = '\\' ∨ c = '"')
    (s : List Char) : escaped (c :: s) = '\\' :: ([c] ++ escaped s) := by
  unfold escaped
  rw [List.flatMap_cons, if_pos h]
  rfl

theorem escaped_plain {c : Char} (h : ¬ (c = '\\' ∨ c = '"'))
    (s : List Char) : escaped (c :: s) = c :: escaped s := by
  unfold escaped
  rw [List.flatMap_cons, if_neg h]
  rfl

/-- A backslash or a quote behind a backslash stands for itself. -/
theorem escape_self {c : Char} (h : c = '\\' ∨ c = '"') : Escape [c] c := by
  rcases h with rfl | rfl
  · exact ⟨'\\', [], rfl, rfl, rfl⟩
  · exact ⟨'"', [], rfl, rfl, rfl⟩

/-- The literal is read back to its own quote, and not at all where it would
have to go over a line. -/
theorem readBody_escaped (s rest : List Char) :
    readBody 0 (escaped s ++ '"' :: rest) =
      if s.any endsLine then none else some (s, rest) := by
  induction s with
  | nil => rfl
  | cons c s ih =>
      rw [List.any_cons]
      by_cases hescape : c = '\\' ∨ c = '"'
      · have hline : endsLine c = false := by
          rcases hescape with rfl | rfl <;> decide
        rw [escaped_escape hescape, List.cons_append, List.append_assoc,
          readBody_escape (escape_self hescape), ih, hline, Bool.false_or]
        split <;> rfl
      · obtain ⟨hslash, hquote⟩ := not_or.mp hescape
        rw [escaped_plain hescape, List.cons_append]
        by_cases hline : c = '\n' ∨ c = '\r'
        · rw [readBody_lineEnd hline, endsLine_iff.mpr hline]
          rfl
        · obtain ⟨hfeed, hreturn⟩ := not_or.mp hline
          rw [readBody_plain hquote hslash hfeed hreturn, ih,
            Bool.eq_false_iff.mpr fun h => hline (endsLine_iff.mp h),
            Bool.false_or]
          split <;> rfl

end McpgOperator.Gateway
