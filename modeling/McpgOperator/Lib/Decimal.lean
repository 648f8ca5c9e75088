import Mathlib.Data.Rat.Floor
import Mathlib.Algebra.Order.Field.Power
import Mathlib.Tactic.Ring
import Mathlib.Tactic.Linarith
import Mathlib.Tactic.FieldSimp

/-!
# Decimal numbers as floats are parsed

The grammar of `f64::from_str`: a sign, digits with a point somewhere, an
exponent, or one of the names of what is no number. What is read is kept
exact, so a float is a rational or one of those.
-/

namespace Decimal

def isDigit (c : Char) : Bool := '0' ≤ c && c ≤ '9'

/-- The number of these digits, the first the most significant. -/
def ofDigits (cs : List Char) : Nat :=
  cs.foldl (fun n c => 10 * n + (c.toNat - 48)) 0

/-! ## The parser -/

inductive F64
  | finite (q : ℚ)
  | infinite (negative : Bool)
  | nan
  deriving DecidableEq

/-- Times a positive number. -/
def F64.scale (k : ℚ) : F64 → F64
  | finite q => finite (q * k)
  | infinite negative => infinite negative
  | nan => nan

/-- `as i64`: towards zero, and to the nearest bound from without. -/
def F64.toI64 : F64 → Int
  | finite q => max (-2 ^ 63) (min (q.num.tdiv q.den) (2 ^ 63 - 1))
  | infinite true => -2 ^ 63
  | infinite false => 2 ^ 63 - 1
  | nan => 0

/-- A sign, and what follows it; with no sign the number is positive. -/
def takeSign : List Char → Bool × List Char
  | '-' :: cs => (true, cs)
  | '+' :: cs => (false, cs)
  | cs => (false, cs)

/-- What follows `e`. -/
def parseExponent (cs : List Char) : Option Int :=
  let (negative, digits) := takeSign cs
  if digits.isEmpty || !digits.all isDigit then none
  else if negative then some (-(ofDigits digits : Int))
  else some (ofDigits digits)

/-- What follows the digits. -/
def parseTail : List Char → Option Int
  | [] => some 0
  | c :: cs => if c = 'e' ∨ c = 'E' then parseExponent cs else none

/-- The digits behind a point, and what follows them. -/
def takeFraction : List Char → List Char × List Char
  | '.' :: cs => (cs.takeWhile isDigit, cs.dropWhile isDigit)
  | cs => ([], cs)

/-- A number without a sign. -/
def parseNumber (cs : List Char) : Option ℚ :=
  let int := cs.takeWhile isDigit
  let (frac, rest) := takeFraction (cs.dropWhile isDigit)
  if int.isEmpty && frac.isEmpty then none
  else (parseTail rest).map fun e =>
    (ofDigits (int ++ frac) : ℚ) * (10 : ℚ) ^ (e - (frac.length : Int))

def parseInfNan (negative : Bool) (cs : List Char) : Option F64 :=
  let cs := cs.map Char.toLower
  if cs = "inf".toList ∨ cs = "infinity".toList then
    some (.infinite negative)
  else if cs = "nan".toList then some .nan
  else none

/-- `s.parse::<f64>()`. -/
def parse (cs : List Char) : Option F64 :=
  let (negative, cs) := takeSign cs
  match parseNumber cs with
  | some q => some (.finite (if negative then -q else q))
  | none => parseInfNan negative cs

/-! ## The grammar -/

/-- Digits with a point before, between or behind them, or none. -/
structure Numeral where
  int : List Char
  frac : Option (List Char)
  int_digits : ∀ c ∈ int, isDigit c = true
  frac_digits : ∀ c ∈ frac.getD [], isDigit c = true
  ne_nil : int ≠ [] ∨ frac.getD [] ≠ []

/-- A sign that is there, or not; true for a minus. -/
def signText : Option Bool → List Char
  | none => []
  | some false => ['+']
  | some true => ['-']

def signed {α : Type} [Neg α] (sign : Option Bool) (a : α) : α :=
  if sign = some true then -a else a

structure Exponent where
  upper : Bool
  sign : Option Bool
  digits : List Char
  digits_ok : ∀ c ∈ digits, isDigit c = true
  ne_nil : digits ≠ []

namespace Numeral

variable (n : Numeral)

def fracText : List Char :=
  match n.frac with
  | none => []
  | some digits => '.' :: digits

def text : List Char := n.int ++ n.fracText

/-- The part before the point and the part behind it. -/
def value : ℚ :=
  ofDigits n.int + ofDigits (n.frac.getD []) / 10 ^ (n.frac.getD []).length

end Numeral

namespace Exponent

variable (e : Exponent)

def text : List Char :=
  (if e.upper then 'E' else 'e') :: (signText e.sign ++ e.digits)

def value : Int := signed e.sign (ofDigits e.digits : Int)

end Exponent

/-! ## Digits -/

theorem foldl_digits (cs : List Char) (n : Nat) :
    cs.foldl (fun n c => 10 * n + (c.toNat - 48)) n =
      n * 10 ^ cs.length + ofDigits cs := by
  unfold ofDigits
  induction cs generalizing n with
  | nil => simp
  | cons c cs ih =>
      rw [List.foldl_cons, List.foldl_cons, ih, ih (10 * 0 + _),
        List.length_cons]
      ring

theorem ofDigits_append (a b : List Char) :
    ofDigits (a ++ b) = ofDigits a * 10 ^ b.length + ofDigits b := by
  have happend : ofDigits (a ++ b) =
      b.foldl (fun n c => 10 * n + (c.toNat - 48)) (ofDigits a) :=
    List.foldl_append
  rw [happend, foldl_digits]

namespace Numeral

variable (n : Numeral)

/-- The digits as one number, and where the point is. -/
theorem value_eq :
    n.value = (ofDigits (n.int ++ n.frac.getD []) : ℚ) /
      10 ^ (n.frac.getD []).length := by
  have hne : (10 : ℚ) ^ (n.frac.getD []).length ≠ 0 := by positivity
  rw [ofDigits_append, value]
  push_cast
  field_simp

end Numeral

/-! ## What the parser reads -/

theorem ne_of_isDigit {c d : Char} (hc : isDigit c = true)
    (hd : isDigit d = false) : c ≠ d := by
  rintro rfl
  rw [hc] at hd
  cases hd

theorem takeSign_signText {cs : List Char}
    (h : ∀ c ∈ cs.head?, c ≠ '-' ∧ c ≠ '+') (sign : Option Bool) :
    takeSign (signText sign ++ cs) = (decide (sign = some true), cs) := by
  cases sign with
  | none =>
      cases cs with
      | nil => rfl
      | cons c cs =>
          obtain ⟨hminus, hplus⟩ := h c rfl
          show takeSign (c :: cs) = _
          unfold takeSign
          split
          · next heq => exact absurd (List.cons.inj heq).1 hminus
          · next heq => exact absurd (List.cons.inj heq).1 hplus
          · rfl
  | some negative =>
      cases negative with
      | false => rfl
      | true => rfl

namespace Exponent

variable (e : Exponent)

theorem parseExponent_text :
    parseExponent (signText e.sign ++ e.digits) = some e.value := by
  have hhead : ∀ c ∈ e.digits.head?, c ≠ '-' ∧ c ≠ '+' := by
    intro c hc
    have hdigit := e.digits_ok c (List.mem_of_head? hc)
    exact ⟨ne_of_isDigit hdigit (by decide), ne_of_isDigit hdigit (by decide)⟩
  have hall : e.digits.all isDigit = true :=
    List.all_eq_true.mpr e.digits_ok
  have hne : e.digits.isEmpty = false :=
    List.isEmpty_eq_false_iff.mpr e.ne_nil
  unfold parseExponent value signed
  rw [takeSign_signText hhead]
  dsimp only
  rw [hall, hne, if_neg (by decide)]
  by_cases hsign : e.sign = some true
  · simp [hsign]
  · simp [hsign]

theorem parseTail_text : parseTail e.text = some e.value := by
  have hletter : (if e.upper then 'E' else 'e') = 'e' ∨
      (if e.upper then 'E' else 'e') = 'E' := by
    cases e.upper
    · exact .inl rfl
    · exact .inr rfl
  rw [text, parseTail, if_pos hletter]
  exact e.parseExponent_text

end Exponent

namespace Numeral

variable (n : Numeral)

theorem takeWhile_digits {digits rest : List Char}
    (h : ∀ c ∈ digits, isDigit c = true)
    (hrest : ∀ c ∈ rest.head?, isDigit c = false) :
    (digits ++ rest).takeWhile isDigit = digits ∧
      (digits ++ rest).dropWhile isDigit = rest := by
  rw [List.takeWhile_append_of_pos h, List.dropWhile_append_of_pos h]
  cases rest with
  | nil => exact ⟨List.append_nil _, rfl⟩
  | cons c rest =>
      have hc : ¬ isDigit c = true := by simp [hrest c rfl]
      rw [List.takeWhile_cons_of_neg hc, List.dropWhile_cons_of_neg hc]
      exact ⟨List.append_nil _, rfl⟩

theorem takeFraction_text {rest : List Char}
    (h : ∀ c ∈ rest.head?, isDigit c = false ∧ c ≠ '.') :
    takeFraction (n.fracText ++ rest) = (n.frac.getD [], rest) := by
  unfold fracText
  cases hfrac : n.frac with
  | none =>
      cases rest with
      | nil => rfl
      | cons c rest =>
          show takeFraction (c :: rest) = _
          unfold takeFraction
          split
          · next heq => exact absurd (List.cons.inj heq).1 (h c rfl).2
          · rfl
  | some digits =>
      have hdigits := n.frac_digits
      rw [hfrac] at hdigits
      obtain ⟨htake, hdrop⟩ :=
        takeWhile_digits hdigits fun c hc => (h c hc).1
      show takeFraction ('.' :: (digits ++ rest)) = _
      rw [takeFraction]
      exact Prod.ext htake hdrop

theorem parseNumber_text {rest : List Char}
    (h : ∀ c ∈ rest.head?, isDigit c = false ∧ c ≠ '.') :
    parseNumber (n.text ++ rest) =
      (parseTail rest).map fun e => n.value * (10 : ℚ) ^ e := by
  have hstop : ∀ c ∈ (n.fracText ++ rest).head?, isDigit c = false := by
    intro c hc
    unfold fracText at hc
    cases hfrac : n.frac with
    | none =>
        rw [hfrac] at hc
        exact (h c hc).1
    | some digits =>
        rw [hfrac] at hc
        cases hc
        decide
  obtain ⟨htake, hdrop⟩ := takeWhile_digits n.int_digits hstop
  have hne : (n.int.isEmpty && (n.frac.getD []).isEmpty) = false := by
    rcases n.ne_nil with hint | hfrac
    · rw [List.isEmpty_eq_false_iff.mpr hint, Bool.false_and]
    · rw [List.isEmpty_eq_false_iff.mpr hfrac, Bool.and_false]
  unfold parseNumber text
  rw [List.append_assoc, htake, hdrop, n.takeFraction_text h]
  dsimp only
  rw [hne, if_neg Bool.false_ne_true]
  refine congrArg (Option.map · (parseTail rest)) (funext fun e => ?_)
  have hten : (10 : ℚ) ≠ 0 := by norm_num
  rw [n.value_eq, zpow_sub₀ hten, zpow_natCast]
  ring

/-- A numeral begins with a digit or its point. -/
theorem exists_text : ∃ c cs, n.text = c :: cs ∧
    (isDigit c = true ∨ c = '.') := by
  unfold text fracText
  cases hint : n.int with
  | cons c int =>
      have hc := n.int_digits c (hint ▸ List.mem_cons_self)
      exact ⟨c, _, rfl, .inl hc⟩
  | nil =>
      cases hfrac : n.frac with
      | some digits => exact ⟨'.', digits, rfl, .inr rfl⟩
      | none =>
          have hne := n.ne_nil
          rw [hint, hfrac] at hne
          simp at hne

/-- Where a number is no number it is none of the names. -/
theorem parseInfNan_text (negative : Bool) (rest : List Char) :
    parseInfNan negative (n.text ++ rest) = none := by
  obtain ⟨c, cs, htext, hc⟩ := n.exists_text
  have hlower : c.toLower = c := by
    rcases hc with hdigit | rfl
    · unfold isDigit at hdigit
      rw [Bool.and_eq_true, decide_eq_true_eq, decide_eq_true_eq] at hdigit
      have hrange : 48 ≤ c.toNat ∧ c.toNat ≤ 57 := hdigit
      refine dif_neg fun hupper => ?_
      have hupper : 65 ≤ c.toNat ∧ c.toNat ≤ 90 := hupper
      omega
    · rfl
  have hname : ∀ d name, isDigit d = false → d ≠ '.' →
      c.toLower :: (cs ++ rest).map Char.toLower ≠ d :: name := by
    intro d name hd hpoint heq
    rw [hlower] at heq
    rcases hc with hdigit | rfl
    · exact ne_of_isDigit hdigit hd (List.cons.inj heq).1
    · exact hpoint (List.cons.inj heq).1.symm
  rw [htext]
  unfold parseInfNan
  dsimp only
  rw [List.cons_append, List.map_cons, if_neg, if_neg]
  · exact hname 'n' _ (by decide) (by decide)
  · rintro (heq | heq)
    · exact hname 'i' _ (by decide) (by decide) heq
    · exact hname 'i' _ (by decide) (by decide) heq

end Numeral

/-- A signed numeral is read, with all that may follow it, when what follows
is an exponent. -/
theorem parse_text (sign : Option Bool) (n : Numeral) {rest : List Char}
    (h : ∀ c ∈ rest.head?, isDigit c = false ∧ c ≠ '.') :
    parse (signText sign ++ (n.text ++ rest)) =
      (parseTail rest).map fun e =>
        F64.finite (signed sign (n.value * (10 : ℚ) ^ e)) := by
  have hhead : ∀ c ∈ (n.text ++ rest).head?, c ≠ '-' ∧ c ≠ '+' := by
    intro d hd
    obtain ⟨c, cs, htext, hc⟩ := n.exists_text
    rw [htext] at hd
    cases hd
    rcases hc with hdigit | rfl
    · exact ⟨ne_of_isDigit hdigit (by decide),
        ne_of_isDigit hdigit (by decide)⟩
    · exact ⟨by decide, by decide⟩
  unfold parse
  rw [takeSign_signText hhead]
  dsimp only
  rw [n.parseNumber_text h]
  cases parseTail rest with
  | none => exact n.parseInfNan_text _ rest
  | some e =>
      unfold signed
      simp only [Option.map_some, decide_eq_true_eq]

/-! ## Conversion -/

theorem toI64_finite {q : ℚ} (h : 0 ≤ q) (hfits : q < 2 ^ 63) :
    (F64.finite q).toI64 = ⌊q⌋ := by
  have hfloor : q.num.tdiv q.den = ⌊q⌋ := by
    rw [Rat.floor_def', Int.tdiv_eq_ediv_of_nonneg (Rat.num_nonneg.mpr h)]
  have hle : 0 ≤ ⌊q⌋ := Int.floor_nonneg.mpr h
  have hlt : ⌊q⌋ < 2 ^ 63 := by
    rw [Int.floor_lt]
    exact_mod_cast hfits
  show max (-2 ^ 63) (min (q.num.tdiv q.den) (2 ^ 63 - 1)) = ⌊q⌋
  rw [hfloor]
  omega

end Decimal
