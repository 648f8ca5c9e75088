import McpgOperator.Fleet.Quantity

/-!
# Which quantities are read exactly

A quantity is a decimal number and a suffix: one of the decimal and binary
units, or an exponent. The number and the exponent are read by the same parser
for both resources. Of the units each function knows some, and what it does
not know it takes for a malformed number, which counts as zero.
-/

namespace McpgOperator.Fleet

open McpgOperator.Text McpgOperator.Gateway Decimal

/-! ## Quantities -/

inductive Suffix
  | nano
  | micro
  | milli
  | one
  | kilo
  | mega
  | giga
  | tera
  | peta
  | exa
  | kibi
  | mebi
  | gibi
  | tebi
  | pebi
  | exbi
  | exponent (e : Exponent)

namespace Suffix

def text : Suffix → List Char
  | nano => ['n']
  | micro => ['u']
  | milli => ['m']
  | one => []
  | kilo => ['k']
  | mega => ['M']
  | giga => ['G']
  | tera => ['T']
  | peta => ['P']
  | exa => ['E']
  | kibi => ['K', 'i']
  | mebi => ['M', 'i']
  | gibi => ['G', 'i']
  | tebi => ['T', 'i']
  | pebi => ['P', 'i']
  | exbi => ['E', 'i']
  | exponent e => e.text

def factor : Suffix → ℚ
  | nano => 1 / 10 ^ 9
  | micro => 1 / 10 ^ 6
  | milli => 1 / 10 ^ 3
  | one => 1
  | kilo => 10 ^ 3
  | mega => 10 ^ 6
  | giga => 10 ^ 9
  | tera => 10 ^ 12
  | peta => 10 ^ 15
  | exa => 10 ^ 18
  | kibi => 2 ^ 10
  | mebi => 2 ^ 20
  | gibi => 2 ^ 30
  | tebi => 2 ^ 40
  | pebi => 2 ^ 50
  | exbi => 2 ^ 60
  | exponent e => (10 : ℚ) ^ e.value

/-- The suffixes a CPU quantity is read with. -/
def inCpu : Suffix → Bool
  | milli | one | exponent _ => true
  | _ => false

/-- The unit of memory of this suffix. -/
def memoryUnit : Suffix → Option Int
  | kilo => some (10 ^ 3)
  | mega => some (10 ^ 6)
  | giga => some (10 ^ 9)
  | tera => some (10 ^ 12)
  | kibi => some (2 ^ 10)
  | mebi => some (2 ^ 20)
  | gibi => some (2 ^ 30)
  | tebi => some (2 ^ 40)
  | pebi => some (2 ^ 50)
  | _ => none

/-- The suffixes a memory quantity is read with. -/
def inMemory : Suffix → Bool
  | one | exponent _ => true
  | s => s.memoryUnit.isSome

/-- The power of ten that belongs to the number. -/
def power : Suffix → Option Int
  | one => some 0
  | exponent e => some e.value
  | _ => none

end Suffix

structure Quantity where
  sign : Option Bool
  numeral : Numeral
  suffix : Suffix

namespace Quantity

variable (q : Quantity)

/-- The text without the suffix. -/
def body : List Char := signText q.sign ++ q.numeral.text

def text : String := String.ofList (q.body ++ q.suffix.text)

def value : ℚ := signed q.sign q.numeral.value * q.suffix.factor

end Quantity

/-- One of the two integers next to a number, or the number itself. -/
def IsNeighbour (n : Int) (x : ℚ) : Prop := n = ⌊x⌋ ∨ n = ⌈x⌉

/-! ## The text of a quantity -/

/-- A character a quantity without a unit ends in. -/
def EndsNumber (c : Char) : Prop := isDigit c = true ∨ c = '.'

theorem EndsNumber.ne {c d : Char} (h : EndsNumber c)
    (hdigit : isDigit d = false) (hpoint : d ≠ '.') : d ≠ c := by
  rintro rfl
  rcases h with h | h
  · rw [h] at hdigit
    cases hdigit
  · exact hpoint h

theorem EndsNumber.not_isWhitespace {c : Char} (h : EndsNumber c) :
    isWhitespace c = false := by
  rcases h with h | rfl
  · unfold isDigit at h
    rw [Bool.and_eq_true, decide_eq_true_eq, decide_eq_true_eq] at h
    exact not_isWhitespace_of_digit h
  · decide

theorem endsNumber_of_mem_numeral {n : Numeral} :
    ∀ c ∈ n.text, EndsNumber c := by
  intro c hc
  have hfrac := n.frac_digits
  unfold Numeral.text Numeral.fracText at hc
  rcases List.mem_append.mp hc with hc | hc
  · exact .inl (n.int_digits c hc)
  · cases hn : n.frac with
    | none =>
        rw [hn] at hc
        cases hc
    | some digits =>
        rw [hn] at hc hfrac
        rcases List.mem_cons.mp hc with rfl | hc
        · exact .inr rfl
        · exact .inl (hfrac c hc)

theorem not_isWhitespace_of_mem_sign {sign : Option Bool} :
    ∀ c ∈ signText sign, isWhitespace c = false := by
  intro c hc
  cases sign with
  | none => cases hc
  | some negative =>
      cases negative with
      | false =>
          rw [List.mem_singleton.mp hc]
          decide
      | true =>
          rw [List.mem_singleton.mp hc]
          decide

theorem not_isWhitespace_of_mem_suffix {s : Suffix} :
    ∀ c ∈ s.text, isWhitespace c = false := by
  cases s with
  | exponent e =>
      intro c hc
      rcases List.mem_cons.mp hc with rfl | hc
      · cases e.upper
        · decide
        · decide
      · rcases List.mem_append.mp hc with hc | hc
        · exact not_isWhitespace_of_mem_sign c hc
        · exact EndsNumber.not_isWhitespace (.inl (e.digits_ok c hc))
  | _ => exact not_isWhitespace_of_all (by decide)

namespace Quantity

variable (q : Quantity)

theorem trim_text :
    trimMatches isWhitespace q.text.toList = q.body ++ q.suffix.text := by
  unfold text
  rw [String.toList_ofList]
  refine trimMatches_eq_self fun c hc => ?_
  rcases List.mem_append.mp hc with hc | hc
  · rcases List.mem_append.mp hc with hc | hc
    · exact not_isWhitespace_of_mem_sign c hc
    · exact (endsNumber_of_mem_numeral c hc).not_isWhitespace
  · exact not_isWhitespace_of_mem_suffix c hc

theorem exists_getLast_body :
    ∃ c, q.body.getLast? = some c ∧ EndsNumber c := by
  obtain ⟨d, cs, htext, -⟩ := q.numeral.exists_text
  obtain ⟨c, hc⟩ := Option.isSome_iff_exists.mp
    (List.getLast?_isSome.mpr (htext ▸ List.cons_ne_nil d cs))
  refine ⟨c, ?_, endsNumber_of_mem_numeral c (List.mem_of_getLast? hc)⟩
  rw [body, List.getLast?_append, hc]
  rfl

end Quantity

theorem parseTail_suffix (s : Suffix) : parseTail s.text = s.power := by
  cases s with
  | exponent e => exact e.parseTail_text
  | _ => rfl

theorem head_suffix (s : Suffix) :
    ∀ c ∈ s.text.head?, isDigit c = false ∧ c ≠ '.' := by
  intro c hc
  cases s with
  | exponent e =>
      cases hc
      cases e.upper
      · decide
      · decide
  | one => cases hc
  | _ =>
      cases hc
      decide

/-! ## What the parsers make of it -/

theorem not_stripSuffix {suffix cs : List Char} {c d : Char}
    (hsuffix : suffix.getLast? = some c) (hcs : cs.getLast? = some d)
    (hne : c ≠ d) : stripSuffix suffix cs = none := by
  cases hstrip : stripSuffix suffix cs with
  | none => rfl
  | some rest =>
      rw [eq_append_of_stripSuffix hstrip, List.getLast?_append, hsuffix] at hcs
      exact absurd (Option.some.inj hcs) hne

theorem stripSuffix_append_eq (suffix cs ending : List Char) :
    stripSuffix suffix (cs ++ ending) =
      (stripPrefix suffix.reverse (ending.reverse ++ cs.reverse)).map
        List.reverse := by
  unfold stripSuffix
  rw [List.reverse_append]

/-- No unit is stripped from a number. -/
theorem stripUnit_eq_none {cs : List Char} {c : Char}
    (hcs : cs.getLast? = some c) (hc : EndsNumber c) :
    stripUnit cs = none := by
  refine List.findSome?_eq_none_iff.mpr fun u hu => ?_
  have hlast : ∀ d, u.1.toList.getLast? = some d →
      isDigit d = false → d ≠ '.' →
        (stripSuffix u.1.toList cs).map (fun v => (v, u.2)) = none := by
    intro d hd hdigit hpoint
    rw [not_stripSuffix hd hcs (hc.ne hdigit hpoint)]
    rfl
  unfold units at hu
  simp only [List.mem_cons, List.not_mem_nil, or_false] at hu
  rcases hu with rfl | rfl | rfl | rfl | rfl | rfl | rfl | rfl | rfl | rfl
  all_goals exact hlast _ rfl (by decide) (by decide)

/-- What has no unit behind it ends like a number. -/
theorem exists_getLast_of_power {cs : List Char} {c : Char}
    (hcs : cs.getLast? = some c) (hc : EndsNumber c) {s : Suffix}
    (hs : s.power.isSome = true) :
    ∃ d, (cs ++ s.text).getLast? = some d ∧ EndsNumber d := by
  cases s with
  | one => exact ⟨c, (List.append_nil cs).symm ▸ hcs, hc⟩
  | exponent e =>
      obtain ⟨d, hd⟩ := Option.isSome_iff_exists.mp
        (List.getLast?_isSome.mpr e.ne_nil)
      refine ⟨d, ?_, .inl (e.digits_ok d (List.mem_of_getLast? hd))⟩
      rw [Suffix.text, Exponent.text, List.getLast?_append,
        List.getLast?_cons, List.getLast?_append, hd]
      rfl
  | _ => cases hs

/-- The unit of memory a suffix stands for is the one that is stripped. -/
theorem stripUnit_suffix {cs : List Char} {c : Char}
    (hcs : cs.getLast? = some c) (hc : EndsNumber c) (s : Suffix) :
    stripUnit (cs ++ s.text) = s.memoryUnit.map fun mult => (cs, mult) := by
  have hunit : ∀ ending, stripUnit (cs ++ ending) =
      units.findSome? fun u =>
        ((stripPrefix u.1.toList.reverse (ending.reverse ++ cs.reverse)).map
          List.reverse).map fun v => (v, u.2) := by
    intro ending
    unfold stripUnit
    simp only [stripSuffix_append_eq]
  have hback : ∀ mult : Int,
      some (cs.reverse.reverse, mult) = some (cs, mult) := by
    intro mult
    rw [List.reverse_reverse]
  by_cases hpower : s.power.isSome = true
  · obtain ⟨d, hd, hnumber⟩ := exists_getLast_of_power hcs hc hpower
    rw [stripUnit_eq_none hd hnumber]
    cases s with
    | one | exponent e => rfl
    | _ => cases hpower
  cases s with
  | one | exponent e => exact absurd rfl hpower
  | nano | micro | milli | peta | exa | exbi => exact (hunit _).trans rfl
  | kilo | mega | giga | tera | kibi | mebi | gibi | tebi | pebi =>
      exact (hunit _).trans (hback _)

/-- The `m` is stripped from thousandths only. -/
theorem stripMilli_suffix {cs : List Char} {c : Char}
    (hcs : cs.getLast? = some c) (hc : EndsNumber c) {s : Suffix}
    (hs : s ≠ .milli) : stripSuffix ['m'] (cs ++ s.text) = none := by
  have hmilli : ['m'].getLast? = some 'm' := rfl
  have hend : ∀ (front : List Char) (d : Char), 'm' ≠ d →
      stripSuffix ['m'] (cs ++ (front ++ [d])) = none := by
    intro front d hd
    refine not_stripSuffix hmilli ?_ hd
    rw [← List.append_assoc]
    exact List.getLast?_concat
  by_cases hpower : s.power.isSome = true
  · obtain ⟨d, hd, hnumber⟩ := exists_getLast_of_power hcs hc hpower
    exact not_stripSuffix hmilli hd (hnumber.ne (by decide) (by decide))
  cases s with
  | one | exponent e => exact absurd rfl hpower
  | milli => exact absurd rfl hs
  | nano | micro | kilo | mega | giga | tera | peta | exa =>
      exact hend [] _ (by decide)
  | kibi | mebi | gibi | tebi | pebi | exbi =>
      exact hend [_] 'i' (by decide)

/-! ## Which are read -/

theorem signed_mul (sign : Option Bool) (a b : ℚ) :
    signed sign (a * b) = signed sign a * b := by
  unfold signed
  split
  · exact neg_mul_eq_neg_mul a b
  · rfl

namespace Quantity

variable (q : Quantity)

/-- A number with an exponent or nothing behind it. -/
theorem parse_body (s : Suffix) :
    parse (q.body ++ s.text) = s.power.map fun e =>
      F64.finite (signed q.sign q.numeral.value * (10 : ℚ) ^ e) := by
  unfold body
  rw [List.append_assoc, parse_text q.sign q.numeral (head_suffix s),
    parseTail_suffix]
  simp only [signed_mul]

/-- A number by itself. -/
theorem parse_number :
    parse q.body = some (F64.finite (signed q.sign q.numeral.value)) := by
  have hone := q.parse_body .one
  rw [show Suffix.one.text = [] from rfl, List.append_nil] at hone
  rw [hone]
  simp [Suffix.power]

theorem parseCpu_of_inCpu (h : q.suffix.inCpu = true) :
    parseCpuMillicores q.text = (F64.finite (q.value * 1000)).toI64 := by
  obtain ⟨c, hlast, hc⟩ := q.exists_getLast_body
  have hnumber := stripMilli_suffix hlast hc (s := q.suffix)
  have hparse := q.parse_body q.suffix
  unfold parseCpuMillicores value
  rw [trim_text]
  dsimp only
  cases hs : q.suffix with
  | milli =>
      rw [Suffix.text, stripSuffix_append]
      dsimp only
      rw [parse_number, Option.map_some, Option.getD_some, Suffix.factor]
      ring_nf
  | one =>
      rw [hs] at hnumber hparse
      rw [hnumber fun heq => by cases heq]
      dsimp only
      rw [hparse]
      simp [Suffix.power, Suffix.factor, F64.scale]
  | exponent e =>
      rw [hs] at hnumber hparse
      rw [hnumber fun heq => by cases heq]
      dsimp only
      rw [hparse]
      rfl
  | _ =>
      rw [hs] at h
      cases h

theorem parseCpu_of_not_inCpu (h : q.suffix.inCpu = false) :
    parseCpuMillicores q.text = 0 := by
  obtain ⟨c, hlast, hc⟩ := q.exists_getLast_body
  have hmilli : q.suffix ≠ .milli := by
    intro hs
    rw [hs] at h
    cases h
  have hpower : q.suffix.power = none := by
    cases hs : q.suffix with
    | one | exponent e =>
        rw [hs] at h
        cases h
    | _ => rfl
  unfold parseCpuMillicores
  rw [trim_text]
  dsimp only
  rw [stripMilli_suffix hlast hc hmilli]
  dsimp only
  rw [parse_body, hpower]
  rfl

theorem factor_of_memoryUnit {s : Suffix} {mult : Int}
    (h : s.memoryUnit = some mult) : s.factor = mult := by
  cases s with
  | kilo | mega | giga | tera | kibi | mebi | gibi | tebi | pebi =>
      rw [← Option.some.inj h]
      norm_num [Suffix.factor]
  | _ => cases h

theorem parseMemory_of_inMemory (h : q.suffix.inMemory = true) :
    parseMemoryBytes q.text = (F64.finite q.value).toI64 := by
  obtain ⟨c, hlast, hc⟩ := q.exists_getLast_body
  unfold parseMemoryBytes
  rw [trim_text]
  dsimp only
  rw [stripUnit_suffix hlast hc]
  cases hunit : q.suffix.memoryUnit with
  | some mult =>
      rw [Option.map_some]
      dsimp only
      rw [parse_number, value, factor_of_memoryUnit hunit]
      rfl
  | none =>
      rw [Option.map_none]
      dsimp only
      rw [parse_body, value]
      cases hs : q.suffix with
      | one => simp [Suffix.power, Suffix.factor]
      | exponent e => rfl
      | _ =>
          rw [hs] at h hunit
          cases h.symm.trans (congrArg Option.isSome hunit)

theorem parseMemory_of_not_inMemory (h : q.suffix.inMemory = false) :
    parseMemoryBytes q.text = 0 := by
  obtain ⟨c, hlast, hc⟩ := q.exists_getLast_body
  have hunit : q.suffix.memoryUnit = none ∧ q.suffix.power = none := by
    cases hs : q.suffix with
    | nano | micro | milli | peta | exa | exbi => exact ⟨rfl, rfl⟩
    | _ =>
        rw [hs] at h
        cases h
  unfold parseMemoryBytes
  rw [trim_text]
  dsimp only
  rw [stripUnit_suffix hlast hc, hunit.1, Option.map_none]
  dsimp only
  rw [parse_body, hunit.2]
  rfl

/-- Where its thousandths fit an `i64`, they are what is returned, up to
rounding. -/
def CpuExact : Prop :=
  q.value * 1000 < 2 ^ 63 →
    IsNeighbour (parseCpuMillicores q.text) (q.value * 1000)

/-- Where its value fits an `i64`, it is what is returned, up to
rounding. -/
def MemoryExact : Prop :=
  q.value < 2 ^ 63 → IsNeighbour (parseMemoryBytes q.text) q.value

end Quantity

theorem isNeighbour_zero {x : ℚ} (h : 0 ≤ x) : IsNeighbour 0 x ↔ x < 1 := by
  constructor
  · rintro (hfloor | hceil)
    · have hlt := Int.lt_floor_add_one x
      rw [← hfloor] at hlt
      simpa using hlt
    · have hle := Int.le_ceil x
      rw [← hceil] at hle
      have hzero : x ≤ 0 := by simpa using hle
      linarith
  · intro hlt
    refine .inl (Eq.symm ?_)
    exact Int.floor_eq_zero_iff.mpr ⟨h, hlt⟩

/-- A parser that keeps the value where it reads the suffix, and says zero
where it does not, is exact there and below one. -/
theorem isNeighbour_iff {x : ℚ} (h : 0 ≤ x) (hfits : x < 2 ^ 63) {n : Int}
    {reads : Bool} (hread : reads = true → n = (F64.finite x).toI64)
    (hzero : reads = false → n = 0) :
    IsNeighbour n x ↔ reads = true ∨ x < 1 := by
  cases reads with
  | true =>
      rw [hread rfl, toI64_finite h hfits]
      exact iff_of_true (.inl rfl) (.inl rfl)
  | false =>
      rw [hzero rfl, isNeighbour_zero h]
      exact (or_iff_right Bool.false_ne_true).symm

/-- A quantity is read exactly when its suffix is one the function knows, or
when there is less than one of it. -/
theorem exact_iff (q : Quantity) (h : 0 ≤ q.value) :
    (q.CpuExact ↔ (q.value * 1000 < 2 ^ 63 →
      q.suffix.inCpu = true ∨ q.value * 1000 < 1)) ∧
    (q.MemoryExact ↔ (q.value < 2 ^ 63 →
      q.suffix.inMemory = true ∨ q.value < 1)) := by
  have hmillis : 0 ≤ q.value * 1000 := by positivity
  refine ⟨forall_congr' fun hfits => ?_, forall_congr' fun hfits => ?_⟩
  · exact isNeighbour_iff hmillis hfits q.parseCpu_of_inCpu
      q.parseCpu_of_not_inCpu
  · exact isNeighbour_iff h hfits q.parseMemory_of_inMemory
      q.parseMemory_of_not_inMemory

/-! ### A thousand cores, and a quintillion bytes -/

namespace Sample

def onlyOne : Numeral where
  int := ['1']
  frac := none
  int_digits := by simp [isDigit]
  frac_digits := by simp
  ne_nil := .inl (by simp)

/-- `1k` and `1E`. -/
def oneOf (s : Suffix) : Quantity := ⟨none, onlyOne, s⟩

theorem value_oneOf (s : Suffix) : (oneOf s).value = s.factor := by
  have hdigit : ofDigits ['1'] = 1 := rfl
  have hnone : ofDigits [] = 0 := rfl
  have hone : onlyOne.value = 1 := by
    norm_num [Numeral.value, onlyOne, hdigit, hnone]
  show signed none onlyOne.value * s.factor = s.factor
  rw [hone]
  exact one_mul _

end Sample

/-- A thousand cores, written `1k`, count as nothing. -/
theorem exact_iff_kilo :
    0 ≤ (Sample.oneOf .kilo).value ∧
      ¬ (Sample.oneOf .kilo).CpuExact ∧ (Sample.oneOf .kilo).MemoryExact := by
  have hvalue := Sample.value_oneOf .kilo
  have hfactor : Suffix.kilo.factor = 1000 := by norm_num [Suffix.factor]
  rw [hfactor] at hvalue
  have hnonneg : 0 ≤ (Sample.oneOf .kilo).value := by rw [hvalue]; norm_num
  obtain ⟨hcpu, hmemory⟩ := exact_iff (Sample.oneOf .kilo) hnonneg
  refine ⟨hnonneg, ?_, hmemory.mpr fun _ => .inl rfl⟩
  rw [hcpu, hvalue]
  intro h
  rcases h (by norm_num) with hread | hsmall
  · cases hread
  · norm_num at hsmall

/-- A quintillion bytes, written `1E`, count as nothing. -/
theorem not_exact :
    ¬ ∀ q : Quantity, 0 ≤ q.value → q.CpuExact ∧ q.MemoryExact := by
  intro h
  have hvalue := Sample.value_oneOf .exa
  have hfactor : Suffix.exa.factor = 10 ^ 18 := rfl
  rw [hfactor] at hvalue
  have hnonneg : 0 ≤ (Sample.oneOf .exa).value := by rw [hvalue]; norm_num
  have hmemory := (h (Sample.oneOf .exa) hnonneg).2
  unfold Quantity.MemoryExact at hmemory
  rw [(Sample.oneOf .exa).parseMemory_of_not_inMemory rfl, hvalue,
    isNeighbour_zero (by norm_num)] at hmemory
  norm_num at hmemory

end McpgOperator.Fleet
