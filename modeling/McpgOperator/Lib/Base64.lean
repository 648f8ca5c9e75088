import Mathlib.Data.List.Nodup
import Mathlib.Data.List.Basic

/-!
# Base64

Three bytes are four symbols of an alphabet; one or two bytes left at the end
are two or three symbols, padded or not. The decoder is the strict one: it
wants the padding it is told to expect and no other, and the bits a last
symbol has over must be zero. So it accepts what the encoder writes and
nothing else.
-/

namespace Base64

/-- Sixty-four different symbols, `=` not among them. -/
structure Alphabet where
  symbols : List UInt8
  length_eq : symbols.length = 64
  nodup : symbols.Nodup
  pad_free : 61 ∉ symbols

/-- The symbol of a value below 64. -/
def Alphabet.symbol (a : Alphabet) (n : Nat) : UInt8 := a.symbols.getD n 0

/-- The value of a symbol. -/
def Alphabet.value (a : Alphabet) (b : UInt8) : Option Nat :=
  if b ∈ a.symbols then some (a.symbols.idxOf b) else none

variable (a : Alphabet)

theorem Alphabet.value_symbol {n : Nat} (h : n < 64) :
    a.value (a.symbol n) = some n := by
  have hlength : n < a.symbols.length := by
    rw [a.length_eq]
    exact h
  have hsymbol : a.symbol n = a.symbols[n] := by
    unfold symbol
    rw [List.getD_eq_getElem?_getD, List.getElem?_eq_getElem hlength]
    rfl
  unfold value
  rw [hsymbol, if_pos (List.getElem_mem hlength), a.nodup.idxOf_getElem]

theorem Alphabet.of_value {b : UInt8} {n : Nat} (h : a.value b = some n) :
    n < 64 ∧ a.symbol n = b := by
  unfold value at h
  by_cases hmem : b ∈ a.symbols
  · rw [if_pos hmem] at h
    cases h
    have hlength := List.idxOf_lt_length_of_mem hmem
    refine ⟨by rwa [a.length_eq] at hlength, ?_⟩
    unfold symbol
    rw [List.getD_eq_getElem?_getD, List.getElem?_eq_getElem hlength]
    exact List.getElem_idxOf hlength
  · rw [if_neg hmem] at h
    cases h

theorem Alphabet.symbol_ne_pad {n : Nat} (h : n < 64) : a.symbol n ≠ 61 := by
  intro hpad
  have hvalue := a.value_symbol h
  rw [hpad] at hvalue
  unfold value at hvalue
  rw [if_neg a.pad_free] at hvalue
  cases hvalue

/-! ## Encoding -/

def encode (padded : Bool) : List UInt8 → List UInt8
  | [] => []
  | [x] =>
      [a.symbol (x.toNat / 4), a.symbol (x.toNat % 4 * 16)] ++
        if padded then [61, 61] else []
  | [x, y] =>
      [a.symbol (x.toNat / 4), a.symbol (x.toNat % 4 * 16 + y.toNat / 16),
        a.symbol (y.toNat % 16 * 4)] ++
        if padded then [61] else []
  | x :: y :: z :: rest =>
      a.symbol (x.toNat / 4) :: a.symbol (x.toNat % 4 * 16 + y.toNat / 16) ::
        a.symbol (y.toNat % 16 * 4 + z.toNat / 64) ::
          a.symbol (z.toNat % 64) :: encode padded rest

/-! ## Decoding -/

/-- The byte of two last symbols. -/
def decodeOne (c d : UInt8) : Option (List UInt8) := do
  let u ← a.value c
  let v ← a.value d
  if v % 16 = 0 then some [UInt8.ofNat (u * 4 + v / 16)] else none

/-- The bytes of three last symbols. -/
def decodeTwo (c d e : UInt8) : Option (List UInt8) := do
  let u ← a.value c
  let v ← a.value d
  let w ← a.value e
  if w % 4 = 0 then
    some [UInt8.ofNat (u * 4 + v / 16), UInt8.ofNat (v % 16 * 16 + w / 4)]
  else none

/-- The bytes of four symbols. -/
def decodeThree (c d e f : UInt8) : Option (List UInt8) := do
  let u ← a.value c
  let v ← a.value d
  let w ← a.value e
  let t ← a.value f
  some [UInt8.ofNat (u * 4 + v / 16), UInt8.ofNat (v % 16 * 16 + w / 4),
    UInt8.ofNat (w % 4 * 64 + t)]

def decode (padded : Bool) : List UInt8 → Option (List UInt8)
  | [] => some []
  | [_] => none
  | [c, d] => if padded then none else decodeOne a c d
  | [c, d, e] => if padded then none else decodeTwo a c d e
  | c :: d :: e :: f :: rest =>
      if f = 61 then
        if padded ∧ rest = [] then
          if e = 61 then decodeOne a c d else decodeTwo a c d e
        else none
      else do
        let bytes ← decodeThree a c d e f
        let more ← decode padded rest
        some (bytes ++ more)

/-! ## The decoder undoes the encoder, and nothing else -/

theorem toNat_ofNat_of_lt {n : Nat} (h : n < 256) :
    (UInt8.ofNat n).toNat = n := by
  rw [UInt8.toNat_ofNat']
  exact Nat.mod_eq_of_lt h

theorem decodeOne_eq_some {c d : UInt8} {bs : List UInt8} :
    decodeOne a c d = some bs ↔
      ∃ x : UInt8, bs = [x] ∧ a.symbol (x.toNat / 4) = c ∧
        a.symbol (x.toNat % 4 * 16) = d := by
  unfold decodeOne
  constructor
  · intro h
    obtain ⟨u, hu, h₁⟩ := Option.bind_eq_some_iff.mp h
    obtain ⟨v, hv, hlast⟩ := Option.bind_eq_some_iff.mp h₁
    obtain ⟨hu64, rfl⟩ := a.of_value hu
    obtain ⟨hv64, rfl⟩ := a.of_value hv
    by_cases hzero : v % 16 = 0
    · rw [if_pos hzero] at hlast
      have hx := toNat_ofNat_of_lt (show u * 4 + v / 16 < 256 by omega)
      refine ⟨_, (Option.some.inj hlast).symm, ?_, ?_⟩
      · rw [hx, show (u * 4 + v / 16) / 4 = u by omega]
      · rw [hx, show (u * 4 + v / 16) % 4 * 16 = v by omega]
    · rw [if_neg hzero] at hlast
      cases hlast
  · rintro ⟨x, rfl, rfl, rfl⟩
    have hx := x.toNat_lt
    rw [a.value_symbol (by omega), a.value_symbol (by omega)]
    have hbyte : x.toNat / 4 * 4 + x.toNat % 4 * 16 / 16 = x.toNat := by
      omega
    simp only [Option.bind_eq_bind, Option.bind_some, hbyte,
      UInt8.ofNat_toNat, Nat.mul_mod_left, if_true]

theorem decodeTwo_eq_some {c d e : UInt8} {bs : List UInt8} :
    decodeTwo a c d e = some bs ↔
      ∃ x y : UInt8, bs = [x, y] ∧ a.symbol (x.toNat / 4) = c ∧
        a.symbol (x.toNat % 4 * 16 + y.toNat / 16) = d ∧
          a.symbol (y.toNat % 16 * 4) = e := by
  unfold decodeTwo
  constructor
  · intro h
    obtain ⟨u, hu, h₁⟩ := Option.bind_eq_some_iff.mp h
    obtain ⟨v, hv, h₂⟩ := Option.bind_eq_some_iff.mp h₁
    obtain ⟨w, hw, hlast⟩ := Option.bind_eq_some_iff.mp h₂
    obtain ⟨hu64, rfl⟩ := a.of_value hu
    obtain ⟨hv64, rfl⟩ := a.of_value hv
    obtain ⟨hw64, rfl⟩ := a.of_value hw
    by_cases hzero : w % 4 = 0
    · rw [if_pos hzero] at hlast
      have hx := toNat_ofNat_of_lt (show u * 4 + v / 16 < 256 by omega)
      have hy := toNat_ofNat_of_lt (show v % 16 * 16 + w / 4 < 256 by omega)
      refine ⟨_, _, (Option.some.inj hlast).symm, ?_, ?_, ?_⟩
      · rw [hx, show (u * 4 + v / 16) / 4 = u by omega]
      · rw [hx, hy, show (u * 4 + v / 16) % 4 * 16 +
          (v % 16 * 16 + w / 4) / 16 = v by omega]
      · rw [hy, show (v % 16 * 16 + w / 4) % 16 * 4 = w by omega]
    · rw [if_neg hzero] at hlast
      cases hlast
  · rintro ⟨x, y, rfl, rfl, rfl, rfl⟩
    have hx := x.toNat_lt
    have hy := y.toNat_lt
    rw [a.value_symbol (by omega), a.value_symbol (by omega),
      a.value_symbol (by omega)]
    have hfirst : x.toNat / 4 * 4 +
        (x.toNat % 4 * 16 + y.toNat / 16) / 16 = x.toNat := by omega
    have hsecond : (x.toNat % 4 * 16 + y.toNat / 16) % 16 * 16 +
        y.toNat % 16 * 4 / 4 = y.toNat := by omega
    simp only [Option.bind_eq_bind, Option.bind_some, hfirst, hsecond,
      UInt8.ofNat_toNat, Nat.mul_mod_left, if_true]

theorem decodeThree_eq_some {c d e f : UInt8} {bs : List UInt8} :
    decodeThree a c d e f = some bs ↔
      ∃ x y z : UInt8, bs = [x, y, z] ∧ a.symbol (x.toNat / 4) = c ∧
        a.symbol (x.toNat % 4 * 16 + y.toNat / 16) = d ∧
          a.symbol (y.toNat % 16 * 4 + z.toNat / 64) = e ∧
            a.symbol (z.toNat % 64) = f := by
  unfold decodeThree
  constructor
  · intro h
    obtain ⟨u, hu, h₁⟩ := Option.bind_eq_some_iff.mp h
    obtain ⟨v, hv, h₂⟩ := Option.bind_eq_some_iff.mp h₁
    obtain ⟨w, hw, h₃⟩ := Option.bind_eq_some_iff.mp h₂
    obtain ⟨t, ht, hlast⟩ := Option.bind_eq_some_iff.mp h₃
    obtain ⟨hu64, rfl⟩ := a.of_value hu
    obtain ⟨hv64, rfl⟩ := a.of_value hv
    obtain ⟨hw64, rfl⟩ := a.of_value hw
    obtain ⟨ht64, rfl⟩ := a.of_value ht
    have hx := toNat_ofNat_of_lt (show u * 4 + v / 16 < 256 by omega)
    have hy := toNat_ofNat_of_lt (show v % 16 * 16 + w / 4 < 256 by omega)
    have hz := toNat_ofNat_of_lt (show w % 4 * 64 + t < 256 by omega)
    refine ⟨_, _, _, (Option.some.inj hlast).symm, ?_, ?_, ?_, ?_⟩
    · rw [hx, show (u * 4 + v / 16) / 4 = u by omega]
    · rw [hx, hy, show (u * 4 + v / 16) % 4 * 16 +
        (v % 16 * 16 + w / 4) / 16 = v by omega]
    · rw [hy, hz, show (v % 16 * 16 + w / 4) % 16 * 4 +
        (w % 4 * 64 + t) / 64 = w by omega]
    · rw [hz, show (w % 4 * 64 + t) % 64 = t by omega]
  · rintro ⟨x, y, z, rfl, rfl, rfl, rfl, rfl⟩
    have hx := x.toNat_lt
    have hy := y.toNat_lt
    have hz := z.toNat_lt
    rw [a.value_symbol (by omega), a.value_symbol (by omega),
      a.value_symbol (by omega), a.value_symbol (by omega)]
    have hfirst : x.toNat / 4 * 4 +
        (x.toNat % 4 * 16 + y.toNat / 16) / 16 = x.toNat := by omega
    have hsecond : (x.toNat % 4 * 16 + y.toNat / 16) % 16 * 16 +
        (y.toNat % 16 * 4 + z.toNat / 64) / 4 = y.toNat := by omega
    have hthird : (y.toNat % 16 * 4 + z.toNat / 64) % 4 * 64 +
        z.toNat % 64 = z.toNat := by omega
    simp only [Option.bind_eq_bind, Option.bind_some, hfirst, hsecond,
      hthird, UInt8.ofNat_toNat]

theorem decode_encode (padded : Bool) (bs : List UInt8) :
    decode a padded (encode a padded bs) = some bs := by
  induction bs using encode.induct with
  | case1 => rfl
  | case2 x =>
      have hone := (decodeOne_eq_some a).mpr ⟨x, rfl, rfl, rfl⟩
      cases padded with
      | true => exact hone
      | false => exact hone
  | case3 x y =>
      have htwo := (decodeTwo_eq_some a).mpr ⟨x, y, rfl, rfl, rfl, rfl⟩
      cases padded with
      | true =>
          have hne := a.symbol_ne_pad (show y.toNat % 16 * 4 < 64 by omega)
          rw [encode, if_pos rfl]
          show decode a true [_, _, _, 61] = _
          rw [decode, if_pos rfl, if_pos ⟨rfl, rfl⟩, if_neg hne]
          exact htwo
      | false => exact htwo
  | case4 x y z rest ih =>
      have hthree := (decodeThree_eq_some a).mpr
        ⟨x, y, z, rfl, rfl, rfl, rfl, rfl⟩
      have hne := a.symbol_ne_pad (show z.toNat % 64 < 64 by omega)
      rw [encode, decode, if_neg hne, hthree, ih]
      rfl

theorem encode_of_decode {padded : Bool} {cs bs : List UInt8}
    (h : decode a padded cs = some bs) : encode a padded bs = cs := by
  induction cs using decode.induct padded generalizing bs with
  | case1 =>
      cases h
      rfl
  | case2 c => cases h
  | case3 c d hpad =>
      rw [decode, if_pos hpad] at h
      cases h
  | case4 c d hpad =>
      rw [decode, if_neg hpad] at h
      obtain ⟨x, rfl, rfl, rfl⟩ := (decodeOne_eq_some a).mp h
      rw [encode, if_neg hpad]
      rfl
  | case5 c d e hpad =>
      rw [decode, if_pos hpad] at h
      cases h
  | case6 c d e hpad =>
      rw [decode, if_neg hpad] at h
      obtain ⟨x, y, rfl, rfl, rfl, rfl⟩ := (decodeTwo_eq_some a).mp h
      rw [encode, if_neg hpad]
      rfl
  | case7 c d rest hlast =>
      rw [decode, if_pos rfl, if_pos hlast, if_pos rfl] at h
      obtain ⟨hpad, rfl⟩ := hlast
      obtain ⟨x, rfl, rfl, rfl⟩ := (decodeOne_eq_some a).mp h
      rw [encode, if_pos hpad]
      rfl
  | case8 c d e rest hlast hne =>
      rw [decode, if_pos rfl, if_pos hlast, if_neg hne] at h
      obtain ⟨hpad, rfl⟩ := hlast
      obtain ⟨x, y, rfl, rfl, rfl, rfl⟩ := (decodeTwo_eq_some a).mp h
      rw [encode, if_pos hpad]
      rfl
  | case9 c d e rest hmore =>
      rw [decode, if_pos rfl, if_neg hmore] at h
      cases h
  | case10 c d e f rest hne ih =>
      rw [decode, if_neg hne] at h
      obtain ⟨bytes, hbytes, hmore⟩ := Option.bind_eq_some_iff.mp h
      obtain ⟨more, hrest, hsome⟩ := Option.bind_eq_some_iff.mp hmore
      cases hsome
      obtain ⟨x, y, z, rfl, rfl, rfl, rfl, rfl⟩ :=
        (decodeThree_eq_some a).mp hbytes
      show encode a padded (x :: y :: z :: more) = _
      rw [encode, ih hrest]

/-- The decoder accepts what the encoder writes, and reads back what was
written. -/
theorem decode_eq_some {padded : Bool} {cs bs : List UInt8} :
    decode a padded cs = some bs ↔ encode a padded bs = cs :=
  ⟨encode_of_decode a, fun h => h ▸ decode_encode a padded bs⟩

theorem length_encode_padded (bs : List UInt8) :
    (encode a true bs).length = (bs.length + 2) / 3 * 4 := by
  induction bs using encode.induct with
  | case1 => rfl
  | case2 x => simp [encode]
  | case3 x y => simp [encode]
  | case4 x y z rest ih =>
      rw [encode]
      simp only [List.length_cons, ih]
      omega

theorem length_encode_unpadded (bs : List UInt8) :
    (encode a false bs).length = (bs.length * 4 + 2) / 3 := by
  induction bs using encode.induct with
  | case1 => rfl
  | case2 x => simp [encode]
  | case3 x y => simp [encode]
  | case4 x y z rest ih =>
      rw [encode]
      simp only [List.length_cons, ih]
      omega

/-! ## The two alphabets in use -/

/-- Letters and digits, then the last two symbols. -/
def alphanumeric (last : List UInt8) : List UInt8 :=
  (List.range 26).map (fun n => UInt8.ofNat (65 + n)) ++
    (List.range 26).map (fun n => UInt8.ofNat (97 + n)) ++
      (List.range 10).map (fun n => UInt8.ofNat (48 + n)) ++ last

/-- The standard alphabet, which ends in `+` and `/`. -/
def standard : Alphabet where
  symbols := alphanumeric [43, 47]
  length_eq := by decide
  nodup := by decide
  pad_free := by decide

/-- The alphabet safe in URLs, which ends in `-` and `_`. -/
def urlSafe : Alphabet where
  symbols := alphanumeric [45, 95]
  length_eq := by decide
  nodup := by decide
  pad_free := by decide

end Base64
