import Mathlib.Data.List.Basic
import Mathlib.Data.List.Nodup

/-!
# Hexadecimal

A byte is two digits, the high half first. Digits are read in either case and
written in lower case, so a text is read exactly when its lower case is what
is written.
-/

namespace Hex

def digits : List Char := "0123456789abcdef".toList

/-- The digit of a value below 16. -/
def digit (n : Nat) : Char := digits.getD n '0'

/-- The value of a digit, in either case. -/
def value (c : Char) : Option Nat :=
  if c.toLower ∈ digits then some (digits.idxOf c.toLower) else none

theorem of_value {c : Char} {n : Nat} (h : value c = some n) :
    n < 16 ∧ digit n = c.toLower := by
  unfold value at h
  by_cases hmem : c.toLower ∈ digits
  · rw [if_pos hmem] at h
    cases h
    have hlength := List.idxOf_lt_length_of_mem hmem
    refine ⟨hlength, ?_⟩
    unfold digit
    rw [List.getD_eq_getElem?_getD, List.getElem?_eq_getElem hlength]
    exact List.getElem_idxOf hlength
  · rw [if_neg hmem] at h
    cases h

theorem value_of_digit {c : Char} {n : Nat} (h : n < 16)
    (hc : digit n = c.toLower) : value c = some n := by
  have hlength : n < digits.length := h
  have hdigit : digit n = digits[n] := by
    unfold digit
    rw [List.getD_eq_getElem?_getD, List.getElem?_eq_getElem hlength]
    rfl
  have hnodup : digits.Nodup := by decide
  unfold value
  rw [← hc, hdigit, if_pos (List.getElem_mem hlength), hnodup.idxOf_getElem]

def encode : List UInt8 → List Char
  | [] => []
  | b :: bs => digit (b.toNat / 16) :: digit (b.toNat % 16) :: encode bs

def decode : List Char → Option (List UInt8)
  | [] => some []
  | [_] => none
  | c :: d :: cs => do
      let u ← value c
      let v ← value d
      let bs ← decode cs
      some (UInt8.ofNat (u * 16 + v) :: bs)

/-- A text is read as the bytes whose encoding it is, up to case. -/
theorem decode_eq_some {cs : List Char} {bs : List UInt8} :
    decode cs = some bs ↔ cs.map Char.toLower = encode bs := by
  induction cs using decode.induct generalizing bs with
  | case1 =>
      cases bs with
      | nil => exact iff_of_true rfl rfl
      | cons b bs => exact iff_of_false (by rintro ⟨⟩) (by rintro ⟨⟩)
  | case2 c =>
      cases bs with
      | nil => exact iff_of_false (by rintro ⟨⟩) (by rintro ⟨⟩)
      | cons b bs =>
          refine iff_of_false (by rintro ⟨⟩) fun h => ?_
          have hlength := congrArg List.length h
          simp [encode] at hlength
  | case3 c d cs ih =>
      rw [decode]
      constructor
      · intro h
        obtain ⟨u, hu, h₁⟩ := Option.bind_eq_some_iff.mp h
        obtain ⟨v, hv, h₂⟩ := Option.bind_eq_some_iff.mp h₁
        obtain ⟨more, hmore, hsome⟩ := Option.bind_eq_some_iff.mp h₂
        cases hsome
        obtain ⟨hu16, hc⟩ := of_value hu
        obtain ⟨hv16, hd⟩ := of_value hv
        have hbyte : (UInt8.ofNat (u * 16 + v)).toNat = u * 16 + v := by
          rw [UInt8.toNat_ofNat']
          exact Nat.mod_eq_of_lt (by omega)
        rw [encode, hbyte, show (u * 16 + v) / 16 = u by omega,
          show (u * 16 + v) % 16 = v by omega, hc, hd, ← ih.mp hmore]
        rfl
      · intro h
        cases bs with
        | nil => cases h
        | cons b bs =>
            obtain ⟨hc, hrest⟩ := List.cons.inj h
            obtain ⟨hd, hcs⟩ := List.cons.inj hrest
            have hb := b.toNat_lt
            rw [value_of_digit (by omega) hc.symm,
              value_of_digit (by omega) hd.symm, ih.mpr hcs]
            have hbyte : b.toNat / 16 * 16 + b.toNat % 16 = b.toNat := by
              omega
            simp only [Option.bind_eq_bind, Option.bind_some, hbyte,
              UInt8.ofNat_toNat]

theorem length_encode (bs : List UInt8) :
    (encode bs).length = bs.length * 2 := by
  induction bs with
  | nil => rfl
  | cons b bs ih =>
      rw [encode]
      simp only [List.length_cons, ih]
      omega

/-! ## The characters of a text that is read -/

theorem range_of_value {c : Char} {n : Nat} (h : value c = some n) :
    48 ≤ c.toNat ∧ c.toNat ≤ 102 := by
  obtain ⟨hn, hdigit⟩ := of_value h
  have hdigits : ∀ m < 16, 48 ≤ (digit m).toNat ∧ (digit m).toNat ≤ 102 := by
    decide
  by_cases hupper : c.val ≥ 'A'.val ∧ c.val ≤ 'Z'.val
  · have hlow := UInt32.le_iff_toNat_le.mp hupper.1
    have hhigh := UInt32.le_iff_toNat_le.mp hupper.2
    have hA : 'A'.val.toNat = 65 := rfl
    have hZ : 'Z'.val.toNat = 90 := rfl
    have hc : c.val.toNat = c.toNat := rfl
    omega
  · have hlower : c.toLower = c := dif_neg hupper
    have hrange := hdigits n hn
    rwa [hdigit, hlower] at hrange

theorem value_of_decode {cs : List Char} {bs : List UInt8}
    (h : decode cs = some bs) : ∀ c ∈ cs, ∃ n, value c = some n := by
  induction cs using decode.induct generalizing bs with
  | case1 =>
      intro c hc
      exact absurd hc List.not_mem_nil
  | case2 c => cases h
  | case3 c d cs ih =>
      rw [decode] at h
      obtain ⟨u, hu, h₁⟩ := Option.bind_eq_some_iff.mp h
      obtain ⟨v, hv, h₂⟩ := Option.bind_eq_some_iff.mp h₁
      obtain ⟨more, hmore, -⟩ := Option.bind_eq_some_iff.mp h₂
      intro e he
      rcases List.mem_cons.mp he with rfl | he
      · exact ⟨u, hu⟩
      · rcases List.mem_cons.mp he with rfl | he
        · exact ⟨v, hv⟩
        · exact ih hmore e he

end Hex
