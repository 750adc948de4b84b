import Mathlib.Algebra.Group.Nat.Defs
import PromptMarkup.Encoding.Utf8

/-!
# Text that is read back

The bytes of a character above the ASCII range are a first byte and tails, each with six more bits of its number
(`encodeChar_eq`).  The first byte promises as many tails as there are (`Partial.Promises`), and the reader makes the
number from them again.  So the bytes of a text are read back as that text (`decode_encode`).
-/

namespace PromptMarkup.Encoding.Utf8

/-- The byte with the last six bits of a number. -/
def tail (m : Nat) : UInt8 := UInt8.ofNat (0x80 + m % 64)

theorem toNat_tail (m : Nat) : (tail m).toNat = 0x80 + m % 64 := by
  have hlt : 0x80 + m % 64 < 256 := by omega
  rw [tail, UInt8.toNat_ofNat', Nat.mod_eq_of_lt hlt]

/-- The bytes with the last bits of a number, six in each. -/
def tails : Nat → Nat → List UInt8
  | 0, _ => []
  | k + 1, n => tail (n / 64 ^ k) :: tails k n

/-- What has been read of a character is the upper part of its number, and the next tail is one that may come. -/
structure Partial.Promises (p : Partial) (n : Nat) : Prop where
  owed : 0 < p.owed
  bits : p.bits = n / 64 ^ p.owed
  low : p.low.toNat ≤ 0x80 + n / 64 ^ (p.owed - 1) % 64
  high : 0x80 + n / 64 ^ (p.owed - 1) % 64 ≤ p.high.toNat

/-- The reader takes one more tail. -/
theorem decodeFrom_tail {p : Partial} {m : Nat} (hlow : p.low.toNat ≤ 0x80 + m % 64)
    (hhigh : 0x80 + m % 64 ≤ p.high.toNat) (position : Nat) (rest : List UInt8) :
    decodeFrom position (some p) (tail m :: rest) =
      if p.owed ≤ 1 then (Char.ofNat (p.bits * 64 + m % 64) :: ·) <$> decodeFrom (position + 1) none rest
      else decodeFrom (position + 1) (some { p with
        got := p.got + 1, bits := p.bits * 64 + m % 64, owed := p.owed - 1, low := 0x80, high := 0xBF }) rest := by
  have hinside : (decide (p.low ≤ tail m) && decide (tail m ≤ p.high)) = true := by
    simp only [Bool.and_eq_true, decide_eq_true_eq, UInt8.le_iff_toNat_le, toNat_tail]
    exact ⟨hlow, hhigh⟩
  have hbits : (tail m).toNat - 0x80 = m % 64 := by rw [toNat_tail, Nat.add_sub_cancel_left]
  rw [decodeFrom]
  simp only [hinside, if_true, hbits]

/-- The upper part of a number with six more bits. -/
theorem div_pow_succ (n k : Nat) : n / 64 ^ (k + 1) * 64 + n / 64 ^ k % 64 = n / 64 ^ k := by
  rw [Nat.pow_succ, ← Nat.div_div_eq_div_mul, Nat.mul_comm, Nat.div_add_mod]

theorem tail_le (m : Nat) : 0x80 + m % 64 ≤ (0xBF : UInt8).toNat := by
  have hmax : (0xBF : UInt8).toNat = 0x80 + 63 := rfl
  omega

/-- The reader makes a character from the tails that were promised. -/
theorem decodeFrom_tails {p : Partial} {n : Nat} (h : p.Promises n) (position : Nat) (rest : List UInt8) :
    decodeFrom position (some p) (tails p.owed n ++ rest) =
      (Char.ofNat n :: ·) <$> decodeFrom (position + p.owed) none rest := by
  obtain ⟨k, hk⟩ : ∃ k, p.owed = k + 1 := ⟨p.owed - 1, (Nat.sub_add_cancel h.owed).symm⟩
  induction k generalizing p position with
  | zero =>
    obtain ⟨-, hbits, hlow, hhigh⟩ := h
    rw [hk] at hbits hlow hhigh
    rw [hk, tails, List.cons_append, decodeFrom_tail hlow hhigh, if_pos (Nat.le_of_eq hk), hbits, div_pow_succ n 0,
      Nat.pow_zero, Nat.div_one]
    rfl
  | succ k ih =>
    obtain ⟨-, hbits, hlow, hhigh⟩ := h
    rw [hk] at hbits
    rw [hk, Nat.add_sub_cancel] at hlow hhigh
    have hnext : Partial.Promises { p with
        got := p.got + 1, bits := n / 64 ^ (k + 1), owed := k + 1, low := 0x80, high := 0xBF } n :=
      ⟨Nat.succ_pos k, rfl, Nat.le_add_right _ _, tail_le _⟩
    rw [hk, tails, List.cons_append, decodeFrom_tail hlow hhigh, if_neg (by omega), hbits, div_pow_succ, hk,
      Nat.add_sub_cancel, ih hnext _ rfl]
    have hposition : position + 1 + (k + 1) = position + (k + 1 + 1) := by omega
    rw [← hposition]

/-! ### First bytes -/

section

variable {b : UInt8} {k : Nat} (position : Nat)

theorem opening_two (hb : b.toNat = 0xC0 + k) (hlow : 2 ≤ k) (hhigh : k < 32) :
    opening position b = some ⟨position, b, 1, k, 1, 0x80, 0xBF⟩ := by
  simp only [opening, hb]
  rw [if_neg (by omega), if_pos (by omega), Nat.add_sub_cancel_left]

/-- Of three bytes the second is bounded so that no shorter form and no surrogate is read. -/
theorem opening_three (hb : b.toNat = 0xE0 + k) (hk : k < 16) : opening position b =
    some ⟨position, b, 1, k, 2, if k = 0 then 0xA0 else 0x80, if k = 13 then 0x9F else 0xBF⟩ := by
  simp only [opening, hb]
  rw [if_neg (by omega), if_neg (by omega)]
  by_cases hzero : k = 0
  · rw [if_pos (by omega), hzero]
    rfl
  · rw [if_neg (by omega), if_neg hzero]
    by_cases hsurrogate : k = 13
    · rw [if_pos (by omega), hsurrogate]
      rfl
    · rw [if_neg (by omega), if_pos (by omega), if_neg hsurrogate, Nat.add_sub_cancel_left]

/-- Of four bytes the second is bounded so that no shorter form and no greater number is read. -/
theorem opening_four (hb : b.toNat = 0xF0 + k) (hk : k ≤ 4) : opening position b =
    some ⟨position, b, 1, k, 3, if k = 0 then 0x90 else 0x80, if k = 4 then 0x8F else 0xBF⟩ := by
  simp only [opening, hb]
  rw [if_neg (by omega), if_neg (by omega), if_neg (by omega), if_neg (by omega), if_neg (by omega)]
  by_cases hzero : k = 0
  · rw [if_pos (by omega), hzero]
    rfl
  · rw [if_neg (by omega), if_neg hzero]
    by_cases hlast : k = 4
    · rw [if_neg (by omega), if_pos (by omega), hlast]
      rfl
    · rw [if_pos (by omega), if_neg hlast, Nat.add_sub_cancel_left]

end

/-- The first byte promises the tails that follow it. -/
theorem exists_opening {c : Char} (hc : 0x80 ≤ c.toNat) (position : Nat) :
    ∃ b p, encodeChar c = b :: tails p.owed c.toNat ∧ 0x80 ≤ b.toNat ∧ opening position b = some p ∧
      p.Promises c.toNat := by
  have hvalid : c.toNat < 0xD800 ∨ 0xDFFF < c.toNat ∧ c.toNat < 0x110000 := c.valid
  have hbyte {k : Nat} (hk : k < 256) : (UInt8.ofNat k).toNat = k := by
    rw [UInt8.toNat_ofNat', Nat.mod_eq_of_lt hk]
  rw [encodeChar]
  simp only [if_neg (Nat.not_lt.2 hc)]
  split
  · have hb : (UInt8.ofNat (0xC0 + c.toNat / 64)).toNat = 0xC0 + c.toNat / 64 := hbyte (by omega)
    refine ⟨_, _, ?_, by omega, opening_two position hb (by omega) (by omega), ?_⟩
    · simp [tails, tail]
    · exact ⟨Nat.one_pos, rfl, Nat.le_add_right _ _, tail_le _⟩
  split
  · have hb : (UInt8.ofNat (0xE0 + c.toNat / 4096)).toNat = 0xE0 + c.toNat / 4096 := hbyte (by omega)
    refine ⟨_, _, ?_, by omega, opening_three position hb (by omega), Nat.two_pos, rfl, ?_, ?_⟩
    · simp [tails, tail]
    all_goals simp only [Nat.reduceSub, Nat.pow_one]
    · split
      · have hmin : (0xA0 : UInt8).toNat = 0x80 + 32 := rfl
        omega
      · exact Nat.le_add_right _ _
    · split
      · have hmax : (0x9F : UInt8).toNat = 0x80 + 31 := rfl
        omega
      · exact tail_le _
  · have hb : (UInt8.ofNat (0xF0 + c.toNat / 262144)).toNat = 0xF0 + c.toNat / 262144 := hbyte (by omega)
    refine ⟨_, _, ?_, by omega, opening_four position hb (by omega), Nat.succ_pos 2, rfl, ?_, ?_⟩
    · simp [tails, tail]
    all_goals simp only [Nat.reduceSub, Nat.reducePow]
    · split
      · have hmin : (0x90 : UInt8).toNat = 0x80 + 16 := rfl
        omega
      · exact Nat.le_add_right _ _
    · split
      · have hmax : (0x8F : UInt8).toNat = 0x80 + 15 := rfl
        omega
      · exact tail_le _

theorem decodeFrom_encodeChar (c : Char) (position : Nat) (rest : List UInt8) : ∃ next,
    decodeFrom position none (encodeChar c ++ rest) = (c :: ·) <$> decodeFrom next none rest := by
  by_cases hc : c.toNat < 0x80
  · have hbyte : (UInt8.ofNat c.toNat).toNat = c.toNat := by
      rw [UInt8.toNat_ofNat', Nat.mod_eq_of_lt (by omega)]
    have hsmall : UInt8.ofNat c.toNat < 0x80 := by
      rw [UInt8.lt_iff_toNat_lt, hbyte]
      exact hc
    refine ⟨position + 1, ?_⟩
    rw [encodeChar, if_pos hc, List.singleton_append, decodeFrom, if_pos hsmall, hbyte, Char.ofNat_toNat]
  · obtain ⟨b, p, hencode, hlarge, hopening, hpromises⟩ := exists_opening (Nat.not_lt.1 hc) position
    have hnot : ¬ b < 0x80 := by
      rw [UInt8.lt_iff_toNat_lt]
      exact Nat.not_lt.2 hlarge
    refine ⟨position + 1 + p.owed, ?_⟩
    rw [hencode, List.cons_append, decodeFrom, if_neg hnot, hopening]
    dsimp only
    rw [decodeFrom_tails hpromises, Char.ofNat_toNat]

/-- What is read from the bytes of a text is the text. -/
theorem decode_encode (s : String) : decode (encode s) = .ok s := by
  have hchars (cs : List Char) (position : Nat) : decodeFrom position none (cs.flatMap encodeChar) = .ok cs := by
    induction cs generalizing position with
    | nil => rfl
    | cons c cs ih =>
      obtain ⟨next, hnext⟩ := decodeFrom_encodeChar c position (cs.flatMap encodeChar)
      rw [List.flatMap_cons, hnext, ih]
      rfl
  rw [decode, encode, hchars]
  exact congrArg Except.ok String.ofList_toList

end PromptMarkup.Encoding.Utf8
