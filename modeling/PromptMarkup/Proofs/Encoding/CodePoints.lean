import PromptMarkup.Except
import PromptMarkup.Proofs.Encoding.Utf8

/-!
# Texts of code points

Every list of code points is held by a text (`codePoints_held`).  Code points have bytes in UTF-8 if and only if all of
them are characters (`Utf8.encodePoints_eq_ok`), and the bytes are read back as the same characters
(`Utf8.decode_of_encodePoints`).
-/

namespace PromptMarkup

namespace CodePoint

theorem toNat_standIn (n : Fin 2048) : (standIn n).toNat = 0xF0000 + n := by
  have hvalid : (0xF0000 + n : Nat).isValidChar := .inr ⟨by omega, by omega⟩
  rw [standIn, Char.ofNat, dif_pos hvalid]
  rfl

theorem ofStandIn_standIn (n : Fin 2048) : ofStandIn (standIn n) = some n := by
  have hrange : 0xF0000 ≤ (standIn n).toNat ∧ (standIn n).toNat < 0xF0800 := by
    rw [toNat_standIn]
    omega
  rw [ofStandIn, dif_pos hrange]
  simp [toNat_standIn]

theorem standIn_ne_mark (n : Fin 2048) : standIn n ≠ mark := by
  intro h
  have hmark : mark.toNat = 0xFFFF := rfl
  have hnumber := toNat_standIn n
  rw [h, hmark] at hnumber
  omega

theorem ofHeld_cons_of_ne {c : Char} (hc : c ≠ mark) (r : List Char) : ofHeld (c :: r) = char c :: ofHeld r := by
  cases r with
  | nil => rfl
  | cons d r => rw [ofHeld, if_neg hc]

/-- What is held for code points is read as these code points. -/
theorem ofHeld_flatMap_held (ps : List CodePoint) : ofHeld (ps.flatMap held) = ps := by
  induction ps with
  | nil => rfl
  | cons p ps ih =>
    rw [List.flatMap_cons]
    cases p with
    | char c =>
      by_cases hc : c = mark
      · simp [held, hc, ofHeld, ih]
      · rw [held, if_neg hc, List.singleton_append, ofHeld_cons_of_ne hc, ih]
    | surrogate n => simp [held, ofHeld, ofStandIn_standIn, standIn_ne_mark, ih]

theorem ofHeld_of_notMem {cs : List Char} (h : mark ∉ cs) : ofHeld cs = cs.map char := by
  induction cs with
  | nil => rfl
  | cons c cs ih =>
    rw [List.mem_cons, not_or] at h
    rw [ofHeld_cons_of_ne (Ne.symm h.1), ih h.2, List.map_cons]

end CodePoint

theorem Text.codePoints_held (ps : List CodePoint) : codePoints (held ps) = ps := by
  rw [codePoints, held, String.toList_ofList, CodePoint.ofHeld_flatMap_held]

namespace Encoding

variable {ps : List CodePoint} {s : String} {bs : List UInt8}

theorem charsFrom_map_char (position : Nat) (cs : List Char) : charsFrom position (cs.map .char) = .ok cs := by
  induction cs generalizing position with
  | nil => rfl
  | cons c cs ih =>
    rw [List.map_cons, charsFrom, ih]
    rfl

theorem eq_map_char_of_charsFrom {position : Nat} {cs : List Char} (h : charsFrom position ps = .ok cs) :
    ps = cs.map .char := by
  induction ps generalizing position cs with
  | nil =>
    cases h
    rfl
  | cons p ps ih =>
    cases p with
    | char c =>
      obtain ⟨cs, hcs, rfl⟩ := Except.map_eq_ok.1 h
      rw [List.map_cons, ← ih hcs]
    | surrogate n => cases h

/-- Code points are a text of characters if and only if they are the characters of one. -/
theorem charsText_eq_ok : charsText ps = .ok s ↔ ps = s.toList.map .char := by
  constructor
  · intro h
    obtain ⟨cs, hcs, rfl⟩ := Except.map_eq_ok.1 h
    rw [String.toList_ofList]
    exact eq_map_char_of_charsFrom hcs
  · rintro rfl
    rw [charsText, charsFrom_map_char]
    exact congrArg Except.ok String.ofList_toList

/-- A text without the mark is a text of its own characters. -/
theorem charsText_codePoints (h : CodePoint.mark ∉ s.toList) : charsText (Text.codePoints s) = .ok s :=
  charsText_eq_ok.2 (CodePoint.ofHeld_of_notMem h)

namespace Utf8

theorem encodePoints_eq_ok : encodePoints ps = .ok bs ↔ ∃ s : String, ps = s.toList.map .char ∧ encode s = bs := by
  rw [encodePoints, Except.map_eq_ok]
  simp only [charsText_eq_ok]

theorem encodePoints_codePoints (h : CodePoint.mark ∉ s.toList) :
    encodePoints (Text.codePoints s) = .ok (encode s) := by
  rw [encodePoints, charsText_codePoints h]
  rfl

/-- Code points that have bytes are read back as the characters that they are. -/
theorem decode_of_encodePoints (h : encodePoints ps = .ok bs) :
    ∃ s : String, decode bs = .ok s ∧ s.toList.map .char = ps := by
  obtain ⟨s, rfl, rfl⟩ := encodePoints_eq_ok.1 h
  exact ⟨s, decode_encode s, rfl⟩

end Utf8

end Encoding

end PromptMarkup
