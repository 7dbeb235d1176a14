import CardText.Unicode.Space
import CardText.Unicode.Word

/-! The letters and digits of ASCII, as the tables of the standard see them. -/
namespace CardText.Unicode

theorem isAlpha_iff_toNat {c : Char} :
    c.isAlpha = true ↔ 65 ≤ c.toNat ∧ c.toNat ≤ 90 ∨ 97 ≤ c.toNat ∧ c.toNat ≤ 122 := by
  delta Char.isAlpha Char.isUpper Char.isLower
  simp [UInt32.le_iff_toNat_le, ← Char.toNat_val]

theorem isDigit_iff_toNat {c : Char} : c.isDigit = true ↔ 48 ≤ c.toNat ∧ c.toNat ≤ 57 :=
  Char.isDigit_iff_toNat

theorem isAlpha_eq_false_of_isDigit {c : Char} (h : c.isDigit = true) : c.isAlpha = false := by
  rw [isDigit_iff_toNat] at h
  rw [← Bool.not_eq_true, isAlpha_iff_toNat]
  omega

theorem toNat_of_isAlphanum {c : Char} (h : c.isAlphanum = true) :
    48 ≤ c.toNat ∧ c.toNat ≤ 122 := by
  rw [Char.isAlphanum, Bool.or_eq_true, isAlpha_iff_toNat, isDigit_iff_toNat] at h
  omega

theorem isSpace_of_isAlphanum {c : Char} (h : c.isAlphanum = true) : isSpace c = false := by
  have bounds := toNat_of_isAlphanum h
  rw [isSpace, whiteSpaceRanges, inRanges, if_neg, if_neg, inRanges, if_neg, if_neg, inRanges,
    if_pos] <;> omega

theorem isWord_of_isAlpha {c : Char} (h : c.isAlpha = true) : isWord c = true := by
  rw [isAlpha_iff_toNat] at h
  have recent : isRecent c = false := by
    rw [isRecent, recentRanges, inRanges, if_pos]
    omega
  have letter : isAlphabetic c = true := by
    rw [isAlphabetic, alphabeticRanges, inRanges, if_neg (by omega)]
    split
    · rfl
    · rw [inRanges, if_neg (by omega), if_pos (by omega)]
  rw [isWord, letter, recent]
  rfl

theorem isWord_of_isDigit {c : Char} (h : c.isDigit = true) : isWord c = true := by
  rw [isDigit_iff_toNat] at h
  have recent : isRecent c = false := by
    rw [isRecent, recentRanges, inRanges, if_pos]
    omega
  have digit : inRanges decimalDigitRanges c.toNat = true := by
    rw [decimalDigitRanges, inRanges, if_neg (by omega), if_pos (by omega)]
  rw [isWord, digit, recent]
  simp

theorem isWord_of_isAlphanum {c : Char} (h : c.isAlphanum = true) : isWord c = true := by
  rw [Char.isAlphanum, Bool.or_eq_true] at h
  exact h.elim isWord_of_isAlpha isWord_of_isDigit

end CardText.Unicode
