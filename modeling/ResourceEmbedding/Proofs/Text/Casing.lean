import Mathlib
import ResourceEmbedding.Text.Casing

namespace ResourceEmbedding.Text

variable {c : Char} {word : List Char}

theorem isAscii_of_isAlphanum (h : c.isAlphanum) : isAscii c := by
  simp only [Char.isAlphanum, Char.isAlpha, Char.isUpper, Char.isLower, Char.isDigit,
    Bool.or_eq_true, Bool.and_eq_true, decide_eq_true_eq, UInt32.le_iff_toNat_le] at h
  simp only [isAscii, decide_eq_true_eq, Char.toNat]
  grind

theorem not_isDigit_of_isAlpha (h : c.isAlpha) : c.isDigit = false := by
  simp only [Char.isAlpha, Char.isUpper, Char.isLower, Bool.or_eq_true, Bool.and_eq_true,
    decide_eq_true_eq, UInt32.le_iff_toNat_le] at h
  simp only [Char.isDigit, Bool.and_eq_false_iff, decide_eq_false_iff_not, UInt32.le_iff_toNat_le]
  grind

-- Only letters have another form.
theorem toLower_eq_of_not_isAlpha (h : ¬c.isAlpha) : c.toLower = c := by
  have hu : ¬c.isUpper := fun hu => h (by simp [Char.isAlpha, hu])
  exact Char.toLower_eq_of_not_isUpper hu

theorem toUpper_eq_of_not_isAlpha (h : ¬c.isAlpha) : c.toUpper = c := by
  have hl : ¬c.isLower := fun hl => h (by simp [Char.isAlpha, hl])
  exact Char.toUpper_eq_of_not_isLower hl

-- So what is no letter is the form of nothing but itself.
theorem toLower_eq_iff {d : Char} (h : ¬d.isAlpha) : c.toLower = d ↔ c = d := by
  constructor
  case mp =>
    rintro rfl
    rw [Char.isAlpha_toLower_eq_isAlpha] at h
    exact (toLower_eq_of_not_isAlpha h).symm
  case mpr =>
    rintro rfl
    exact toLower_eq_of_not_isAlpha h

theorem toUpper_eq_iff {d : Char} (h : ¬d.isAlpha) : c.toUpper = d ↔ c = d := by
  constructor
  case mp =>
    rintro rfl
    rw [Char.isAlpha_toUpper_eq_isAlpha] at h
    exact (toUpper_eq_of_not_isAlpha h).symm
  case mpr =>
    rintro rfl
    exact toUpper_eq_of_not_isAlpha h

-- The forms of letters are letters, so digits are the forms of themselves alone.
theorem isDigit_of_isAlpha {f : Char → Char} (ha : (f c).isAlpha = c.isAlpha)
    (hn : ¬c.isAlpha → f c = c) : (f c).isDigit = c.isDigit := by
  by_cases h : c.isAlpha
  case pos => rw [not_isDigit_of_isAlpha h, not_isDigit_of_isAlpha (ha.trans h)]
  case neg => rw [hn h]

theorem isDigit_toUpper (c : Char) : c.toUpper.isDigit = c.isDigit :=
  isDigit_of_isAlpha (Char.isAlpha_toUpper_eq_isAlpha c) toUpper_eq_of_not_isAlpha

theorem isDigit_toLower (c : Char) : c.toLower.isDigit = c.isDigit :=
  isDigit_of_isAlpha (Char.isAlpha_toLower_eq_isAlpha c) toLower_eq_of_not_isAlpha

theorem isAlphanum_toUpper (c : Char) : c.toUpper.isAlphanum = c.isAlphanum := by
  rw [Char.isAlphanum, Char.isAlphanum, Char.isAlpha_toUpper_eq_isAlpha, isDigit_toUpper]

theorem isAlphanum_toLower (c : Char) : c.toLower.isAlphanum = c.isAlphanum := by
  rw [Char.isAlphanum, Char.isAlphanum, Char.isAlpha_toLower_eq_isAlpha, isDigit_toLower]

theorem isLowercase_of_isAscii (h : isAscii c) : isLowercase c = c.isLower := by
  rw [isLowercase, if_pos h]

theorem isUppercase_of_isAscii (h : isAscii c) : isUppercase c = c.isUpper := by
  rw [isUppercase, if_pos h]

theorem isNumeric_of_isAscii (h : isAscii c) : isNumeric c = c.isDigit := by
  rw [isNumeric, if_pos h]

theorem lowerChar_of_isAscii (h : isAscii c) : lowerChar c = [c.toLower] := by
  rw [lowerChar, if_pos h]

theorem upperChar_of_isAscii (h : isAscii c) : upperChar c = [c.toUpper] := by
  rw [upperChar, if_pos h]

theorem lowerFrom_of_isAscii (h : ∀ c ∈ word, isAscii c) (before : List Char) :
    lowerFrom before word = word.map Char.toLower := by
  induction word generalizing before
  case nil => rfl
  case cons c word hi =>
    have ⟨hc, hw⟩ := List.forall_mem_cons.mp h
    have hs : c ≠ capitalSigma := by
      rintro rfl
      exact absurd hc (by decide)
    rw [lowerFrom, if_neg hs, lowerChar_of_isAscii hc, hi hw]
    rfl

theorem lowerWord_of_isAscii (h : ∀ c ∈ word, isAscii c) : lowerWord word = word.map Char.toLower :=
  lowerFrom_of_isAscii h []

theorem flatMap_lowerChar_of_isAscii (h : ∀ c ∈ word, isAscii c) :
    word.flatMap lowerChar = word.map Char.toLower := by
  rw [List.flatMap_congr fun c hc => lowerChar_of_isAscii (h c hc), List.map_eq_flatMap]

theorem upperWord_of_isAscii (h : ∀ c ∈ word, isAscii c) :
    upperWord word = word.map Char.toUpper := by
  rw [upperWord, List.flatMap_congr fun c hc => upperChar_of_isAscii (h c hc), List.map_eq_flatMap]

def capital : List Char → List Char
  | [] => []
  | c :: rest => c.toUpper :: rest

theorem titleWord_of_isAscii (h : ∀ c ∈ word, isAscii c) :
    titleWord word = capital (word.map Char.toLower) := by
  cases word
  case nil => rfl
  case cons c word =>
    have ⟨hc, hw⟩ := List.forall_mem_cons.mp h
    rw [titleWord, upperChar_of_isAscii hc, flatMap_lowerChar_of_isAscii hw, List.map_cons, capital,
      Char.toUpper_toLower_eq_toUpper, List.singleton_append]

@[simp] theorem map_toLower_capital (word : List Char) :
    (capital word).map Char.toLower = word.map Char.toLower := by
  cases word <;> simp [capital]

end ResourceEmbedding.Text
