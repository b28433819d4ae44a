import Mathlib.Data.String.Basic
import ResourceEmbedding.Proofs.Text.Utf8

namespace ResourceEmbedding.Utf8

variable {c d : Char} {cs ds : List Char}

theorem length_ofChar_le (h : c.toNat ≤ d.toNat) : (ofChar c).length ≤ (ofChar d).length := by
  simp only [ofChar]
  split_ifs <;> simp <;> omega

-- The first byte tells how many there are, and grows with their number.
theorem ofChar_append_lt_of_length (h : (ofChar c).length < (ofChar d).length)
    (x y : List UInt8) : ofChar c ++ x < ofChar d ++ y := by
  have ⟨a, as, hc⟩ := List.exists_cons_of_ne_nil (ofChar_ne_nil c)
  have ⟨b, bs, hd⟩ := List.exists_cons_of_ne_nil (ofChar_ne_nil d)
  rw [length_ofChar hc, length_ofChar hd, width, width] at h
  have lt : a < b := by
    rw [UInt8.lt_iff_toNat_lt]
    split_ifs at h <;> omega
  rw [hc, hd]
  exact List.cons_lt_cons_iff.mpr (.inl lt)

-- Of as many bytes, those of the greater number are greater where they first differ.
theorem ofChar_append_lt (h : c.toNat < d.toNat) (x y : List UInt8) :
    ofChar c ++ x < ofChar d ++ y := by
  rcases (length_ofChar_le h.le).lt_or_eq with hl | hl
  · exact ofChar_append_lt_of_length hl x y
  · rcases ofChar_cases c with ⟨_, hc⟩ | ⟨_, _, hc⟩ | ⟨_, _, _, hc⟩ | ⟨_, _, _, _, hc⟩ <;>
      rcases ofChar_cases d with ⟨_, hd⟩ | ⟨_, _, hd⟩ | ⟨_, _, _, hd⟩ | ⟨_, _, _, _, hd⟩ <;>
      simp only [hc, hd, List.length_cons, List.length_nil, Nat.reduceAdd, Nat.reduceEqDiff] at hl
    all_goals
      rw [hc, hd]
      simp only [ofChar_eq_one, ofChar_eq_two, ofChar_eq_three, ofChar_eq_four, isSecond_iff,
        isContinuation_iff] at hc hd
      simp only [List.cons_append, List.nil_append, List.cons_lt_cons_iff, UInt8.lt_iff_toNat_lt,
        ← UInt8.toNat_inj]
      omega

theorem flatMap_ofChar_lt (h : cs < ds) : cs.flatMap ofChar < ds.flatMap ofChar := by
  induction cs generalizing ds
  case nil =>
    cases ds
    case nil => exact absurd h (List.not_lt_nil _)
    case cons d ds =>
      have ⟨b, bs, hd⟩ := List.exists_cons_of_ne_nil (ofChar_ne_nil d)
      rw [List.flatMap_cons, hd]
      exact List.nil_lt_cons ..
  case cons c cs hi =>
    cases ds
    case nil => exact absurd h (List.not_lt_nil _)
    case cons d ds =>
      rw [List.flatMap_cons, List.flatMap_cons]
      rcases List.cons_lt_cons_iff.mp h with lt | ⟨rfl, lt⟩
      · exact ofChar_append_lt lt ..
      · exact List.append_left_lt (hi lt)

theorem encode_lt_iff {s t : String} : encode s < encode t ↔ s < t := by
  constructor
  case mp =>
    intro h
    by_contra hn
    rcases (not_lt.mp hn).lt_or_eq with lt | rfl
    · exact List.lt_asymm h (flatMap_ofChar_lt (String.lt_iff.mp lt))
    · exact List.lt_irrefl _ h
  case mpr =>
    intro h
    exact flatMap_ofChar_lt (String.lt_iff.mp h)

end ResourceEmbedding.Utf8
