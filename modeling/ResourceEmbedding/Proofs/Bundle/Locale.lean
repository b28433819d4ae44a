import ResourceEmbedding.Bundle.Locale
import Mathlib.Data.List.Basic

namespace ResourceEmbedding

variable {sep : α} {p : α → Bool} {as : List α} {xs ys : List (List α)}

theorem Text.splitAt_ne_nil (p : α → Bool) (as : List α) : splitAt p as ≠ [] := by
  cases as
  case nil => simp [splitAt]
  case cons a as =>
    rw [splitAt]
    split
    case isTrue  => simp
    case isFalse => split <;> simp

-- The members at which a list is split are those that join its parts.
theorem Text.intercalate_splitAt (h : ∀ a, p a → a = sep) (as : List α) :
    [sep].intercalate (splitAt p as) = as := by
  induction as
  case nil => rfl
  case cons a as hi =>
    simp only [splitAt]
    split
    case isTrue ha =>
      rw [List.intercalate_cons_of_ne_nil (splitAt_ne_nil p as), hi, h a ha]
      rfl
    case isFalse =>
      split
      case h_1 hs => exact absurd hs (splitAt_ne_nil p as)
      case h_2 hs => rw [List.intercalate_cons_cons_left, ← hs, hi]

theorem Text.intercalate_append (hx : xs ≠ []) (hy : ys ≠ []) (sep : List α) :
    sep.intercalate (xs ++ ys) = sep.intercalate xs ++ sep ++ sep.intercalate ys := by
  induction xs
  case nil => contradiction
  case cons x xs hi =>
    rw [List.cons_append, List.intercalate_cons_of_ne_nil (by simp [hy])]
    by_cases hn : xs = []
    case pos => simp [hn]
    case neg => rw [hi hn, List.intercalate_cons_of_ne_nil hn]; simp

namespace Locale

variable {parts before base tag : List (List Char)}

theorem ne_nil_of_isLanguage {part : List Char} (h : isLanguage part) : part ≠ [] := by
  intro hn
  simp [isLanguage, hn] at h

-- A tag takes the last of the parts, and starts with a language.
theorem splitFrom_eq_some (hb : before ≠ []) (h : splitFrom before parts = some (base, tag)) :
    before.reverse ++ parts = base ++ tag ∧ base ≠ [] ∧
      ∃ part rest, tag = part :: rest ∧ part ≠ [] := by
  induction parts generalizing before
  case nil => cases h
  case cons part parts hi =>
    rw [splitFrom] at h
    split at h
    case isTrue hl =>
      cases h
      have hl := ne_nil_of_isLanguage (Bool.and_eq_true_iff.mp hl).1
      exact ⟨rfl, by simpa using hb, part, parts, rfl, hl⟩
    case isFalse =>
      have ⟨he, h⟩ := hi (by simp) h
      exact ⟨by rw [← he]; simp, h⟩

theorem split?_eq_some {name base tag : List Char} (h : split? name = some (base, tag)) :
    name = base ++ '_' :: tag ∧ tag ≠ [] := by
  have hu c (hc : isUnderscore c) : c = '_' := by simpa [isUnderscore] using hc
  have hn := Text.intercalate_splitAt hu name
  rw [split?] at h
  split at h
  case h_1 => cases h
  case h_2 first rest hs =>
    split at h
    case h_1 | h_2 => cases h
    case h_3 base tag _ hf =>
      cases h
      have ⟨he, hb, part, parts, ht, hp⟩ := splitFrom_eq_some (by simp) hf
      have he : first :: rest = base ++ tag := he
      rw [hs, he, Text.intercalate_append hb (by simp [ht])] at hn
      refine ⟨by simpa using hn.symm, ?_⟩
      rw [ht]
      cases parts <;> simp [hp, List.intercalate_cons_of_ne_nil]

end Locale

end ResourceEmbedding
