import Mathlib.Data.List.DropRight
import ResourceEmbedding.Text.Keyword

namespace ResourceEmbedding

namespace Text

variable {cs ds : List Char} {c : Char}

theorem trimEnd_prefix (cs : List Char) : trimEnd cs <+: cs :=
  List.rdropWhile_prefix isBlank cs

theorem trimStart_of_head (h : ∀ c ∈ cs.head?, isBlank c = false) : trimStart cs = cs := by
  cases cs
  case nil         => rfl
  case cons c tail => exact List.dropWhile_cons_of_neg (by simp [h c rfl])

theorem trimEnd_of_getLast (h : ∀ c ∈ cs.getLast?, isBlank c = false) : trimEnd cs = cs := by
  refine List.rdropWhile_eq_self_iff.mpr fun hn => ?_
  simp [h _ (List.getLast?_eq_some_getLast hn)]

theorem trim_of_ends (hh : ∀ c ∈ cs.head?, isBlank c = false)
    (hl : ∀ c ∈ cs.getLast?, isBlank c = false) : trim cs = cs := by
  rw [trim, trimStart_of_head hh, trimEnd_of_getLast hl]

theorem isBlank_head_trimStart (h : c ∈ (trimStart cs).head?) : isBlank c = false := by
  have hn := List.head?_dropWhile_not isBlank cs
  rw [trimStart, Option.mem_def] at h
  rwa [h] at hn

theorem trimStart_trimStart (cs : List Char) : trimStart (trimStart cs) = trimStart cs :=
  trimStart_of_head fun _ => isBlank_head_trimStart

theorem trimStart_append (h : trimStart cs ≠ []) (ds : List Char) :
    trimStart (cs ++ ds) = trimStart cs ++ ds := by
  have hn : ¬(cs.dropWhile isBlank).isEmpty := mt List.isEmpty_iff.mp h
  rw [trimStart, List.dropWhile_append, if_neg hn, trimStart]

theorem trimStart_append_of_nil (h : trimStart cs = []) (ds : List Char) :
    trimStart (cs ++ ds) = trimStart ds := by
  have hn : (cs.dropWhile isBlank).isEmpty := List.isEmpty_iff.mpr h
  rw [trimStart, List.dropWhile_append, if_pos hn, trimStart]

theorem trimStart_append_trimStart (cs ds : List Char) :
    trimStart (cs ++ trimStart ds) = trimStart cs ++ trimStart ds := by
  by_cases h : trimStart cs = []
  case pos => rw [trimStart_append_of_nil h, h, trimStart_trimStart, List.nil_append]
  case neg => exact trimStart_append h _

theorem trimStart_append_cons (h : ¬isBlank c) (cs ds : List Char) :
    trimStart (cs ++ c :: ds) = trimStart cs ++ c :: ds := by
  have hc : trimStart (c :: ds) = c :: ds := List.dropWhile_cons_of_neg h
  rw [← hc, trimStart_append_trimStart]

-- A text that is trimmed behind another one is trimmed already, or there is nothing before it.
theorem eq_nil_or_of_trimStart_append
    (h : trimStart (cs ++ ds) = trimStart cs ++ trimStart ds) :
    trimStart cs = [] ∨ trimStart ds = ds := by
  by_cases hc : trimStart cs = []
  case pos => exact .inl hc
  case neg =>
    rw [trimStart_append hc, List.append_cancel_left_eq] at h
    exact .inr h.symm

-- What is left by `trimEnd` begins as it did before.
theorem trimStart_trim (cs : List Char) : trimStart (trim cs) = trim cs := by
  apply trimStart_of_head
  intro c hc
  have ⟨tail, ht⟩ := trimEnd_prefix (trimStart cs)
  have hc : c ∈ (trimStart cs).head? := by
    rw [← ht, List.head?_append]
    exact Option.or_eq_some_iff.mpr (.inl hc)
  exact isBlank_head_trimStart hc

theorem trim_trim (cs : List Char) : trim (trim cs) = trim cs := by
  have h : trimEnd (trim cs) = trim cs := List.rdropWhile_idempotent isBlank _
  rw [trim, trimStart_trim, h]

@[simp] theorem trimmed_trimmed (s : String) : trimmed (trimmed s) = trimmed s := by
  simp [trimmed, trim_trim]

@[simp] theorem keyword_trimmed (s : String) : keyword (trimmed s) = keyword s := by
  simp [keyword]

end Text

variable {noun : String} {all : List α} {name : α → String} {s : String}

@[simp] theorem readKeyword_trimmed :
    readKeyword noun all name (Text.trimmed s) = readKeyword noun all name s := by
  simp [readKeyword]

theorem exists_readKeyword_iff :
    (∃ a, readKeyword noun all name s = .ok a) ↔ ∃ a ∈ all, name a = Text.keyword s := by
  rw [readKeyword]
  cases hf : all.find? (name · == Text.keyword s)
  case none   => simpa using hf
  case some a =>
    have hn : name a = Text.keyword s := by simpa using List.find?_some hf
    exact iff_of_true ⟨a, rfl⟩ ⟨a, List.mem_of_find?_eq_some hf, hn⟩

end ResourceEmbedding
