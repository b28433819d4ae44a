import Mathlib.Algebra.Group.Nat.Even
import Mathlib.Data.Int.Order.Basic
import ResourceEmbedding.Template.Analysis

namespace ResourceEmbedding.Template

variable {cs : List Char} {c : Char} {groups : List (Nat × Nat)} {i j k n : Nat}

-- An odd number of apostrophes stands before the place `i`.
def QuotedAt (cs : List Char) (i : Nat) : Prop :=
  ¬Even ((cs.take i).count '\'')

-- At the place `i` stands `c`, and not in quotes.
def ActiveAt (cs : List Char) (i : Nat) (c : Char) : Prop :=
  cs[i]? = some c ∧ ¬QuotedAt cs i

instance : Decidable (QuotedAt cs i) :=
  inferInstanceAs (Decidable ¬_)

instance : Decidable (ActiveAt cs i c) :=
  inferInstanceAs (Decidable (_ ∧ _))

-- The active opening braces before the place `i`, less the active closing ones.
def depth (cs : List Char) : Nat → Int
  | 0     => 0
  | i + 1 =>
    depth cs i + (if ActiveAt cs i '\x7b' then 1 else 0) - (if ActiveAt cs i '\x7d' then 1 else 0)

structure Balanced (cs : List Char) : Prop where
  nonneg : ∀ i ≤ cs.length, 0 ≤ depth cs i
  closed : depth cs cs.length = 0

-- The brace at `j` closes the one at `i`, which lies in no other.
structure IsGroup (cs : List Char) (i j : Nat) : Prop where
  lt     : i < j
  opens  : ActiveAt cs i '\x7b'
  outer  : depth cs i = 0
  inside : ∀ k, i < k → k ≤ j → 0 < depth cs k
  closes : ActiveAt cs j '\x7d'
  after  : depth cs (j + 1) = 0

def body (cs : List Char) (i j : Nat) : List Char :=
  (cs.take j).drop (i + 1)

-- All groups that end before the place `n`, in order.
structure Groups (cs : List Char) (n : Nat) (groups : List (Nat × Nat)) : Prop where
  ordered : groups.Pairwise (·.2 < ·.1)
  mem_iff : ∀ i j, (i, j) ∈ groups ↔ IsGroup cs i j ∧ j < n

theorem quotedAt_succ (h : cs[n]? = some c) :
    QuotedAt cs (n + 1) ↔ (QuotedAt cs n ↔ c ≠ '\'') := by
  simp only [QuotedAt, List.take_add_one, h, Option.toList_some, List.count_append]
  by_cases hc : c = '\''
  case pos => simp [hc, Nat.even_add_one]
  case neg => simp [hc]

theorem body_self : body cs n (n + 1) = [] := by
  simp [body]

theorem body_succ (hi : i < n) (h : cs[n]? = some c) : body cs i (n + 1) = body cs i n ++ [c] := by
  have hn := (List.getElem?_eq_some_iff.mp h).1
  rw [body, body, List.take_add_one, h, Option.toList_some, List.drop_append_of_le_length]
  rw [List.length_take]
  omega

theorem ActiveAt.unique {d : Char} (h₁ : ActiveAt cs n c) (h₂ : ActiveAt cs n d) : c = d :=
  Option.some_inj.mp <| h₁.1.symm.trans h₂.1

theorem depth_opening (h : ActiveAt cs n '\x7b') : depth cs (n + 1) = depth cs n + 1 := by
  have hn : ¬ActiveAt cs n '\x7d' := fun h₂ => absurd (h.unique h₂) (by decide)
  simp [depth, h, hn]

theorem depth_closing (h : ActiveAt cs n '\x7d') : depth cs (n + 1) = depth cs n - 1 := by
  have hn : ¬ActiveAt cs n '\x7b' := fun h₂ => absurd (h.unique h₂) (by decide)
  simp [depth, h, hn]

theorem depth_passive (ho : ¬ActiveAt cs n '\x7b') (hc : ¬ActiveAt cs n '\x7d') :
    depth cs (n + 1) = depth cs n := by
  simp [depth, ho, hc]

theorem not_isGroup (h : ActiveAt cs n '\x7b') : ¬IsGroup cs i n :=
  fun hg => absurd (h.unique hg.closes) (by decide)

-- Where it is closed, a group leaves the depth at zero; from there on no brace is open.
theorem IsGroup.lt_of_open (h : IsGroup cs i j) (hj : j < n)
    (ho : ∀ l, k < l → l ≤ n → 0 < depth cs l) : j < k := by
  by_contra hk
  have := ho (j + 1) (by omega) (by omega)
  have := h.after
  omega

theorem IsGroup.lt_length (h : IsGroup cs i j) : j < cs.length :=
  (List.getElem?_eq_some_iff.mp h.closes.1).1

theorem IsGroup.unique (h₁ : IsGroup cs i n) (h₂ : IsGroup cs j n) : i = j := by
  have hn {i j : Nat} (h₁ : IsGroup cs i n) (h₂ : IsGroup cs j n) : ¬i < j := by
    intro hl
    have := h₁.inside j hl (Nat.le_of_lt h₂.lt)
    have := h₂.outer
    omega
  have := hn h₁ h₂
  have := hn h₂ h₁
  omega

theorem Groups.nil : Groups cs 0 [] where
  ordered := .nil
  mem_iff := by simp

theorem Groups.skip (h : Groups cs n groups) (hn : ∀ i, ¬IsGroup cs i n) :
    Groups cs (n + 1) groups where
  ordered := h.ordered
  mem_iff := by
    intro i j
    rw [h.mem_iff i j]
    constructor
    case mp  => exact fun ⟨hg, hj⟩ => ⟨hg, by omega⟩
    case mpr =>
      intro ⟨hg, hj⟩
      have : j ≠ n := fun he => hn i (he ▸ hg)
      exact ⟨hg, by omega⟩

theorem Groups.push (h : Groups cs n groups) (hg : IsGroup cs i n) :
    Groups cs (n + 1) (groups ++ [(i, n)]) where
  ordered := by
    rw [List.pairwise_append]
    refine ⟨h.ordered, List.pairwise_singleton _ _, ?_⟩
    intro ⟨a, b⟩ hm _ he
    have ⟨hg₂, hb⟩ := (h.mem_iff a b).mp hm
    cases List.mem_singleton.mp he
    exact hg₂.lt_of_open hb hg.inside
  mem_iff := by
    intro a b
    rw [List.mem_append, List.mem_singleton, h.mem_iff a b, Prod.mk.injEq]
    constructor
    case mp =>
      intro h
      cases h
      case inl h => exact ⟨h.1, by omega⟩
      case inr h => exact ⟨h.1 ▸ h.2 ▸ hg, by omega⟩
    case mpr =>
      intro ⟨hg₂, hb⟩
      by_cases hn : b = n
      case pos => exact .inr ⟨(hn ▸ hg₂).unique hg, hn⟩
      case neg => exact .inl ⟨hg₂, by omega⟩

end ResourceEmbedding.Template
