import Mathlib.Data.List.Basic
import Mathlib.Data.Prod.Basic

namespace ResourceEmbedding

variable {a : α} {as earlier before : List α}

-- The members of a list, each with those that come before it; `before` stands before them all.
def occurrencesFrom (before : List α) : List α → List (List α × α)
  | [] => []
  | a :: as => (before, a) :: occurrencesFrom (before ++ [a]) as

def occurrences (as : List α) : List (List α × α) :=
  occurrencesFrom [] as

theorem map_snd_occurrencesFrom (before as : List α) :
    (occurrencesFrom before as).map (·.2) = as := by
  induction as generalizing before
  case nil          => rfl
  case cons a as hi => rw [occurrencesFrom, List.map_cons, hi]

theorem mem_occurrencesFrom :
    (earlier, a) ∈ occurrencesFrom before as ↔
      ∃ front back, as = front ++ a :: back ∧ earlier = before ++ front := by
  induction as generalizing before
  case nil => simp [occurrencesFrom]
  case cons b as hi =>
    rw [occurrencesFrom, List.mem_cons, hi, Prod.mk_inj]
    constructor
    case mp =>
      rintro (⟨rfl, rfl⟩ | ⟨front, back, rfl, rfl⟩)
      · exact ⟨[], as, rfl, (List.append_nil _).symm⟩
      · exact ⟨b :: front, back, rfl, by simp⟩
    case mpr =>
      rintro ⟨front, back, h, rfl⟩
      cases front
      case nil =>
        cases h
        exact .inl ⟨List.append_nil _, rfl⟩
      case cons =>
        cases h
        exact .inr ⟨_, back, rfl, by simp⟩

theorem mem_occurrences :
    (earlier, a) ∈ occurrences as ↔ ∃ back, as = earlier ++ a :: back := by
  simp [occurrences, mem_occurrencesFrom]

theorem pairwise_occurrencesFrom (before as : List α) :
    (occurrencesFrom before as).Pairwise fun o p => o.2 ∈ p.1 := by
  induction as generalizing before
  case nil => exact .nil
  case cons a as hi =>
    refine List.pairwise_cons.mpr ⟨fun p hp => ?_, hi _⟩
    have ⟨_, _, _, he⟩ := mem_occurrencesFrom.mp hp
    simp [he]

theorem pairwise_length_occurrencesFrom (before as : List α) :
    (occurrencesFrom before as).Pairwise fun o p => o.1.length < p.1.length := by
  induction as generalizing before
  case nil => exact .nil
  case cons a as hi =>
    refine List.pairwise_cons.mpr ⟨fun p hp => ?_, hi _⟩
    have ⟨_, _, _, he⟩ := mem_occurrencesFrom.mp hp
    simp [he]

theorem occurrencesFrom_map (f : α → β) (before as : List α) :
    occurrencesFrom (before.map f) (as.map f) =
      (occurrencesFrom before as).map fun o => (o.1.map f, f o.2) := by
  induction as generalizing before
  case nil => rfl
  case cons a as hi =>
    have hb : before.map f ++ [f a] = (before ++ [a]).map f := by simp
    rw [List.map_cons, occurrencesFrom, occurrencesFrom, List.map_cons, hb, hi]

-- A member comes behind `n` others like it at one place, if it comes more often than that, and
-- otherwise at none.
theorem countP_occurrencesFrom [DecidableEq α] (before as : List α) (a : α) (n : Nat) :
    (occurrencesFrom before as).countP (fun o => o.2 = a ∧ o.1.count a = n) =
      if before.count a ≤ n ∧ n < before.count a + as.count a then 1 else 0 := by
  induction as generalizing before
  case nil =>
    have hn : ¬(before.count a ≤ n ∧ n < before.count a) := by omega
    simp [occurrencesFrom, hn]
  case cons b as hi =>
    rw [occurrencesFrom, List.countP_cons, hi, List.count_append]
    simp only [List.count_cons, List.count_nil, beq_iff_eq, decide_eq_true_eq]
    by_cases hb : b = a
    case neg => simp [hb]
    case pos =>
      simp only [hb, if_true, true_and]
      split <;> split <;> split <;> omega

theorem countP_occurrences [DecidableEq α] (as : List α) (a : α) (n : Nat) :
    (occurrences as).countP (fun o => o.2 = a ∧ o.1.count a = n) =
      if n < as.count a then 1 else 0 := by
  rw [occurrences, countP_occurrencesFrom]
  simp

end ResourceEmbedding
