import Mathlib.Order.Bounds.Basic
import ResourceEmbedding.Bundle.Message
import ResourceEmbedding.Proofs.Staged

namespace ResourceEmbedding.Message

variable {as bs cs kinds : List ArgumentKind} {lists : List (List ArgumentKind)} {index i : Nat}
variable {a b c kind : ArgumentKind} {shapes : List Shape}

theorem joinKind?_eq_some (h : joinKind? a b = some c) (hk : kind ≠ .text) :
    c = kind ↔ a = kind ∨ b = kind := by
  grind [joinKind?]

-- The list of kinds that some lists of kinds agree on. An argument is typed in it if it is typed in
-- one of them.
structure IsJoin (lists : List (List ArgumentKind)) (kinds : List ArgumentKind) : Prop where
  bound   : ∀ as ∈ lists, as.length ≤ kinds.length
  reached : ∃ as ∈ lists, as.length = kinds.length
  typed   : ∀ (i : Nat) kind, kind ≠ .text →
    (kinds[i]? = some kind ↔ ∃ as ∈ lists, as[i]? = some kind)

theorem isJoin_singleton (as : List ArgumentKind) : IsJoin [as] as where
  bound   := by simp
  reached := by simp
  typed   := by simp

theorem IsJoin.cons (h : IsJoin [as, bs] cs) (hj : IsJoin (cs :: lists) kinds) :
    IsJoin (as :: bs :: lists) kinds where
  bound   := by
    have ha := h.bound as (by simp)
    have hb := h.bound bs (by simp)
    have hc := hj.bound cs (by simp)
    intro ds hm
    rcases List.mem_cons.mp hm with rfl | hm
    · exact Nat.le_trans ha hc
    rcases List.mem_cons.mp hm with rfl | hm
    · exact Nat.le_trans hb hc
    · exact hj.bound ds (List.mem_cons_of_mem cs hm)
  reached := by
    have ⟨ds, hm, hd⟩ := hj.reached
    rcases List.mem_cons.mp hm with rfl | hm
    · have ⟨es, he, hl⟩ := h.reached
      exact ⟨es, by grind, hl.trans hd⟩
    · exact ⟨ds, by simp [hm], hd⟩
  typed   := by
    intro i kind hk
    have h := h.typed i kind hk
    simp only [List.mem_cons, List.not_mem_nil, or_false, exists_eq_or_imp, exists_eq_left] at h
    simp only [hj.typed i kind hk, h, List.mem_cons, exists_eq_or_imp, or_assoc]

theorem isJoin_of_joinFrom (h : joinFrom index as bs = .ok cs) : IsJoin [as, bs] cs := by
  fun_induction joinFrom index as bs generalizing cs
  case case1 bs =>
    cases h
    exact ⟨by simp, by simp, by simp⟩
  case case2 =>
    cases h
    exact ⟨by simp, by simp, by simp⟩
  case case3 => cases h
  case case4 index a as b bs kind hk hi =>
    have ⟨rest, hr, hc⟩ := map_eq_ok.mp h
    have hi := hi hr
    rw [← hc]
    refine ⟨by simpa using hi.bound, by simpa using hi.reached, fun i => ?_⟩
    cases i
    case zero   => simpa using fun kind => joinKind?_eq_some hk
    case succ i => simpa using hi.typed i

theorem IsJoin.of_nil (h : IsJoin ([] :: lists) kinds) (hl : lists ≠ []) : IsJoin lists kinds where
  bound   := fun as hm => h.bound as (List.mem_cons_of_mem [] hm)
  reached := by
    have ⟨as, hm, ha⟩ := h.reached
    rcases List.mem_cons.mp hm with rfl | hm
    · have ⟨bs, hb⟩ := List.exists_mem_of_ne_nil lists hl
      have hn := h.bound bs (List.mem_cons_of_mem [] hb)
      exact ⟨bs, hb, by simp only [List.length_nil] at ha; omega⟩
    · exact ⟨as, hm, ha⟩
  typed   := by simpa using h.typed

theorem isJoin_of_foldlM
    (h : shapes.foldlM (fun kinds s => joinFrom 0 kinds s.arguments) as = .ok kinds) :
    IsJoin (as :: shapes.map (·.arguments)) kinds := by
  induction shapes generalizing as
  case nil =>
    cases h
    exact isJoin_singleton _
  case cons shape shapes hi =>
    rw [List.foldlM_cons] at h
    have ⟨bs, hs, h⟩ := bind_eq_ok.mp h
    exact (isJoin_of_joinFrom hs).cons (hi h)

theorem isJoin_of_joinShapes (h : joinShapes shapes = .ok kinds) (hs : shapes ≠ []) :
    IsJoin (shapes.map (·.arguments)) kinds :=
  (isJoin_of_foldlM h).of_nil (by simpa)

-- Two of the lists exclude each other: an argument is a number in one and a date in the other.
def Clash (lists : List (List ArgumentKind)) : Prop :=
  ∃ (i : Nat), (∃ as ∈ lists, as[i]? = some .number) ∧ ∃ as ∈ lists, as[i]? = some .date

theorem Clash.subset {lists₂ : List (List ArgumentKind)} (h : Clash lists) (hs : lists ⊆ lists₂) :
    Clash lists₂ := by
  obtain ⟨i, ⟨as, ha, hn⟩, bs, hb, hd⟩ := h
  exact ⟨i, ⟨as, hs ha, hn⟩, bs, hs hb, hd⟩

-- The typed arguments of lists and of their join are the same.
theorem IsJoin.clash_iff (h : IsJoin lists kinds) : Clash lists ↔ Clash [kinds] := by
  have typed (i : Nat) (kind : ArgumentKind) (hk : kind ≠ .text) := h.typed i kind hk
  simp only [Clash, List.mem_singleton, exists_eq_left, typed _ .number nofun, typed _ .date nofun]

theorem not_clash_singleton (as : List ArgumentKind) : ¬Clash [as] := by
  rintro ⟨i, ⟨_, ha, hn⟩, _, hb, hd⟩
  cases List.mem_singleton.mp ha
  cases List.mem_singleton.mp hb
  cases hn.symm.trans hd

theorem Clash.cons (h : IsJoin [as, bs] cs) (hc : Clash (cs :: lists)) :
    Clash (as :: bs :: lists) := by
  have typed (i : Nat) (kind : ArgumentKind) (hk : kind ≠ .text) := h.typed i kind hk
  simp only [List.mem_cons, List.not_mem_nil, or_false, exists_eq_or_imp, exists_eq_left] at typed
  simpa only [Clash, List.mem_cons, exists_eq_or_imp, typed _ .number nofun, typed _ .date nofun,
    or_assoc] using hc

theorem joinKind?_eq_none (h : joinKind? a b = none) :
    a = .number ∧ b = .date ∨ a = .date ∧ b = .number := by
  cases a <;> cases b <;> simp [joinKind?] at h <;> simp

theorem clash_of_joinFrom (h : joinFrom index as bs = .error i) : Clash [as, bs] := by
  fun_induction joinFrom index as bs
  case case1 => cases h
  case case2 => cases h
  case case3 a as b bs hk =>
    rcases joinKind?_eq_none hk with ⟨rfl, rfl⟩ | ⟨rfl, rfl⟩
    · exact ⟨0, by simp, by simp⟩
    · exact ⟨0, by simp, by simp⟩
  case case4 index a as b bs kind hk hi =>
    have ⟨i, hn, hd⟩ := hi (map_eq_error.mp h)
    refine ⟨i + 1, ?_, ?_⟩
    · simpa using hn
    · simpa using hd

theorem clash_of_foldlM
    (h : shapes.foldlM (fun kinds s => joinFrom 0 kinds s.arguments) as = .error i) :
    Clash (as :: shapes.map (·.arguments)) := by
  induction shapes generalizing as
  case nil => cases h
  case cons shape shapes hi =>
    rw [List.foldlM_cons, bind_eq_error] at h
    rcases h with h | ⟨bs, hs, h⟩
    · exact (clash_of_joinFrom h).subset (by simp)
    · exact (hi h).cons (isJoin_of_joinFrom hs)

-- Shapes have no join only if an argument is a number in one of them and a date in another.
theorem exists_joinShapes_iff :
    (∃ kinds, joinShapes shapes = .ok kinds) ↔ ¬Clash (shapes.map (·.arguments)) := by
  constructor
  case mp =>
    intro ⟨kinds, hk⟩ hc
    have hj := isJoin_of_foldlM hk
    exact not_clash_singleton kinds (hj.clash_iff.mp (hc.subset (List.subset_cons_self ..)))
  case mpr =>
    intro hc
    cases hj : joinShapes shapes
    case ok kinds => exact ⟨kinds, rfl⟩
    case error i =>
      have ⟨i, hn, hd⟩ := clash_of_foldlM hj
      exact absurd ⟨i, by simpa using hn, by simpa using hd⟩ hc

section
variable (h : IsJoin (shapes.map (·.arguments)) kinds)
include h

theorem IsJoin.getElem?_iff (hk : kind ≠ .text) :
    kinds[i]? = some kind ↔ ∃ shape ∈ shapes, shape.arguments[i]? = some kind := by
  simp [h.typed i kind hk]

theorem IsJoin.mem_iff (hk : kind ≠ .text) :
    kind ∈ kinds ↔ ∃ shape ∈ shapes, kind ∈ shape.arguments := by
  simp only [List.mem_iff_getElem?, h.getElem?_iff hk]
  grind

theorem IsJoin.isGreatest_length :
    IsGreatest {n | ∃ shape ∈ shapes, shape.arguments.length = n} kinds.length := by
  constructor
  case left => simpa using h.reached
  case right =>
    rintro _ ⟨shape, hs, rfl⟩
    exact h.bound _ (List.mem_map_of_mem hs)

theorem IsJoin.any_needsTimeZone : shapes.any (·.needsTimeZone) ↔ .date ∈ kinds := by
  have hd : ArgumentKind.date ≠ .text := nofun
  rw [h.mem_iff hd]
  simp [Shape.needsTimeZone]

theorem IsJoin.any_needsLocale :
    shapes.any (·.needsLocale) ↔ ∃ kind ∈ kinds, kind ≠ .text := by
  simp only [List.any_eq_true, Shape.needsLocale, ArgumentKind.isTyped, bne_iff_ne]
  constructor
  case mp =>
    rintro ⟨shape, hs, kind, hm, hk⟩
    exact ⟨kind, (h.mem_iff hk).mpr ⟨shape, hs, hm⟩, hk⟩
  case mpr =>
    rintro ⟨kind, hm, hk⟩
    have ⟨shape, hs, hm⟩ := (h.mem_iff hk).mp hm
    exact ⟨shape, hs, kind, hm, hk⟩

end

end ResourceEmbedding.Message
