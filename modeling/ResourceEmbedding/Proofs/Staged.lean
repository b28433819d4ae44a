import Mathlib.Data.List.Basic

namespace ResourceEmbedding

variable {x : Except ε α} {a : α} {b : β} {e : ε}

theorem bind_eq_ok {f : α → Except ε β} : x >>= f = .ok b ↔ ∃ a, x = .ok a ∧ f a = .ok b := by
  cases x <;> simp [bind, Except.bind]

theorem bind_eq_error {f : α → Except ε β} :
    x >>= f = .error e ↔ x = .error e ∨ ∃ a, x = .ok a ∧ f a = .error e := by
  cases x <;> simp [bind, Except.bind]

theorem pure_eq_ok {a₂ : α} : (pure a : Except ε α) = .ok a₂ ↔ a = a₂ := by
  simp [pure, Except.pure]

theorem map_eq_ok {f : α → β} : x.map f = .ok b ↔ ∃ a, x = .ok a ∧ f a = b := by
  cases x <;> simp [Except.map]

theorem map_eq_error {f : α → β} : x.map f = .error e ↔ x = .error e := by
  cases x <;> simp [Except.map]

theorem toOption_eq_some : x.toOption = some a ↔ x = .ok a := by
  cases x <;> simp [Except.toOption]

theorem mapError_eq_ok {f : ε → δ} : x.mapError f = .ok a ↔ x = .ok a := by
  cases x <;> simp [Except.mapError]

theorem mapError_eq_error {f : ε → δ} {d : δ} :
    x.mapError f = .error d ↔ ∃ e, x = .error e ∧ f e = d := by
  cases x <;> simp [Except.mapError]

theorem mem_of_mapM_eq_ok {f : α → Except ε β} {as : List α} {bs : List β}
    (h : as.mapM f = .ok bs) :
    (∀ a ∈ as, ∃ b ∈ bs, f a = .ok b) ∧ ∀ b ∈ bs, ∃ a ∈ as, f a = .ok b := by
  induction as generalizing bs
  case nil =>
    cases h
    simp
  case cons a as hi =>
    simp only [List.mapM_cons, bind_eq_ok, pure_eq_ok] at h
    obtain ⟨b, hb, bs, hs, rfl⟩ := h
    have ⟨hl, hr⟩ := hi hs
    constructor
    case left =>
      intro a₂ ha
      rcases List.mem_cons.mp ha with rfl | ha
      · exact ⟨b, List.mem_cons_self, hb⟩
      · have ⟨b₂, hm, hb⟩ := hl a₂ ha
        exact ⟨b₂, List.mem_cons_of_mem b hm, hb⟩
    case right =>
      intro b₂ hm
      rcases List.mem_cons.mp hm with rfl | hm
      · exact ⟨a, List.mem_cons_self, hb⟩
      · have ⟨a₂, ha, hb⟩ := hr b₂ hm
        exact ⟨a₂, List.mem_cons_of_mem a ha, hb⟩

-- The failure of work on a list is that on the first member on which it fails.
theorem exists_first_of_mapM_eq_error {f : α → Except ε β} {as : List α}
    (h : as.mapM f = .error e) :
    ∃ before a after, as = before ++ a :: after ∧ (∀ a₂ ∈ before, ∃ b, f a₂ = .ok b) ∧
      f a = .error e := by
  induction as
  case nil => cases h
  case cons a as hi =>
    rw [List.mapM_cons, bind_eq_error] at h
    rcases h with h | ⟨b, hb, h⟩
    · exact ⟨[], a, as, rfl, nofun, h⟩
    rcases bind_eq_error.mp h with h | ⟨_, _, h⟩
    · have ⟨before, a₂, after, he, hd, ha⟩ := hi h
      exact ⟨a :: before, a₂, after, by rw [he]; rfl, List.forall_mem_cons.mpr ⟨⟨b, hb⟩, hd⟩, ha⟩
    · cases h

theorem exists_of_mapM_eq_error {f : α → Except ε β} {as : List α} (h : as.mapM f = .error e) :
    ∃ a ∈ as, f a = .error e := by
  have ⟨before, a, after, he, _, ha⟩ := exists_first_of_mapM_eq_error h
  exact ⟨a, by simp [he], ha⟩

theorem exists_mapM_iff {f : α → Except ε β} {as : List α} :
    (∃ bs, as.mapM f = .ok bs) ↔ ∀ a ∈ as, ∃ b, f a = .ok b := by
  constructor
  case mp =>
    intro ⟨bs, hb⟩ a ha
    have ⟨b, _, hf⟩ := (mem_of_mapM_eq_ok hb).1 a ha
    exact ⟨b, hf⟩
  case mpr =>
    intro h
    cases hm : as.mapM f
    case ok bs => exact ⟨bs, rfl⟩
    case error e =>
      have ⟨a, ha, he⟩ := exists_of_mapM_eq_error hm
      have ⟨b, hb⟩ := h a ha
      cases he.symm.trans hb

theorem mapM_eq_ok_iff_map {f : α → Except ε β} {read? : α → Option β}
    (h : ∀ a b, f a = .ok b ↔ read? a = some b) {as : List α} {bs : List β} :
    as.mapM f = .ok bs ↔ as.map read? = bs.map some := by
  induction as generalizing bs
  case nil => cases bs <;> simp [pure_eq_ok]
  case cons a as hi =>
    simp only [List.mapM_cons, bind_eq_ok, pure_eq_ok, h, hi]
    cases bs <;> simp

theorem mapM_mapError {f : α → Except ε β} (g : ε → δ) (as : List α) :
    as.mapM (fun a => (f a).mapError g) = (as.mapM f).mapError g := by
  induction as
  case nil => rfl
  case cons a as hi =>
    rw [List.mapM_cons, List.mapM_cons, hi]
    cases f a
    case error => rfl
    case ok => cases as.mapM f <;> rfl

-- What each step keeps is kept by all of them.
theorem foldlM_keeps {P : β → Prop} {f : β → α → Option β} {as : List α} {b₂ : β}
    (hf : ∀ a ∈ as, ∀ b b₂, P b → f b a = some b₂ → P b₂) (hb : P b)
    (h : as.foldlM f b = some b₂) : P b₂ := by
  induction as generalizing b
  case nil =>
    cases h
    exact hb
  case cons a as hi =>
    have ⟨ha, hf⟩ := List.forall_mem_cons.mp hf
    rw [List.foldlM_cons] at h
    have ⟨b₃, hs, h⟩ := Option.bind_eq_some_iff.mp h
    exact hi hf (ha b b₃ hb hs) h

theorem foldlM_take_succ {f : β → α → Except ε β} {as : List α} {n : Nat} (ha : as[n]? = some a)
    (b : β) : (as.take (n + 1)).foldlM f b = (as.take n).foldlM f b >>= (f · a) := by
  rw [List.take_add_one, ha, Option.toList_some, List.foldlM_append]
  simp only [List.foldlM_cons, List.foldlM_nil, bind_pure]

-- If all steps are taken, so are the first ones.
theorem exists_foldlM_take {f : β → α → Except ε β} {as : List α} {i n : Nat} {b₂ : β}
    (h : (as.take n).foldlM f b = .ok b₂) (hi : i ≤ n) :
    ∃ b₃, (as.take i).foldlM f b = .ok b₃ := by
  rw [← List.take_append_drop i (as.take n), List.foldlM_append, bind_eq_ok, List.take_take,
    Nat.min_eq_left hi] at h
  have ⟨b₃, h, _⟩ := h
  exact ⟨b₃, h⟩

-- Steps that fail are taken up to the first one that does.
theorem exists_of_foldlM_eq_error {f : β → α → Except ε β} {as : List α}
    (h : as.foldlM f b = .error e) :
    ∃ n a b₂, as[n]? = some a ∧ (as.take n).foldlM f b = .ok b₂ ∧ f b₂ a = .error e := by
  induction as generalizing b
  case nil => cases h
  case cons a as hi =>
    rw [List.foldlM_cons, bind_eq_error] at h
    rcases h with h | ⟨b₂, hf, h⟩
    · exact ⟨0, a, b, rfl, rfl, h⟩
    · have ⟨n, a₂, b₃, ha, ht, hs⟩ := hi h
      refine ⟨n + 1, a₂, b₃, ha, ?_, hs⟩
      rw [List.take_succ_cons, List.foldlM_cons, bind_eq_ok]
      exact ⟨b₂, hf, ht⟩

end ResourceEmbedding
