import ResourceEmbedding.Generation.Logged

namespace ResourceEmbedding

namespace Logged

@[simp] theorem value_map (f : α → β) (x : Logged α) : (f <$> x).value = f x.value := rfl

@[simp] theorem diagnostics_map (f : α → β) (x : Logged α) :
    (f <$> x).diagnostics = x.diagnostics :=
  List.append_nil _

theorem value_mapM (f : α → Logged β) (as : List α) :
    (as.mapM f).value = as.map fun a => (f a).value := by
  induction as
  case nil          => rfl
  case cons a as hi => simp [hi]

theorem diagnostics_mapM (f : α → Logged β) (as : List α) :
    (as.mapM f).diagnostics = as.flatMap fun a => (f a).diagnostics := by
  induction as
  case nil          => rfl
  case cons a as hi => simp [hi]

theorem diagnostics_forM (f : α → Logged PUnit) (as : List α) :
    (forM as f).diagnostics = as.flatMap fun a => (f a).diagnostics := by
  induction as
  case nil          => rfl
  case cons a as hi => simp [hi]

theorem value_filterMapM (f : α → Logged (Option β)) (as : List α) :
    (as.filterMapM f).value = as.filterMap fun a => (f a).value := by
  induction as
  case nil => rfl
  case cons a as hi =>
    rw [List.filterMapM_cons, value_bind, List.filterMap_cons]
    cases (f a).value <;> simp [hi]

theorem diagnostics_filterMapM (f : α → Logged (Option β)) (as : List α) :
    (as.filterMapM f).diagnostics = as.flatMap fun a => (f a).diagnostics := by
  induction as
  case nil => rfl
  case cons a as hi =>
    rw [List.filterMapM_cons, diagnostics_bind, List.flatMap_cons]
    cases (f a).value <;> simp [hi]

theorem value_foldlM (f : β → α → Logged β) (as : List α) (b : β) :
    (as.foldlM f b).value = as.foldl (fun b a => (f b a).value) b := by
  induction as generalizing b
  case nil          => rfl
  case cons a as hi => simp [hi]

-- What a step of a fold emits may not depend on the state.
theorem diagnostics_foldlM (f : β → α → Logged β) (g : α → List Diagnostic)
    (h : ∀ b a, (f b a).diagnostics = g a) (as : List α) (b : β) :
    (as.foldlM f b).diagnostics = as.flatMap g := by
  induction as generalizing b
  case nil          => rfl
  case cons a as hi => simp [hi, h]

end Logged

namespace Processing

variable {x : Processing α} {f : α → Processing β} {a : α} {e : Failure}

theorem run_bind_ok (h : x.run.value = .ok a) :
    (x >>= f).run = ⟨(f a).run.value, x.run.diagnostics ++ (f a).run.diagnostics⟩ := by
  rw [ExceptT.run_bind]
  simp [bind, h]

theorem run_bind_error (h : x.run.value = .error e) :
    (x >>= f).run = ⟨.error e, x.run.diagnostics⟩ := by
  rw [ExceptT.run_bind]
  simp [bind, h, pure]

theorem mem_diagnostics_filterMapM {f : α → Processing (Option β)} {as : List α} {d : Diagnostic}
    (h : d ∈ (as.filterMapM f).run.diagnostics) : ∃ a ∈ as, d ∈ (f a).run.diagnostics := by
  induction as
  case nil => cases h
  case cons a as hi =>
    rw [List.filterMapM_cons] at h
    cases hv : (f a).run.value
    case error e =>
      rw [run_bind_error hv] at h
      exact ⟨a, List.mem_cons_self, h⟩
    case ok b =>
      rw [run_bind_ok hv, List.mem_append] at h
      cases h
      case inl h => exact ⟨a, List.mem_cons_self, h⟩
      case inr h =>
        have ⟨a₂, hm, hd⟩ := hi (by cases b <;> simpa using h)
        exact ⟨a₂, List.mem_cons_of_mem a hm, hd⟩

theorem exists_of_mem_filterMapM {f : α → Processing (Option β)} {as : List α} {bs : List β} {b : β}
    (h : (as.filterMapM f).run.value = .ok bs) (hm : b ∈ bs) :
    ∃ a ∈ as, (f a).run.value = .ok (some b) := by
  induction as generalizing bs
  case nil =>
    cases h
    cases hm
  case cons a as hi =>
    rw [List.filterMapM_cons] at h
    cases hv : (f a).run.value
    case error e =>
      rw [run_bind_error hv] at h
      cases h
    case ok b₂ =>
      rw [run_bind_ok hv] at h
      cases b₂
      case none =>
        have ⟨a₂, hm, ha⟩ := hi h hm
        exact ⟨a₂, List.mem_cons_of_mem a hm, ha⟩
      case some b₂ =>
        have h : (as.filterMapM f).run.value.map (b₂ :: ·) = .ok bs := by simpa using h
        cases hr : (as.filterMapM f).run.value
        case error => cases hr ▸ h
        case ok rest =>
          rw [hr] at h
          cases h
          cases hm
          case head => exact ⟨a, List.mem_cons_self, hv⟩
          case tail hm =>
            have ⟨a₂, hm, ha⟩ := hi hr hm
            exact ⟨a₂, List.mem_cons_of_mem a hm, ha⟩

theorem filterMapM_liftM (f : α → Logged (Option β)) (as : List α) :
    as.filterMapM (fun a => (liftM (f a) : Processing (Option β))) = liftM (as.filterMapM f) := by
  induction as
  case nil => simp
  case cons a as hi =>
    rw [List.filterMapM_cons, List.filterMapM_cons, liftM_bind, hi]
    congr
    funext b
    cases b <;> simp

end Processing

end ResourceEmbedding
