import Mathlib.Data.List.Nodup
import ResourceEmbedding.Proofs.Staged
import ResourceEmbedding.Setting.Schema

namespace ResourceEmbedding

namespace Schema

variable {schema : Schema} {seen : Seen} {settings : List Setting} {s : Setting}

-- A setting whose key is declared, and whose value is accepted.
def Admits (schema : Schema) (s : Setting) : Prop :=
  ∃ d, schema.find? s.key = some d ∧ d.check.accepts s.value

structure Seen.Clean (seen : Seen) : Prop where
  unknown  : seen.unknown = []
  repeated : seen.repeated = []

theorem judge_of_admits (h : schema.Admits s) (hn : s.key ∉ seen.declared) :
    schema.judge seen s = ([], { seen with declared := s.key :: seen.declared }) := by
  have ⟨d, hd, ha⟩ := h
  simp [judge, hd, ha, hn]

theorem judge_ne_nil (hc : seen.Clean) (h : ¬(schema.Admits s ∧ s.key ∉ seen.declared)) :
    (schema.judge seen s).1 ≠ [] := by
  rw [judge]
  cases hf : schema.find? s.key
  case none => simp [hc.unknown]
  case some d =>
    have h (ha : d.check.accepts s.value) : s.key ∈ seen.declared := by
      by_contra hn
      exact h ⟨⟨d, hf, ha⟩, hn⟩
    by_cases hm : s.key ∈ seen.declared
    case pos => simp [hm, hc.repeated]
    case neg => simp [hm, mt h hm]

theorem violationsFrom_eq_nil_iff (hc : seen.Clean) :
    schema.violationsFrom seen settings = [] ↔
      (∀ s ∈ settings, schema.Admits s ∧ s.key ∉ seen.declared) ∧
        (settings.map (·.key)).Nodup := by
  induction settings generalizing seen
  case nil => simp [violationsFrom]
  case cons s settings hi =>
    rw [violationsFrom, List.append_eq_nil_iff]
    by_cases h : schema.Admits s ∧ s.key ∉ seen.declared
    case neg =>
      exact iff_of_false (judge_ne_nil hc h ·.1) fun ⟨ha, _⟩ => h (ha s List.mem_cons_self)
    case pos =>
      have hs : Seen.Clean { seen with declared := s.key :: seen.declared } := ⟨hc.1, hc.2⟩
      rw [judge_of_admits h.1 h.2, hi hs, List.map_cons, List.nodup_cons]
      simp only [List.mem_cons, List.mem_map]
      grind

theorem check_eq_ok_iff (hc : schema.checked) :
    schema.check settings = .ok () ↔
      (∀ s ∈ settings, schema.Admits s) ∧ (settings.map (·.key)).Nodup := by
  have h := @violationsFrom_eq_nil_iff schema {} settings ⟨rfl, rfl⟩
  simp only [List.not_mem_nil, not_false_eq_true, and_true] at h
  rw [← h, check, validate, violations, if_pos hc]
  split <;> simp_all [Except.mapError]

theorem accepts_of_check {key : String} {check : ValueCheck} (hc : schema.checked)
    (hd : (schema.find? key).map (·.check) = some check) (h : schema.check settings = .ok ()) :
    ∀ s ∈ settings, s.key = key → check.accepts s.value := by
  intro s hm hk
  have ⟨d, hf, ha⟩ := ((check_eq_ok_iff hc).mp h).1 s hm
  rw [← hk, hf] at hd
  cases hd
  exact ha

-- Declarations are added as they are, behind those that are there.
theorem foldlM_declare_eq_ok {declarations : List Declaration} {extended : Schema}
    (h : declarations.foldlM declare schema = .ok extended) :
    extended = { schema with declarations := schema.declarations ++ declarations } := by
  induction declarations generalizing schema
  case nil =>
    cases h
    rw [List.append_nil]
  case cons d declarations hi =>
    rw [List.foldlM_cons, bind_eq_ok] at h
    have ⟨declared, hd, h⟩ := h
    rw [declare] at hd
    split at hd <;> cases hd
    rw [hi h, List.append_assoc, List.singleton_append]

theorem ofDeclarations_eq_ok {handler : String} {declarations : List Declaration}
    (h : ofDeclarations handler declarations = .ok schema) :
    schema = ⟨handler, declarations, true⟩ :=
  foldlM_declare_eq_ok h

theorem extend_eq_ok {other extended : Schema} (h : schema.extend other = .ok extended) :
    extended = { schema with declarations := schema.declarations ++ other.declarations } :=
  foldlM_declare_eq_ok h

end Schema

-- A size is no less than its check demands, whether it is given or not.
theorem Settings.le_getSize {settings : List Setting} {key : String} {least fallback : Nat}
    (h : ∀ s ∈ settings, s.key = key → (ValueCheck.sizeAtLeast least).accepts s.value)
    (hf : least ≤ fallback) : least ≤ getSize settings key fallback := by
  rw [getSize, get?, find?]
  cases hs : settings.find? (·.key == key)
  case none => exact hf
  case some s =>
    have hk : s.key = key := by simpa using List.find?_some hs
    have ha := h s (List.mem_of_find?_eq_some hs) hk
    simp only [ValueCheck.accepts, Option.any_eq_true] at ha
    have ⟨n, hn, hl⟩ := ha
    simpa [hn] using hl

end ResourceEmbedding
