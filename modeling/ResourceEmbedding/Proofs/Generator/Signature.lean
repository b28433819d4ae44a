import Mathlib.Order.Bounds.Basic
import ResourceEmbedding.Proofs.Bundle.Message
import ResourceEmbedding.Proofs.Generator.Messages

namespace ResourceEmbedding

def MessageFunction.HasShape (f : MessageFunction) (shape : Shape) : Prop :=
  ∃ locale template, f.templates.get? locale = some template ∧ analyze template = .ok shape

namespace Generator.Messages

variable {request : Request} {bundle : Bundle} {f : MessageFunction} {namer : Naming}
variable {path key locale template problem : String} {templates : KeyMap String}
variable {shapes : List Shape} {shape : Shape} {kinds : List ArgumentKind} {count : Nat}
variable {items : List Definition}

theorem mem_of_shapesOf (h : shapesOf path key templates = .ok shapes) :
    (∀ locale template, templates.get? locale = some template →
      ∃ shape ∈ shapes, analyze template = .ok shape) ∧
    ∀ shape ∈ shapes, ∃ locale template, templates.get? locale = some template ∧
      analyze template = .ok shape := by
  have ⟨hl, hr⟩ := mem_of_mapM_eq_ok h
  simp only [Prod.forall, Prod.exists, KeyMap.mem_entries_iff, mapError_eq_ok] at hl hr
  exact ⟨hl, hr⟩

def paramsOf (kinds : List ArgumentKind) : List MessageParam :=
  kinds.mapIdx fun index kind => ⟨s!"arg{index}", kind⟩

theorem getElem?_paramsOf {index : Nat} {param : MessageParam} :
    (paramsOf kinds)[index]? = some param ↔
      ∃ kind, kinds[index]? = some kind ∧ ⟨s!"arg{index}", kind⟩ = param := by
  rw [paramsOf, List.getElem?_mapIdx, Option.map_eq_some_iff]

theorem map_kind_paramsOf (kinds : List ArgumentKind) : (paramsOf kinds).map (·.kind) = kinds := by
  refine List.ext_getElem? fun i => ?_
  simp [paramsOf, Function.comp_def]

theorem functionOf_eq_ok (h : functionOf namer path key templates count = .ok f) :
    f.bundle = path ∧ f.key = key ∧ f.templates = templates ∧
      ∃ shapes kinds, shapesOf path key templates = .ok shapes ∧
        Message.joinShapes shapes = .ok kinds ∧ f.params = paramsOf kinds ∧
        f.localeParam = (shapes.any (·.needsLocale) || decide (1 < count)) ∧
        f.timeZoneParam = shapes.any (·.needsTimeZone) := by
  simp only [functionOf, bind_eq_ok, mapError_eq_ok, pure_eq_ok] at h
  obtain ⟨shapes, hs, kinds, hk, rfl⟩ := h
  exact ⟨rfl, rfl, rfl, shapes, kinds, hs, hk, rfl, rfl, rfl⟩

theorem exists_of_functionOf_eq_error
    (h : functionOf namer path key templates count = .error problem) :
    ∃ rest, problem = "Key \x60" ++ rest := by
  simp only [functionOf, bind_eq_error, mapError_eq_error, mapError_eq_ok] at h
  rcases h with h | ⟨shapes, _, ⟨index, _, rfl⟩ | ⟨_, _, h⟩⟩
  · have ⟨_, _, h⟩ := exists_of_mapM_eq_error h
    have ⟨_, _, h⟩ := mapError_eq_error.mp h
    exact ⟨_, by rw [← h]; simp only [String.append_assoc]; rfl⟩
  · exact ⟨_, by simp only [String.append_assoc]; rfl⟩
  · cases h

theorem hasShape_iff (h : shapesOf path key f.templates = .ok shapes) :
    f.HasShape shape ↔ shape ∈ shapes := by
  have ⟨hl, hr⟩ := mem_of_shapesOf h
  constructor
  case mp =>
    intro ⟨locale, template, ht, ha⟩
    have ⟨shape₂, hm, ha₂⟩ := hl locale template ht
    cases ha.symm.trans ha₂
    exact hm
  case mpr => exact hr shape

-- What callers may rely on in the signature of `f`, a function of `bundle`.
structure Sound (bundle : Bundle) (f : MessageFunction) : Prop where
  templates : ∀ locale template, f.templates.get? locale = some template ↔
    ∃ resource entries, bundle.get? locale = some resource ∧ readFile resource = .ok entries ∧
      entries.get? f.key = some template
  analyzed : ∀ locale template, f.templates.get? locale = some template →
    ∃ shape, analyze template = .ok shape
  length : IsGreatest {n | ∃ shape, f.HasShape shape ∧ shape.arguments.length = n} f.params.length
  name : ∀ (i : Nat) param, f.params[i]? = some param → param.name = s!"arg{i}"
  -- A parameter that is neither a number nor a date is a text.
  kind : ∀ (i : Nat) param, f.params[i]? = some param → ∀ kind ≠ .text,
    (param.kind = kind ↔ ∃ shape, f.HasShape shape ∧ shape.arguments[i]? = some kind)
  exclusive : ∀ (i : Nat) shape₁ shape₂, f.HasShape shape₁ → f.HasShape shape₂ →
    shape₁.arguments[i]? = some .number → shape₂.arguments[i]? ≠ some .date
  timeZoneParam : f.timeZoneParam ↔ ∃ param ∈ f.params, param.kind = .date
  localeParam : f.localeParam ↔ (∃ param ∈ f.params, param.kind ≠ .text) ∨ 1 < bundle.size

theorem exists_param_iff {p : ArgumentKind → Prop} :
    (∃ param ∈ paramsOf kinds, p param.kind) ↔ ∃ kind ∈ kinds, p kind := by
  conv => rhs; rw [← map_kind_paramsOf kinds]
  simp

theorem sound_of_functionOf (hm : (load request bundle).value.get? key = some templates)
    (hf : functionOf namer path key templates bundle.size = .ok f) : Sound bundle f := by
  obtain ⟨rfl, rfl, rfl, shapes, kinds, hs, hk, hp, hl, ht⟩ := functionOf_eq_ok hf
  have analyzed := (mem_of_shapesOf hs).1
  have hn : shapes ≠ [] := by
    have ⟨locale, template, ht⟩ := exists_of_get?_load hm
    have ⟨shape, hm, _⟩ := analyzed locale template ht
    exact List.ne_nil_of_mem hm
  have hj := Message.isJoin_of_joinShapes hk hn
  have typed (i : Nat) (kind : ArgumentKind) (hk : kind ≠ .text) := hj.getElem?_iff (i := i) hk
  simp only [← hasShape_iff hs] at typed
  exact {
    templates := fun _ _ => get?_of_get?_load hm
    analyzed  := by
      intro locale template ht
      have ⟨shape, _, ha⟩ := analyzed locale template ht
      exact ⟨shape, ha⟩
    length    := by
      rw [hp, paramsOf, List.length_mapIdx]
      simpa only [hasShape_iff hs] using hj.isGreatest_length
    name      := by
      intro i param h
      have ⟨_, _, he⟩ := getElem?_paramsOf.mp (hp ▸ h)
      rw [← he]
    kind      := by
      intro i param h kind hk
      have ⟨kind₂, hi, he⟩ := getElem?_paramsOf.mp (hp ▸ h)
      rw [← typed i kind hk, hi, ← he, Option.some_inj]
    exclusive := by
      intro i shape₁ shape₂ h₁ h₂ hn hd
      have hn := (typed i .number nofun).mpr ⟨shape₁, h₁, hn⟩
      have hd := (typed i .date nofun).mpr ⟨shape₂, h₂, hd⟩
      cases hn.symm.trans hd
    timeZoneParam := by
      rw [ht, hj.any_needsTimeZone, hp, exists_param_iff (p := (· = .date))]
      simp
    localeParam   := by
      rw [hl, Bool.or_eq_true, hj.any_needsLocale, hp, exists_param_iff (p := (· ≠ .text)),
        decide_eq_true_iff] }

theorem exists_of_mem_functions {d : Definition} (h : d ∈ (functions request).value) :
    ∃ f bundle, d = .messageFunction f ∧
      (bundlesOf request.resources).get? f.bundle = some bundle ∧ Sound bundle f := by
  rw [value_functions] at h
  obtain ⟨⟨path, bundle⟩, hb, h⟩ := List.mem_flatMap.mp h
  rw [value_functionsOf] at h
  obtain ⟨⟨key, templates⟩, hm, h⟩ := List.mem_filterMap.mp h
  rw [makeFunction] at h
  split at h
  case h_1 f hf =>
    cases h
    refine ⟨f, bundle, rfl, ?_, sound_of_functionOf (KeyMap.mem_entries_iff.mp hm) hf⟩
    rw [(functionOf_eq_ok hf).1]
    exact KeyMap.mem_entries_iff.mp hb
  case h_2 => cases h

theorem mem_functions_of_generate (h : (generate request).run.value = .ok items)
    (hf : .messageFunction f ∈ items) :
    .messageFunction f ∈ (functions (applyNaming request)).value := by
  by_cases he : Settings.getBool request.settings "embed_source" false
  case neg =>
    rw [run_generate_plain he] at h
    cases h
    exact hf
  case pos =>
    have ⟨derived, hd, _⟩ := exists_embedRequest (applyNaming request)
    rw [run_generate_embedding he hd] at h
    obtain ⟨constants, hc, rfl⟩ := map_eq_ok.mp h
    rcases List.mem_append.mp hf with hf | hf
    · exact hf
    · cases Embed.symbolKind_of_generate hc hf

theorem generated_functions_sound (h : (generate request).run.value = .ok items)
    (hf : .messageFunction f ∈ items) :
    ∃ bundle, (bundlesOf request.resources).get? f.bundle = some bundle ∧ Sound bundle f := by
  have ⟨_, bundle, hd, hb, hs⟩ := exists_of_mem_functions (mem_functions_of_generate h hf)
  cases hd
  exact ⟨bundle, resources_applyNaming request ▸ hb, hs⟩

-- An argument that is a text by default and a date in German, and one that German leaves out.
theorem generated_functions_sound_date :
    let request : Request := ⟨{ resources := [
      .ofBytes "app.properties" (Utf8.encode "sent={1} at {0}"),
      .ofBytes "app_de.properties" (Utf8.encode "sent={0,date}")] }, by decide⟩
    ∃ items f bundle, (generate request).run.value = .ok items ∧ .messageFunction f ∈ items ∧
      f.params = [⟨"arg0", .date⟩, ⟨"arg1", .text⟩] ∧
      (bundlesOf request.resources).get? f.bundle = some bundle ∧ Sound bundle f := by
  intro request
  let isSent : Definition → Bool
    | .messageFunction f => f.params == [⟨"arg0", .date⟩, ⟨"arg1", .text⟩]
    | _ => false
  have hs : ((generate request).run.value.toOption.getD []).any isSent := by decide +kernel
  cases h : (generate request).run.value
  case error => rw [h] at hs; cases hs
  case ok items =>
    rw [h] at hs
    have ⟨d, hm, hp⟩ := List.any_eq_true.mp hs
    cases d
    case messageFunction f =>
      have ⟨bundle, hb⟩ := generated_functions_sound h hm
      exact ⟨items, f, bundle, rfl, hm, by simpa [isSent] using hp, hb⟩
    all_goals cases hp

end Generator.Messages

end ResourceEmbedding
