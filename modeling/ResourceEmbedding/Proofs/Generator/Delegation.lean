import ResourceEmbedding.Proofs.Generator.Consistency
import ResourceEmbedding.Proofs.Setting.Extension
import ResourceEmbedding.Proofs.Setting.Lookup

namespace ResourceEmbedding

namespace Generator

variable {request r₁ r₂ : Request} {schema : Schema} {settings : List Setting}

-- The choice of a namer is the choice of the first setting for it.
theorem applyNaming_withSettings
    (h : Settings.find? settings "naming" = Settings.find? request.settings "naming") :
    applyNaming (request.withSettings settings) = (applyNaming request).withSettings settings := by
  have hs : (request.withSettings settings).settings = settings := rfl
  rw [applyNaming, applyNaming, Settings.get?, Settings.get?, hs, h]
  split <;> rfl

theorem applyNaming_idem (request : Request) :
    applyNaming (applyNaming request) = applyNaming request := by
  rw [applyNaming, settings_applyNaming]
  split
  case h_1 strategy h =>
    rw [applyNaming, h]
    rfl
  case h_2 => rfl

namespace Messages

-- Requests for which the same functions are made, with the same reports.
structure Alike (r₁ r₂ : Request) : Prop where
  resources : r₁.resources = r₂.resources
  site      : r₁.site = r₂.site
  namer     : r₁.namer = r₂.namer
  level     : ∀ r ∈ [onMissing, onBadTemplate], r.level r₁ = r.level r₂

theorem Alike.functions_eq (h : Alike r₁ r₂) : functions r₁ = functions r₂ := by
  have hr : ∀ severity message, r₁.report severity message = r₂.report severity message := by
    intro severity message
    rw [Request.report, Request.report, h.site]
  have hm (message : String) : onMissing.report r₁ message = onMissing.report r₂ message := by
    simp only [Reporter.report, h.level onMissing (by simp), hr]
  have hb (message : String) : onBadTemplate.report r₁ message = onBadTemplate.report r₂ message := by
    simp only [Reporter.report, h.level onBadTemplate (by simp), hr]
  simp only [functions, warnOfOthers, functionsOf, load, Request.warning, Request.error, h.resources,
    h.namer, hr, hm, hb]

theorem alike_withSettings
    (hs : ∀ key ≠ "embed_source", Settings.find? settings key = Settings.find? request.settings key) :
    Alike (applyNaming (request.withSettings settings)) (applyNaming request) := by
  have hn := applyNaming_withSettings (hs "naming" (by decide))
  refine ⟨by simp [Request.withSettings], by simp [Request.withSettings], by rw [hn]; rfl, ?_⟩
  intro r hr
  rw [level_applyNaming, level_applyNaming, Reporter.level, Reporter.level, Request.setting?,
    Request.setting?]
  have hk : r.key ≠ "embed_source" := by
    simp only [List.mem_cons, List.not_mem_nil, or_false] at hr
    rcases hr with rfl | rfl <;> decide
  rw [← hs r.key hk]
  rfl

theorem applyNaming_restricted (h : (schema.find? "naming").isSome) (request : Request) :
    applyNaming (restricted request schema) = restricted (applyNaming request) schema := by
  have hs : Settings.find? (restricted request schema).settings "naming" =
      Settings.find? request.settings "naming" :=
    @Settings.find?_filter _ _ (fun key => (schema.find? key).isSome) h
  rw [applyNaming, applyNaming, Settings.get?, Settings.get?, hs]
  split <;> rfl

-- Whether the namer is chosen before or after the files are picked out does not matter.
theorem generate_restricted (h : (schema.find? "naming").isSome) (request : Request) :
    Embed.generate (restricted (applyNaming request) schema) =
      Embed.generate (restricted request schema) := by
  rw [Embed.generate, Embed.generate, applyNaming_restricted h, applyNaming_restricted h,
    applyNaming_idem]

theorem accepts_applyNaming {g : Generator} (h : g.Accepts request) :
    g.Accepts (applyNaming request) := by
  rwa [Accepts, settings_applyNaming]

-- The settings that are handed on have been checked with the declarations of embedding.
theorem accepts_restricted (ha : messages.Accepts request) (hs : Embed.schema = .ok schema) :
    embed.Accepts (restricted request schema) := by
  obtain ⟨joined, (hj : Messages.schema = .ok joined), hc⟩ := ha
  simp only [Messages.schema, bind_eq_ok, mapError_eq_ok] at hj
  obtain ⟨own, ho, other, ht, he⟩ := hj
  cases hs.symm.trans ht
  have hk := (Schema.Built.declared ho).nodup
  have hj : joined.checked := by
    rw [Schema.extend_eq_ok he, Schema.ofDeclarations_eq_ok ho]
  have hb : schema.checked := by
    rw [Embed.schema, mapError_eq_ok] at hs
    rw [Schema.ofDeclarations_eq_ok hs]
  exact ⟨schema, hs, Schema.check_filter_of_extend hk he hb hj hc⟩

-- Where the files of the bundles are to be embedded, the handler for that accepts the settings that
-- it is given, and comes to a result. A run is the run without embedding, and behind it that of the
-- other handler on the files alone: the definitions and the diagnostics of both, and none but
-- these.
theorem embedding_is_delegated (ha : messages.Accepts request)
    (he : Settings.getBool request.settings "embed_source" false)
    (hs : ∀ key ≠ "embed_source", Settings.find? settings key = Settings.find? request.settings key)
    (hn : ¬Settings.getBool settings "embed_source" false) :
    ∃ (schema : Schema) (made : List MessageFunction) (constants : List Definition)
        (before after : List Diagnostic),
      Embed.schema = .ok schema ∧
      embedRequest (applyNaming request) = .ok (restricted (applyNaming request) schema) ∧
      embed.Accepts (restricted (applyNaming request) schema) ∧
      (generate (request.withSettings settings)).run =
        ⟨.ok (made.map .messageFunction), before⟩ ∧
      (∀ used ∈ [request, applyNaming request],
        (Embed.generate (restricted used schema)).run = ⟨.ok constants, after⟩) ∧
      (generate request).run =
        ⟨.ok (made.map .messageFunction ++ constants), before ++ after⟩ := by
  have ⟨schema, hd, _⟩ := Embed.checksBudget
  have hk : (schema.find? "naming").isSome := by
    cases hd
    rfl
  have hr := embedRequest_eq hd (applyNaming request)
  have hc := accepts_restricted (accepts_applyNaming ha) hd
  have ⟨constants, hv⟩ := embed_total.items _ hc
  have ⟨after, hg⟩ : ∃ after, (Embed.generate (restricted (applyNaming request) schema)).run =
      ⟨.ok constants, after⟩ := ⟨_, congrArg (Logged.mk · _) hv⟩
  refine ⟨schema, messageFunctions (applyNaming request), constants,
    (functions (applyNaming request)).diagnostics, after, hd, hr, hc, ?plain, ?embedded, ?whole⟩
  case plain =>
    have hp := @run_generate_plain (request.withSettings settings) hn
    rw [(alike_withSettings hs).functions_eq] at hp
    rw [← value_messageFunctions]
    simpa [Functor.map] using hp
  case embedded =>
    simp only [List.forall_mem_cons, List.not_mem_nil, false_implies, implies_true, and_true]
    exact ⟨generate_restricted hk request ▸ hg, hg⟩
  case whole =>
    rw [← value_messageFunctions]
    have hw := run_generate_embedding he hr
    rw [hg] at hw
    exact hw

-- A resource in no bundle is reported by the first handler only, which does not hand it on; the
-- file of a bundle becomes a function and a constant.
theorem embedding_is_delegated_mixed :
    let request : Request := ⟨{
      resources := [.ofBytes "logo.txt" [], .ofBytes "m.properties" (Utf8.encode "a=b")]
      settings := [⟨"embed_source", "TRUE"⟩, ⟨"naming", "case"⟩, ⟨"max_bytes", "3"⟩] }, by decide⟩
    let settings : List Setting := [⟨"naming", "case"⟩, ⟨"max_bytes", "3"⟩]
    messages.Accepts request ∧ Settings.getBool request.settings "embed_source" false ∧
    (generate request).run.diagnostics.length = 1 ∧
    (generate request).run.value.toOption.map (·.length) = some 2 ∧
    ∃ (schema : Schema) (made : List MessageFunction) (constants : List Definition)
        (before after : List Diagnostic),
      embed.Accepts (restricted (applyNaming request) schema) ∧
      (generate (request.withSettings settings)).run =
        ⟨.ok (made.map .messageFunction), before⟩ ∧
      (Embed.generate (restricted request schema)).run = ⟨.ok constants, after⟩ ∧
      (generate request).run =
        ⟨.ok (made.map .messageFunction ++ constants), before ++ after⟩ := by
  intro request settings
  have ha : messages.Accepts request := ⟨_, rfl, by decide +kernel⟩
  have he : Settings.getBool request.settings "embed_source" false := by decide +kernel
  have hs : ∀ key ≠ "embed_source",
      Settings.find? settings key = Settings.find? request.settings key := by
    intro key hk
    simp [Settings.find?, request, settings, hk.symm]
  obtain ⟨schema, made, constants, before, after, _, _, hc, hp, hg, hw⟩ :=
    embedding_is_delegated ha he hs (by decide +kernel)
  exact ⟨ha, he, by decide +kernel, by decide +kernel, schema, made, constants, before, after, hc, hp,
    hg request (by simp), hw⟩

end Messages

end Generator

end ResourceEmbedding
