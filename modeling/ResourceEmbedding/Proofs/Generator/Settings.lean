import ResourceEmbedding.Proofs.Generator.Catalog
import ResourceEmbedding.Proofs.Setting.Lookup

namespace ResourceEmbedding.Generator

theorem accepts_naming_iff {value : String} :
    namingDeclaration.check.accepts value ↔
      ∃ strategy, NamingStrategy.read value = .ok strategy :=
  ValueCheck.accepts_oneOf_iff _ (by decide)

theorem accepts_reporter_iff (r : Reporter) {value : String} :
    r.declaration.check.accepts value ↔ ∃ level, ReportLevel.read value = .ok level :=
  ValueCheck.accepts_oneOf_iff _ (by decide)

-- What a generator works with, given a request, is what the value of the setting reads as.
inductive Heeded (request : Request) (s : Setting) : Prop
  | binary :
    s.key = "binary" → readBool? s.value = some (isBinary request) → Heeded request s
  | pathConstants :
    s.key = "path_constants" →
    readBool? s.value = some (Settings.getBool request.settings "path_constants" false) →
    Heeded request s
  | embedSource :
    s.key = "embed_source" →
    readBool? s.value = some (Settings.getBool request.settings "embed_source" false) →
    Heeded request s
  | maxBytes :
    s.key = "max_bytes" →
    Text.size? (Text.trimmed s.value) = some (Embed.config request).maxBytes → Heeded request s
  | naming (strategy : NamingStrategy) :
    s.key = "naming" → NamingStrategy.read s.value = .ok strategy →
    request.namer = Namer.ofStrategy strategy → Heeded request s
  | level (r : Reporter) :
    r ∈ [onMissing, Messages.onBadTemplate] → s.key = r.key →
    ReportLevel.read s.value = .ok (r.level request) → Heeded request s

variable {request derived : Request} {s : Setting} {key value : String}

theorem readBool?_eq_getBool (hf : request.setting? key = some value)
    (ha : ValueCheck.boolean.accepts value) (fallback : Bool) :
    readBool? value = some (Settings.getBool request.settings key fallback) := by
  rw [ValueCheck.accepts, Option.isSome_iff_exists] at ha
  obtain ⟨b, hb⟩ := ha
  rw [Settings.getBool_of_find? hf, hb, Option.getD_some]

theorem namer_applyNaming {strategy : NamingStrategy} (hf : request.setting? "naming" = some value)
    (hr : NamingStrategy.read value = .ok strategy) :
    (applyNaming request).namer = Namer.ofStrategy strategy := by
  have hg : Settings.get? request.settings "naming" (fun s => (NamingStrategy.read s).toOption) =
      some strategy := by
    rw [Settings.get?_of_find? hf, NamingStrategy.read, readKeyword_trimmed]
    exact congrArg Except.toOption hr
  rw [applyNaming, hg]
  rfl

theorem level_of_setting? (r : Reporter) {level : ReportLevel}
    (hf : request.setting? r.key = some value) (hr : ReportLevel.read value = .ok level) :
    r.level request = level := by
  rw [Reporter.level, hf, Option.bind_some, hr]
  rfl

-- A declaration whose check lets through only values that are heeded.
def Binding (d : Declaration) : Prop :=
  ∀ request value, request.setting? d.key = some value → d.check.accepts value →
    Heeded (applyNaming request) ⟨d.key, value⟩

theorem binding_boolean {description : String}
    (hh : ∀ request s, s.key = key →
      readBool? s.value = some (Settings.getBool request.settings key false) → Heeded request s) :
    Binding ⟨key, description, .boolean⟩ := by
  intro request value hf ha
  refine hh _ _ rfl ?_
  rw [settings_applyNaming]
  exact readBool?_eq_getBool hf ha false

theorem binding_binary : Binding binaryDeclaration :=
  binding_boolean fun _ _ => .binary

theorem binding_pathConstants {description : String} :
    Binding ⟨"path_constants", description, .boolean⟩ :=
  binding_boolean fun _ _ => .pathConstants

theorem binding_embedSource {description : String} :
    Binding ⟨"embed_source", description, .boolean⟩ :=
  binding_boolean fun _ _ => .embedSource

theorem binding_naming : Binding namingDeclaration := by
  intro request value hf ha
  have ⟨strategy, hs⟩ := accepts_naming_iff.mp ha
  exact .naming strategy rfl hs (namer_applyNaming hf hs)

theorem binding_level {r : Reporter} (hr : r ∈ [onMissing, Messages.onBadTemplate]) :
    Binding r.declaration := by
  intro request value hf ha
  have ⟨level, hl⟩ := (accepts_reporter_iff r).mp ha
  refine .level r hr rfl ?_
  rw [hl, level_applyNaming, level_of_setting? r hf hl]

theorem binding_maxBytes {description : String} {least : Nat} :
    Binding ⟨"max_bytes", description, .sizeAtLeast least⟩ := by
  intro request value hf ha
  have ⟨n, hn, _⟩ := ValueCheck.accepts_sizeAtLeast_iff.mp ha
  have hg : Settings.get? request.settings "max_bytes" Text.size? = some n := by
    rwa [Settings.get?_of_find? hf]
  refine .maxBytes rfl ?_
  rw [hn, Embed.config, settings_applyNaming, Settings.getSize_of_get? hg]

structure Binds (schema : Schema) : Prop where
  checked : schema.checked
  binding : ∀ d ∈ schema.declarations, Binding d

theorem binds_embed {schema : Schema} (h : Embed.schema = .ok schema) : Binds schema := by
  rw [Embed.schema, mapError_eq_ok] at h
  rw [Schema.ofDeclarations_eq_ok h]
  refine ⟨rfl, ?_⟩
  simp only [List.forall_mem_cons]
  exact ⟨binding_binary, binding_maxBytes, binding_naming, binding_level (by simp), by simp⟩

theorem binds_lazy {schema : Schema} (h : Lazy.schema = .ok schema) : Binds schema := by
  rw [Lazy.schema, mapError_eq_ok] at h
  rw [Schema.ofDeclarations_eq_ok h]
  refine ⟨rfl, ?_⟩
  simp only [List.forall_mem_cons]
  exact ⟨binding_binary, binding_pathConstants, binding_naming, binding_level (by simp), by simp⟩

-- The declarations of `embed` come behind the own ones.
theorem binds_messages {schema : Schema} (h : Messages.schema = .ok schema) : Binds schema := by
  simp only [Messages.schema, bind_eq_ok, mapError_eq_ok] at h
  have ⟨own, ho, other, hs, he⟩ := h
  rw [Schema.extend_eq_ok he, Schema.ofDeclarations_eq_ok ho]
  refine ⟨rfl, ?_⟩
  simp only [List.forall_mem_append, Messages.ownDeclarations, List.forall_mem_cons]
  exact ⟨⟨binding_embedSource, binding_level (by simp), by simp⟩, (binds_embed hs).binding⟩

variable {g : Generator}

theorem exists_binds_of_accepts (hg : g ∈ [embed, lazy, messages]) (ha : g.Accepts request) :
    ∃ schema, g.schema = .ok schema ∧ Binds schema ∧ schema.check request.settings = .ok () := by
  have ⟨schema, hs, hc⟩ := ha
  refine ⟨schema, hs, ?_, hc⟩
  simp only [List.mem_cons, List.not_mem_nil, or_false] at hg
  rcases hg with rfl | rfl | rfl
  · exact binds_embed hs
  · exact binds_lazy hs
  · exact binds_messages hs

theorem setting?_of_accepts (hg : g ∈ [embed, lazy, messages]) (ha : g.Accepts request)
    (hs : s ∈ request.settings) : request.setting? s.key = some s.value := by
  have ⟨schema, _, hb, hc⟩ := exists_binds_of_accepts hg ha
  exact Settings.find?_of_mem ((Schema.check_eq_ok_iff hb.checked).mp hc).2 hs

-- What is accepted in one request is heeded in every request that it is handed on to.
theorem heeded_of_accepts (hg : g ∈ [embed, lazy, messages]) (ha : g.Accepts request)
    (hs : s ∈ request.settings) {used : Request} (hu : used.setting? s.key = some s.value) :
    Heeded (applyNaming used) s := by
  have ⟨schema, _, hb, hc⟩ := exists_binds_of_accepts hg ha
  have ⟨d, hd, ha⟩ := ((Schema.check_eq_ok_iff hb.checked).mp hc).1 s hs
  have hk : d.key = s.key := by simpa using List.find?_some hd
  rw [← hk] at hu
  have h := hb.binding d (List.mem_of_find?_eq_some hd) used s.value hu ha
  rwa [hk] at h

def Declares (g : Generator) (key : String) : Prop :=
  ∃ schema, g.schema = .ok schema ∧ (schema.find? key).isSome

-- Of the settings that `embed` declares none is lost where the files of bundles are embedded.
theorem setting?_embedRequest (h : Messages.embedRequest request = .ok derived)
    (hd : embed.Declares key) : derived.setting? key = request.setting? key := by
  have ⟨schema, (hs : Embed.schema = .ok schema), hk⟩ := hd
  cases h.symm.trans (Messages.embedRequest_eq hs request)
  exact @Settings.find?_filter _ _ (fun key => (schema.find? key).isSome) hk

-- A check accepts the values that the look-up of their type reads. So each setting that a generator
-- accepts is heeded, by the generator and where the files of bundles are embedded as well.
theorem checks_agree_with_lookups :
    (∀ settings key value, Settings.find? settings key = some value →
      (ValueCheck.boolean.accepts value ↔
        Settings.getBool settings key true = Settings.getBool settings key false) ∧
      (∀ least, (ValueCheck.sizeAtLeast least).accepts value ↔
        ∃ n, Settings.get? settings key Text.size? = some n ∧ least ≤ n ∧
          ∀ fallback, Settings.getSize settings key fallback = n) ∧
      ((ValueCheck.oneOf (NamingStrategy.all.map (·.name))).accepts value ↔
        ∃ strategy, Settings.get? settings key (fun s => (NamingStrategy.read s).toOption) =
          some strategy) ∧
      ((ValueCheck.oneOf (ReportLevel.all.map (·.name))).accepts value ↔
        ∃ level, ReportLevel.read value = .ok level)) ∧
    (∀ g ∈ [embed, lazy, messages], ∀ request, g.Accepts request → ∀ s ∈ request.settings,
      Heeded (applyNaming request) s) ∧
    ∀ request derived, messages.Accepts request →
      Messages.embedRequest (applyNaming request) = .ok derived →
      ∀ s ∈ request.settings, embed.Declares s.key → Heeded (applyNaming derived) s := by
  refine ⟨?lookups, ?heeded, ?derived⟩
  case lookups =>
    intro settings key value hf
    refine ⟨?boolean, ?size, ?naming, ?level⟩
    case boolean =>
      simp only [ValueCheck.accepts_boolean_iff, Settings.getBool_of_find? hf]
    case size =>
      intro least
      rw [ValueCheck.accepts_sizeAtLeast_iff, ← Settings.get?_of_find? hf Text.size?]
      exact exists_congr fun n => ⟨fun ⟨hn, hl⟩ => ⟨hn, hl, Settings.getSize_of_get? hn⟩,
        fun ⟨hn, hl, _⟩ => ⟨hn, hl⟩⟩
    case naming =>
      rw [Settings.get?_of_find? hf, NamingStrategy.read, readKeyword_trimmed]
      simp only [toOption_eq_some]
      exact accepts_naming_iff
    case level => exact accepts_reporter_iff onMissing
  case heeded =>
    intro g hg request ha s hs
    exact heeded_of_accepts hg ha hs (setting?_of_accepts hg ha hs)
  case derived =>
    intro request derived ha hd s hs hk
    have hm : messages ∈ [embed, lazy, messages] := by simp
    refine heeded_of_accepts hm ha hs ?_
    rw [setting?_embedRequest hd hk, Request.setting?, settings_applyNaming]
    exact setting?_of_accepts hm ha hs

-- Values in capitals, with a sign and with white space around them.
theorem checks_agree_with_lookups_spaced :
    let settings : List Setting :=
      [⟨"naming", "Case"⟩, ⟨"max_bytes", " +08\t"⟩, ⟨"on_bad_template", "IGNORE"⟩]
    let request : Request := ⟨{ settings }, by simp⟩
    ((ValueCheck.sizeAtLeast 4).accepts " +08\t" ↔
      ∃ n, Settings.get? settings "max_bytes" Text.size? = some n ∧ 4 ≤ n ∧
        ∀ fallback, Settings.getSize settings "max_bytes" fallback = n) ∧
    (∀ s ∈ settings, Heeded (applyNaming request) s) ∧
    ∃ derived, Messages.embedRequest (applyNaming request) = .ok derived ∧
      Heeded (applyNaming derived) ⟨"max_bytes", " +08\t"⟩ := by
  intro settings request
  have ⟨hl, hh, hd⟩ := checks_agree_with_lookups
  have ha : messages.Accepts request := ⟨_, rfl, by decide +kernel⟩
  have ⟨derived, he, _⟩ := Messages.exists_embedRequest (applyNaming request)
  have hk : embed.Declares "max_bytes" := ⟨_, rfl, by decide +kernel⟩
  exact ⟨(hl settings "max_bytes" " +08\t" (by decide)).2.1 4, hh messages (by simp) request ha,
    derived, he, hd request derived ha he _ (by simp [request, settings]) hk⟩

end ResourceEmbedding.Generator
