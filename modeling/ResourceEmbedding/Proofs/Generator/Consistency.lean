import ResourceEmbedding.Proofs.Generator.Catalog
import ResourceEmbedding.Proofs.Generator.Reports

namespace ResourceEmbedding.Generator.Messages

variable {request : Request} {bundle : Bundle} {path key locale : String}
variable {templates : KeyMap String} {template : String} {f g : MessageFunction}
variable {shapes : List Shape} {shape : Shape}

def bundleFunctions (request : Request) (path : String) (bundle : Bundle) : List MessageFunction :=
  (load request bundle).value.entries.filterMap fun e =>
    (functionOf request.namer path e.1 e.2 bundle.size).toOption

def messageFunctions (request : Request) : List MessageFunction :=
  (bundlesOf request.resources).entries.flatMap fun e => bundleFunctions request e.1 e.2

theorem value_bundleFunctions (request : Request) (path : String) (bundle : Bundle) :
    (functionsOf request path bundle).value =
      (bundleFunctions request path bundle).map .messageFunction := by
  rw [value_functionsOf, bundleFunctions, List.map_filterMap]
  congr
  funext e
  rw [makeFunction]
  cases functionOf request.namer path e.1 e.2 bundle.size <;> rfl

theorem value_messageFunctions (request : Request) :
    (functions request).value = (messageFunctions request).map .messageFunction := by
  rw [value_functions, messageFunctions, List.map_flatMap]
  simp only [value_bundleFunctions]

-- Functions are ordered by their bundles, and by their keys within a bundle.
def Before (f g : MessageFunction) : Prop :=
  f.bundle < g.bundle ∨ f.bundle = g.bundle ∧ f.key < g.key

theorem mem_bundleFunctions :
    f ∈ bundleFunctions request path bundle ↔
      f.bundle = path ∧ ∃ templates, (load request bundle).value.get? f.key = some templates ∧
        functionOf request.namer path f.key templates bundle.size = .ok f := by
  simp only [bundleFunctions, List.mem_filterMap, Prod.exists, KeyMap.mem_entries_iff,
    toOption_eq_some]
  constructor
  case mp =>
    rintro ⟨key, templates, hm, hf⟩
    obtain ⟨hp, rfl, _⟩ := functionOf_eq_ok hf
    exact ⟨hp, templates, hm, hf⟩
  case mpr =>
    rintro ⟨_, templates, hm, hf⟩
    exact ⟨f.key, templates, hm, hf⟩

theorem pairwise_bundleFunctions (request : Request) (path : String) (bundle : Bundle) :
    (bundleFunctions request path bundle).Pairwise Before := by
  refine List.pairwise_filterMap.mpr ((load request bundle).value.sorted.imp ?_)
  intro e₁ e₂ lt f hf g hg
  have ⟨hf, hk₁, _⟩ := functionOf_eq_ok (toOption_eq_some.mp hf)
  have ⟨hg, hk₂, _⟩ := functionOf_eq_ok (toOption_eq_some.mp hg)
  exact .inr ⟨hf.trans hg.symm, by rwa [hk₁, hk₂]⟩

theorem pairwise_messageFunctions (request : Request) :
    (messageFunctions request).Pairwise Before := by
  refine List.pairwise_flatMap.mpr ⟨fun _ _ => pairwise_bundleFunctions .., ?_⟩
  refine (bundlesOf request.resources).sorted.imp fun lt f hf g hg => ?_
  rw [← (mem_bundleFunctions.mp hf).1, ← (mem_bundleFunctions.mp hg).1] at lt
  exact .inl lt

def Defines (bundle : Bundle) (key locale template : String) : Prop :=
  ∃ resource entries, bundle.get? locale = some resource ∧ readFile resource = .ok entries ∧
    entries.get? key = some template

def Shaped (bundle : Bundle) (key : String) (shape : Shape) : Prop :=
  ∃ locale template, Defines bundle key locale template ∧ analyze template = .ok shape

-- The templates of a key can be analyzed, and no argument is a number in one of them and a date in
-- another.
structure Consistent (bundle : Bundle) (key : String) : Prop where
  analyzed  : ∀ locale template, Defines bundle key locale template →
    ∃ shape, analyze template = .ok shape
  exclusive : ∀ shape₁ shape₂, Shaped bundle key shape₁ → Shaped bundle key shape₂ →
    ∀ i : Nat, shape₁.arguments[i]? = some .number → shape₂.arguments[i]? ≠ some .date

section
variable (hm : (load request bundle).value.get? key = some templates)
include hm

theorem exists_shapesOf_iff :
    (∃ shapes, shapesOf path key templates = .ok shapes) ↔
      ∀ locale template, Defines bundle key locale template →
        ∃ shape, analyze template = .ok shape := by
  simp only [shapesOf, exists_mapM_iff, mapError_eq_ok, Prod.forall, KeyMap.mem_entries_iff,
    get?_of_get?_load hm]
  rfl

theorem mem_shapesOf_iff (hs : shapesOf path key templates = .ok shapes) :
    shape ∈ shapes ↔ Shaped bundle key shape := by
  have ⟨hl, hr⟩ := mem_of_shapesOf hs
  simp only [get?_of_get?_load hm] at hl hr
  constructor
  case mp => exact hr shape
  case mpr =>
    intro ⟨locale, template, hd, ha⟩
    have ⟨shape₂, hm, ha₂⟩ := hl locale template hd
    cases ha.symm.trans ha₂
    exact hm

theorem exists_joinShapes_iff_exclusive (hs : shapesOf path key templates = .ok shapes) :
    (∃ kinds, Message.joinShapes shapes = .ok kinds) ↔
      ∀ shape₁ shape₂, Shaped bundle key shape₁ → Shaped bundle key shape₂ →
        ∀ i : Nat, shape₁.arguments[i]? = some .number → shape₂.arguments[i]? ≠ some .date := by
  simp only [Message.exists_joinShapes_iff, Message.Clash, List.mem_map, exists_exists_and_eq_and,
    mem_shapesOf_iff hm hs]
  constructor
  case mp =>
    intro hc shape₁ shape₂ h₁ h₂ i hn hd
    exact hc ⟨i, ⟨shape₁, h₁, hn⟩, shape₂, h₂, hd⟩
  case mpr =>
    rintro he ⟨i, ⟨shape₁, h₁, hn⟩, shape₂, h₂, hd⟩
    exact he shape₁ shape₂ h₁ h₂ i hn hd

theorem exists_functionOf_iff {namer : Naming} {count : Nat} :
    (∃ f, functionOf namer path key templates count = .ok f) ↔ Consistent bundle key := by
  simp only [functionOf, bind_eq_ok, mapError_eq_ok, pure_eq_ok]
  constructor
  case mp =>
    rintro ⟨f, shapes, hs, kinds, hk, _⟩
    exact ⟨(exists_shapesOf_iff hm).mp ⟨shapes, hs⟩,
      (exists_joinShapes_iff_exclusive hm hs).mp ⟨kinds, hk⟩⟩
  case mpr =>
    intro hc
    obtain ⟨shapes, hs⟩ : ∃ shapes, shapesOf path key templates = .ok shapes :=
      (exists_shapesOf_iff hm).mpr hc.analyzed
    obtain ⟨kinds, hk⟩ := (exists_joinShapes_iff_exclusive hm hs).mpr hc.exclusive
    exact ⟨_, shapes, hs, kinds, hk, rfl⟩

end

def functionsFor (request : Request) (path key : String) : List MessageFunction :=
  (messageFunctions request).filter fun f => f.bundle = path ∧ f.key = key

section
variable (hb : (bundlesOf request.resources).get? path = some bundle)
include hb

theorem mem_messageFunctions_iff (hp : f.bundle = path) :
    f ∈ messageFunctions request ↔ f ∈ bundleFunctions request path bundle := by
  simp only [messageFunctions, List.mem_flatMap, Prod.exists, KeyMap.mem_entries_iff]
  constructor
  case mp =>
    intro ⟨path₂, bundle₂, hb₂, hf⟩
    cases hp.symm.trans (mem_bundleFunctions.mp hf).1
    cases hb.symm.trans hb₂
    exact hf
  case mpr =>
    intro hf
    exact ⟨path, bundle, hb, hf⟩

theorem functionsFor_eq (hm : (load request bundle).value.get? key = some templates) :
    functionsFor request path key =
      (functionOf request.namer path key templates bundle.size).toOption.toList := by
  refine filter_eq_toList (pairwise_messageFunctions request) (fun f g h hf hg => ?_) fun f => ?_
  · simp only [decide_eq_true_eq] at hf hg
    rcases h with h | ⟨_, h⟩
    · exact absurd (hf.1.trans hg.1.symm) (ne_of_lt h)
    · exact absurd (hf.2.trans hg.2.symm) (ne_of_lt h)
  · simp only [decide_eq_true_eq, toOption_eq_some]
    constructor
    case mp =>
      rintro ⟨hf, rfl, rfl⟩
      rw [mem_messageFunctions_iff hb rfl, mem_bundleFunctions] at hf
      have ⟨_, templates₂, hm₂, hf⟩ := hf
      cases hm.symm.trans hm₂
      exact hf
    case mpr =>
      intro hf
      obtain ⟨hp, rfl, _⟩ := functionOf_eq_ok hf
      refine ⟨(mem_messageFunctions_iff hb hp).mpr (mem_bundleFunctions.mpr ?_), hp, rfl⟩
      exact ⟨hp, templates, hm, hf⟩

end

def constants (request : Request) : Processing (List Definition) :=
  if Settings.getBool request.settings "embed_source" false then do
    Embed.generate (← embedRequest request)
  else return []

theorem run_constants {derived : Request} (hd : embedRequest request = .ok derived) :
    (constants request).run =
      if Settings.getBool request.settings "embed_source" false then (Embed.generate derived).run
      else ⟨.ok [], []⟩ := by
  rw [constants, hd]
  split <;> rfl

theorem run_generate_eq (request : Request) :
    (generate request).run =
      ⟨(constants (applyNaming request)).run.value.map
          ((messageFunctions (applyNaming request)).map .messageFunction ++ ·),
        (reports (applyNaming request)).flatMap (·.diagnostics (applyNaming request)) ++
          (constants (applyNaming request)).run.diagnostics⟩ := by
  have ⟨derived, hd, _⟩ := exists_embedRequest (applyNaming request)
  rw [diagnostics_reports, ← value_messageFunctions, run_constants hd, settings_applyNaming]
  by_cases he : Settings.getBool request.settings "embed_source" false
  case pos => rw [run_generate_embedding he hd, if_pos he]
  case neg =>
    rw [run_generate_plain he, if_neg he]
    simp [Except.map, Functor.map]

-- A bundle is accounted for: each of its files is read or reported, and each key in the files that
-- are read has a function or is reported, once and not both.
structure Accounted (request : Request) (path : String) (bundle : Bundle) : Prop where
  read : ∀ locale resource entries, bundle.get? locale = some resource →
    readFile resource = .ok entries → reportsOn request (.file path locale) = []
  unread : ∀ locale resource e, bundle.get? locale = some resource →
    readFile resource = .error e →
    reportsOn request (.file path locale) =
      [⟨.file path locale, fileLevel request resource, e.message⟩]
  function : ∀ key locale template, Defines bundle key locale template → Consistent bundle key →
    reportsOn request (.message path key) = [] ∧
      ∃ f, functionsFor request path key = [f] ∧ ∀ locale template,
        f.templates.get? locale = some template ↔ Defines bundle key locale template
  refusal : ∀ key locale template, Defines bundle key locale template → ¬Consistent bundle key →
    functionsFor request path key = [] ∧ ∃ problem,
      reportsOn request (.message path key) =
        [⟨.message path key, onBadTemplate.level request, problem⟩]

theorem exists_get?_load (request : Request) (h : Defines bundle key locale template) :
    ∃ templates, (load request bundle).value.get? key = some templates := by
  have hc : (load request bundle).value.cell? (key, locale) = some template := cell?_load.mpr h
  have ⟨templates, hm, _⟩ := Option.bind_eq_some_iff.mp hc
  exact ⟨templates, hm⟩

theorem accounted (hb : (bundlesOf request.resources).get? path = some bundle) :
    Accounted request path bundle where
  read     := by
    intro locale resource entries hl hr
    rw [reportsOn_file hb hl, fileReport?, hr]
    rfl
  unread   := by
    intro locale resource e hl hr
    rw [reportsOn_file hb hl, fileReport?, hr]
    rfl
  function := by
    intro key locale template hd hc
    obtain ⟨templates, hm⟩ := exists_get?_load request hd
    obtain ⟨f, hf⟩ : ∃ f, functionOf request.namer path key templates bundle.size = .ok f :=
      (exists_functionOf_iff hm).mpr hc
    rw [reportsOn_message hb hm, messageReport?, functionsFor_eq hb hm, hf]
    refine ⟨rfl, f, rfl, fun _ _ => ?_⟩
    rw [(functionOf_eq_ok hf).2.2.1]
    exact get?_of_get?_load hm
  refusal  := by
    intro key locale template hd hc
    obtain ⟨templates, hm⟩ := exists_get?_load request hd
    rw [reportsOn_message hb hm, messageReport?, functionsFor_eq hb hm]
    cases hf : functionOf request.namer path key templates bundle.size
    case ok f          => exact absurd ((exists_functionOf_iff hm).mp ⟨f, hf⟩) hc
    case error problem => exact ⟨rfl, problem, rfl⟩

-- A run reports each file and each key once, and makes the functions of the keys that it does not
-- report. Only then does it embed the files, if it is asked to.
theorem bundles_accounted_for (request : Request) :
    let used := applyNaming request
    (generate request).run =
      ⟨(constants used).run.value.map ((messageFunctions used).map .messageFunction ++ ·),
        (reports used).flatMap (·.diagnostics used) ++ (constants used).run.diagnostics⟩ ∧
    (messageFunctions used).Pairwise Before ∧
    (∀ path bundle, (bundlesOf request.resources).get? path = some bundle →
      Accounted used path bundle) ∧
    (∃ derived, embedRequest used = .ok derived ∧ (constants used).run =
      if Settings.getBool request.settings "embed_source" false then (Embed.generate derived).run
      else ⟨.ok [], []⟩) ∧
    (messages.Accepts request → ∃ items, (constants used).run.value = .ok items) ∧
    ∀ items f, (constants used).run.value = .ok items → .messageFunction f ∉ items := by
  intro used
  have ⟨derived, hd, _⟩ := exists_embedRequest used
  have hr := run_constants hd
  rw [settings_applyNaming] at hr
  refine ⟨run_generate_eq request, pairwise_messageFunctions used, ?accounted, ⟨derived, hd, hr⟩,
    ?total, ?others⟩
  case accounted =>
    intro path bundle hb
    rw [← resources_applyNaming] at hb
    exact accounted hb
  case total =>
    intro ha
    have ⟨items, hi⟩ := messages_total.items request ha
    have hi : (generate request).run.value = .ok items := hi
    rw [run_generate_eq] at hi
    have ⟨constants, hc, _⟩ := map_eq_ok.mp hi
    exact ⟨constants, hc⟩
  case others =>
    intro items f hi hf
    rw [hr] at hi
    split at hi
    case isTrue => cases Embed.symbolKind_of_generate hi hf
    case isFalse =>
      cases hi
      cases hf

-- A key whose kinds differ, one that German leaves out, and a file that is not there.
theorem bundles_accounted_for_shop :
    let request : Request := ⟨{
      resources := [
        .ofBytes "app.properties" (Utf8.encode "sum={0,number}\nwho={0}"),
        .ofBytes "app_de.properties" (Utf8.encode "sum={0,date}"),
        ⟨"app_fr.properties", .error ⟨.notFound, "no such file"⟩⟩]
      settings := [⟨"on_missing", "warning"⟩] }, by decide⟩
    let used := applyNaming request
    (∃ items, (constants used).run.value = .ok items ∧ ∀ f, .messageFunction f ∉ items) ∧
    (∃ bundle, (bundlesOf request.resources).get? "app" = some bundle ∧
      Accounted used "app" bundle) ∧
    reportsOn used (.file "app" "fr") =
      [⟨.file "app" "fr", .warning, "Resource \x60app_fr.properties\x60 is missing"⟩] ∧
    (reportsOn used (.message "app" "sum")).length = 1 ∧
    (messageFunctions used).map (·.key) = ["who"] := by
  intro request used
  have ⟨_, _, hb, _, ht, ho⟩ := bundles_accounted_for request
  have hg : ((bundlesOf request.resources).get? "app").isSome := by decide +kernel
  have ⟨bundle, hg⟩ := Option.isSome_iff_exists.mp hg
  have ⟨items, hi⟩ := ht ⟨_, rfl, by decide +kernel⟩
  exact ⟨⟨items, hi, fun f => ho items f hi⟩, ⟨bundle, hg, hb "app" bundle hg⟩,
    by decide +kernel, by decide +kernel, by decide +kernel⟩

-- Embedding opens the files anew, and so reports again what is not there.
theorem missing_file_reported_twice :
    let request : Request := ⟨{
      resources := [⟨"m.properties", .error ⟨.notFound, "no such file"⟩⟩]
      settings := [⟨"embed_source", "true"⟩] }, by simp⟩
    let missing : Diagnostic := ⟨.error, "Resource \x60m.properties\x60 is missing", some {}⟩
    messages.Accepts request ∧
    ((bundlesOf request.resources).cell? ("m", "")).map (·.path) = some "m.properties" ∧
    (generate request).run.diagnostics = [missing, missing] := by
  intro request missing
  exact ⟨⟨_, rfl, by decide +kernel⟩, by decide +kernel, by decide +kernel⟩

end ResourceEmbedding.Generator.Messages
