import Mathlib.Data.List.Nodup
import ResourceEmbedding.Generator.Messages
import ResourceEmbedding.Proofs.Generator.Accounting
import ResourceEmbedding.Proofs.KeyMap

namespace ResourceEmbedding.Generator.Messages

variable {request derived : Request} {resource : Resource} {bundle : Bundle}
variable {key locale template : String}

def otherWarning (request : Request) (r : Resource) : Diagnostic :=
  ⟨.warning, s!"Resource \x60{r.path}\x60 is not a {bundleExtension} bundle and was ignored",
    some request.site⟩

theorem diagnostics_warnOfOthers (request : Request) :
    (warnOfOthers request).diagnostics =
      (request.resources.filter fun r => (BundleFile.ofResource? r).isNone).map
        (otherWarning request) := by
  rw [warnOfOthers, List.forM_eq_forM, Logged.diagnostics_forM]
  generalize request.resources = resources
  induction resources
  case nil => rfl
  case cons r resources hi =>
    rw [List.flatMap_cons, hi, List.filter_cons]
    split <;> rfl

def fileCells (locale : String) (resource : Resource) : List ((String × String) × String) :=
  match readFile resource with
  | .ok entries => entries.entries.map fun e => ((e.1, locale), e.2)
  | .error _ => []

def bundleCells (bundle : Bundle) : List ((String × String) × String) :=
  bundle.entries.flatMap fun e => fileCells e.1 e.2

theorem mem_fileCells {locale₂ : String} :
    ((key, locale₂), template) ∈ fileCells locale resource ↔
      locale₂ = locale ∧ ∃ entries, readFile resource = .ok entries ∧
        entries.get? key = some template := by
  rw [fileCells]
  cases readFile resource
  case error => simp
  case ok entries =>
    simp only [List.mem_map, Prod.exists, KeyMap.mem_entries_iff]
    grind

theorem mem_bundleCells :
    ((key, locale), template) ∈ bundleCells bundle ↔
      ∃ resource entries, bundle.get? locale = some resource ∧
        readFile resource = .ok entries ∧ entries.get? key = some template := by
  simp only [bundleCells, List.mem_flatMap, Prod.exists, KeyMap.mem_entries_iff, mem_fileCells]
  grind

theorem nodup_fileCells (locale : String) (resource : Resource) :
    ((fileCells locale resource).map (·.1)).Nodup := by
  rw [fileCells]
  cases readFile resource
  case error => exact List.nodup_nil
  case ok entries =>
    have hi := Prod.mk_left_injective (α := String) locale
    simpa [Function.comp_def] using entries.nodup_keys.map hi

-- Two files of a bundle are files of two locales.
theorem nodup_bundleCells (bundle : Bundle) : ((bundleCells bundle).map (·.1)).Nodup := by
  rw [bundleCells, List.map_flatMap, List.nodup_flatMap]
  refine ⟨fun _ _ => nodup_fileCells .., bundle.sorted.imp fun lt => ?_⟩
  rw [Function.onFun, List.disjoint_left]
  rintro slot h₁ h₂
  obtain ⟨⟨_, _⟩, hm₁, rfl⟩ := List.mem_map.mp h₁
  obtain ⟨⟨_, _⟩, hm₂, rfl⟩ := List.mem_map.mp h₂
  exact ne_of_lt lt ((mem_fileCells.mp hm₁).1.symm.trans (mem_fileCells.mp hm₂).1)

theorem addEntries_eq_foldl (messages : LocalizedMessages) (locale : String)
    (entries : KeyMap String) :
    addEntries messages locale entries =
      (entries.entries.map fun e => ((e.1, locale), e.2)).foldl KeyMap.putCell messages := by
  rw [List.foldl_map]
  rfl

def loadFile (request : Request) (messages : LocalizedMessages) (e : String × Resource) :
    Logged LocalizedMessages :=
  match readFile e.2 with
  | .ok entries => return addEntries messages e.1 entries
  | .error failure => do
    reportFailure request failure
    return messages

theorem load_eq_foldlM (request : Request) (bundle : Bundle) :
    load request bundle = bundle.entries.foldlM (loadFile request) default := by
  rw [load]
  congr
  funext messages ⟨locale, resource⟩
  simp only [loadFile, reportFailure]
  cases readFile resource
  case ok      => rfl
  case error e => by_cases hm : e.isMissing <;> simp [hm]

theorem value_load (request : Request) (bundle : Bundle) :
    (load request bundle).value = .ofCells (bundleCells bundle) := by
  rw [load_eq_foldlM, Logged.value_foldlM, KeyMap.ofCells, bundleCells, List.foldl_flatMap]
  congr
  funext messages e
  simp only [loadFile, fileCells]
  cases readFile e.2
  case ok entries => exact addEntries_eq_foldl messages e.1 entries
  case error      => rfl

theorem diagnostics_load (request : Request) (bundle : Bundle) :
    (load request bundle).diagnostics = bundle.entries.flatMap fun e =>
      match readFile e.2 with
      | .ok _ => []
      | .error failure => (reportFailure request failure).diagnostics := by
  rw [load_eq_foldlM]
  apply Logged.diagnostics_foldlM
  intro messages e
  rw [loadFile]
  split <;> simp

theorem cell?_load :
    (load request bundle).value.cell? (key, locale) = some template ↔
      ∃ resource entries, bundle.get? locale = some resource ∧
        readFile resource = .ok entries ∧ entries.get? key = some template := by
  rw [value_load, KeyMap.cell?_ofCells (nodup_bundleCells bundle), mem_bundleCells]

variable {templates : KeyMap String}

theorem get?_of_get?_load (h : (load request bundle).value.get? key = some templates) :
    templates.get? locale = some template ↔
      ∃ resource entries, bundle.get? locale = some resource ∧
        readFile resource = .ok entries ∧ entries.get? key = some template := by
  have hc : (load request bundle).value.cell? (key, locale) = templates.get? locale := by
    rw [KeyMap.cell?, h, Option.bind_some]
  rw [← hc, cell?_load]

theorem exists_of_get?_load (h : (load request bundle).value.get? key = some templates) :
    ∃ locale template, templates.get? locale = some template := by
  rw [value_load] at h
  exact KeyMap.dense_ofCells _ key templates h

def noDefaultWarning (request : Request) (path : String) : Diagnostic :=
  ⟨.warning, s!"Bundle \x60{path}\x60 has no default-locale file; " ++
    "lookups fall back to the first locale", some request.site⟩

def makeFunction (request : Request) (path : String) (bundle : Bundle)
    (e : String × KeyMap String) : Logged (Option Definition) :=
  match functionOf request.namer path e.1 e.2 bundle.size with
  | .ok f => return some (.messageFunction f)
  | .error problem => do
    let _ ← onBadTemplate.report request problem
    return none

theorem functionsOf_eq (request : Request) (path : String) (bundle : Bundle) :
    functionsOf request path bundle = (do
      if (bundle.get? "").isNone then .emit (noDefaultWarning request path)
      let messages ← load request bundle
      messages.entries.filterMapM (makeFunction request path bundle)) :=
  rfl

theorem value_functionsOf (request : Request) (path : String) (bundle : Bundle) :
    (functionsOf request path bundle).value =
      (load request bundle).value.entries.filterMap fun e =>
        (makeFunction request path bundle e).value := by
  rw [functionsOf_eq]
  split <;> simp [Logged.value_filterMapM]

theorem diagnostics_functionsOf (request : Request) (path : String) (bundle : Bundle) :
    (functionsOf request path bundle).diagnostics =
      (if (bundle.get? "").isNone then [noDefaultWarning request path] else []) ++
        (load request bundle).diagnostics ++
        (load request bundle).value.entries.flatMap fun e =>
          (makeFunction request path bundle e).diagnostics := by
  rw [functionsOf_eq]
  split <;> simp [Logged.diagnostics_filterMapM, Logged.emit]

theorem value_functions (request : Request) :
    (functions request).value = (bundlesOf request.resources).entries.flatMap fun e =>
      (functionsOf request e.1 e.2).value := by
  simp [functions, Logged.value_mapM, List.flatMap]

theorem diagnostics_functions (request : Request) :
    (functions request).diagnostics = (warnOfOthers request).diagnostics ++
      (bundlesOf request.resources).entries.flatMap fun e =>
        (functionsOf request e.1 e.2).diagnostics := by
  simp [functions, Logged.diagnostics_mapM]

-- The files of the bundles alone, with the settings that a schema declares.
def restricted (request : Request) (schema : Schema) : Request where
  toDraft := { request.toDraft with
    settings := request.settings.filter fun s => (schema.find? s.key).isSome
    resources := request.resources.filter fun r => bundleExtension.toList <:+ r.path.toList }
  ordered := request.ordered.filter _

-- Resources that are in order stay so when some of them are left out.
theorem embedRequest_eq {schema : Schema} (hs : Embed.schema = .ok schema) (request : Request) :
    embedRequest request = .ok (restricted request schema) := by
  have hp (r : Resource) : bundleExtension.toList.isSuffixOf r.path.toList =
      decide (bundleExtension.toList <:+ r.path.toList) := by
    rw [Bool.eq_iff_iff, List.isSuffixOf_iff_suffix, decide_eq_true_eq]
  rw [embedRequest, hs]
  simp only [hp]
  exact Draft.build_of_ordered (request.ordered.filter _)

theorem exists_embedRequest (request : Request) :
    ∃ derived, embedRequest request = .ok derived ∧
      ∃ p, derived.settings = request.settings.filter p := by
  have ⟨schema, hs, _⟩ := Embed.checksBudget
  exact ⟨_, embedRequest_eq hs request, _, rfl⟩

-- The constants come behind the functions, and so do the reports of those who make them.
theorem run_generate_embedding (h : Settings.getBool request.settings "embed_source" false)
    (hd : embedRequest (applyNaming request) = .ok derived) :
    (generate request).run =
      ⟨(Embed.generate derived).run.value.map ((functions (applyNaming request)).value ++ ·),
        (functions (applyNaming request)).diagnostics ++
          (Embed.generate derived).run.diagnostics⟩ := by
  have hl : (liftM (functions (applyNaming request)) : Processing _).run.value =
      .ok (functions (applyNaming request)).value := by simp
  have hp : (liftM (Except.ok derived : Except Failure Request) : Processing Request) =
      pure derived := rfl
  simp only [generate, settings_applyNaming, h, hd, hp, if_true]
  rw [Processing.run_bind_ok hl, pure_bind]
  cases hv : (Embed.generate derived).run.value
  case ok constants => rw [Processing.run_bind_ok hv]; simp [Except.map]
  case error e      => rw [Processing.run_bind_error hv]; simp [Except.map]

theorem run_generate_plain (h : ¬Settings.getBool request.settings "embed_source" false) :
    (generate request).run = .ok <$> functions (applyNaming request) := by
  simp [generate, h]

end ResourceEmbedding.Generator.Messages
