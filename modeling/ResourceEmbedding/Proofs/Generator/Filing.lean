import ResourceEmbedding.Proofs.Bundle.Grouping
import ResourceEmbedding.Proofs.Generator.Warnings

namespace ResourceEmbedding.Generator.Messages

variable {request : Request} {r s : Resource} {f : BundleFile} {path : String}

def filed (request : Request) (slot : String × String) : Option Resource :=
  (bundlesOf request.resources).cell? slot

theorem filed_iff {slot : String × String} :
    filed request slot = some r ↔ r ∈ request.resources ∧
      ∃ f, BundleFile.ofResource? r = some f ∧ f.slot (bundleFiles request.resources) = slot :=
  cell?_bundlesOf request.ordered

theorem filed_of_ofResource? (hr : r ∈ request.resources) (hf : BundleFile.ofResource? r = some f)
    (slot : String × String) :
    filed request slot = some r ↔ f.slot (bundleFiles request.resources) = slot := by
  rw [filed_iff]
  constructor
  case mp =>
    rintro ⟨_, g, hg, hs⟩
    cases hf.symm.trans hg
    exact hs
  case mpr => exact fun hs => ⟨hr, f, hf, hs⟩

theorem exists_file_of_get? {bundle : Bundle}
    (h : (bundlesOf request.resources).get? path = some bundle) :
    ∃ locale r, bundle.get? locale = some r := by
  rw [bundlesOf_eq_ofCells] at h
  exact KeyMap.dense_ofCells _ path bundle h

-- Every `.properties` resource is filed in one place, which tells its path and is that of no other;
-- no bundle is empty, and each resource of another kind is warned of once.
theorem resources_filed_once (request : Request) :
    (∀ r ∈ request.resources, bundleExtension.toList <:+ r.path.toList →
      ∃! slot, filed request slot = some r) ∧
    (∀ slot r, filed request slot = some r → r ∈ request.resources ∧ r.path = filePath slot) ∧
    ((bundleFiles request.resources).map (·.slot (bundleFiles request.resources))).Nodup ∧
    (∀ path bundle, (bundlesOf request.resources).get? path = some bundle →
      ∃ locale r, bundle.get? locale = some r) ∧
    ∀ r ∈ request.resources, ¬bundleExtension.toList <:+ r.path.toList →
      (∀ slot, filed request slot ≠ some r) ∧
        (generate request).run.diagnostics.count (otherWarning request r) = 1 := by
  refine ⟨?once, ?path, nodup_slots request.ordered, fun _ _ => exists_file_of_get?, ?other⟩
  case once =>
    intro r hr hp
    have ⟨f, hf⟩ := Option.isSome_iff_exists.mp (BundleFile.ofResource?_isSome_iff.mpr hp)
    simp only [filed_of_ofResource? hr hf]
    exact existsUnique_eq'
  case path =>
    intro slot r h
    obtain ⟨hr, f, hf, rfl⟩ := filed_iff.mp h
    exact ⟨hr, BundleFile.path_eq_filePath _ hf⟩
  case other =>
    intro r hr hp
    have hn : BundleFile.ofResource? r = none := by
      rwa [← BundleFile.ofResource?_isSome_iff, Option.not_isSome_iff_eq_none] at hp
    refine ⟨fun slot h => ?_, count_otherWarning hr hn⟩
    obtain ⟨_, f, hf, _⟩ := filed_iff.mp h
    cases hn.symm.trans hf

theorem resources_filed_once_logo :
    let german : Resource := .ofBytes "app_de.properties" []
    let logo : Resource := .ofBytes "logo.png" []
    let request : Request :=
      ⟨{ resources := [.ofBytes "app.properties" [], german, logo] }, by decide⟩
    (∃ slot bundle locale r, filed request slot = some german ∧ german.path = filePath slot ∧
      (bundlesOf request.resources).get? slot.1 = some bundle ∧ bundle.get? locale = some r) ∧
    (∀ slot, filed request slot ≠ some logo) ∧
      (generate request).run.diagnostics.count (otherWarning request logo) = 1 := by
  intro german logo request
  have ⟨once, path, _, full, other⟩ := resources_filed_once request
  refine ⟨?filed, other logo (by simp [request]) (by decide)⟩
  have ⟨slot, hs, _⟩ := once german (by simp [request]) (by decide)
  have ⟨bundle, hb, _⟩ := Option.bind_eq_some_iff.mp hs
  have ⟨locale, r, hr⟩ := full slot.1 bundle hb
  exact ⟨slot, bundle, locale, r, hs, (path slot german hs).2, hb, hr⟩

-- The name of the file ends in a locale tag, and the rest of it is a family among the other files
-- in its directory.
def IsTagged (request : Request) (f : BundleFile) : Prop :=
  ∃ base tag, Locale.split? f.stem = some (base, tag) ∧
    BundleFile.isFamily (f.siblings (bundleFiles request.resources)) base

theorem locale_eq_empty_iff :
    f.locale (bundleFiles request.resources) = "" ↔ ¬IsTagged request f := by
  rw [BundleFile.locale, BundleFile.place, IsTagged]
  cases hs : Locale.split? f.stem
  case none => simp
  case some parts =>
    obtain ⟨base, tag⟩ := parts
    have ht := (Locale.split?_eq_some hs).2
    by_cases hf : BundleFile.isFamily (f.siblings (bundleFiles request.resources)) base
    case pos => simp [hf, ht]
    case neg => simp [hf]

theorem eq_of_path_eq (hr : r ∈ request.resources) (hs : s ∈ request.resources)
    (h : r.path = s.path) : r = s :=
  List.inj_on_of_nodup_map (List.pairwise_map.mpr (request.ordered.imp ne_of_lt)) hr hs h

theorem filed_default_iff (hr : r ∈ request.resources) (hf : BundleFile.ofResource? r = some f)
    (hp : r.path = path ++ bundleExtension) :
    filed request (path, "") = some r ↔ ¬IsTagged request f := by
  rw [filed_of_ofResource? hr hf, ← locale_eq_empty_iff]
  constructor
  case mp =>
    intro hs
    exact congrArg Prod.snd hs
  case mpr =>
    intro hl
    have hb := BundleFile.path_eq_filePath (bundleFiles request.resources) hf
    rw [hp, filePath, BundleFile.slot, hl] at hb
    rw [BundleFile.slot, hl, (by simpa using hb : path = f.bundlePath _)]

-- Only the file of that path can be the default of the bundle.
theorem filed_default_eq_none_iff (hr : r ∈ request.resources)
    (hf : BundleFile.ofResource? r = some f) (hp : r.path = path ++ bundleExtension) :
    filed request (path, "") = none ↔ IsTagged request f := by
  rw [← not_iff_not, ← filed_default_iff hr hf hp, Option.eq_none_iff_forall_ne_some]
  push Not
  constructor
  case mp =>
    intro ⟨s, hs⟩
    obtain ⟨hm, g, hg, he⟩ := filed_iff.mp hs
    have hb := BundleFile.path_eq_filePath (bundleFiles request.resources) hg
    rw [he, filePath] at hb
    rw [hs, eq_of_path_eq hr hm (by simpa [hp] using hb.symm)]
  case mpr => exact fun h => ⟨r, h⟩

theorem noDefaultWarning_mem_iff_filed :
    noDefaultWarning request path ∈ (generate request).run.diagnostics ↔
      filed request (path, "") = none ∧ ∃ locale s, filed request (path, locale) = some s := by
  simp only [noDefaultWarning_mem_iff, filed, KeyMap.cell?]
  constructor
  case mp =>
    rintro ⟨bundle, hb, hn⟩
    obtain ⟨locale, s, hs⟩ := exists_file_of_get? hb
    exact ⟨by rw [hb]; exact hn, locale, s, by rw [hb]; exact hs⟩
  case mpr =>
    rintro ⟨hn, locale, s, hs⟩
    obtain ⟨bundle, hb, _⟩ := Option.bind_eq_some_iff.mp hs
    exact ⟨bundle, hb, by rwa [hb] at hn⟩

-- A file is the one for the default locale in the bundle of its own name, unless its name counts as
-- tagged: then a bundle of that name is warned of as one without such a file.
theorem default_filed_iff_not_tagged (hr : r ∈ request.resources)
    (hf : BundleFile.ofResource? r = some f) (hp : r.path = path ++ bundleExtension) :
    (filed request (path, "") = some r ↔ ¬IsTagged request f) ∧
    (noDefaultWarning request path ∈ (generate request).run.diagnostics ↔
      IsTagged request f ∧ ∃ locale s, filed request (path, locale) = some s) := by
  rw [noDefaultWarning_mem_iff_filed, filed_default_eq_none_iff hr hf hp]
  exact ⟨filed_default_iff hr hf hp, Iff.rfl⟩

-- Three files, the second of which reads as the locale `app` of the first.
def nested : Request :=
  ⟨{ resources := [.ofBytes "my.properties" [], .ofBytes "my_app.properties" [],
      .ofBytes "my_app_de.properties" []] }, by decide⟩

theorem default_filed_iff_not_tagged_nested :
    ∃ r ∈ nested.resources, ∃ f, BundleFile.ofResource? r = some f ∧
      r.path = "my_app" ++ bundleExtension ∧ IsTagged nested f ∧
      filed nested ("my_app", "") ≠ some r := by
  have hr : .ofBytes "my_app.properties" [] ∈ nested.resources := by simp [nested]
  have hp : "my_app.properties" = "my_app" ++ bundleExtension := by decide
  have hw : noDefaultWarning nested "my_app" ∈ (generate nested).run.diagnostics := by
    decide +kernel
  obtain ⟨default_iff, warned_iff⟩ := default_filed_iff_not_tagged hr rfl hp
  have ht := (warned_iff.mp hw).1
  exact ⟨_, hr, _, rfl, hp, ht, fun hf => default_iff.mp hf ht⟩

-- The file `my_app.properties` is there, and yet not the default of the bundle `my_app`.
theorem default_filed_elsewhere :
    (filed nested ("my_app", "de")).map (·.path) = some "my_app_de.properties" ∧
    "my_app" ++ bundleExtension ∈ nested.resources.map (·.path) ∧
    filed nested ("my_app", "") = none ∧
    noDefaultWarning nested "my_app" ∈ (generate nested).run.diagnostics := by
  refine ⟨by decide +kernel, by decide +kernel, ?_, by decide +kernel⟩
  exact Option.isNone_iff_eq_none.mp (by decide +kernel)

end ResourceEmbedding.Generator.Messages
