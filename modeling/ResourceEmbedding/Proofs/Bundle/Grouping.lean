import ResourceEmbedding.Bundle.Grouping
import ResourceEmbedding.Proofs.Bundle.Locale
import ResourceEmbedding.Proofs.KeyMap

namespace ResourceEmbedding

theorem Text.throughLast_append_afterLast (p : α → Bool) (as : List α) :
    throughLast p as ++ afterLast p as = as := by
  rw [throughLast, afterLast, ← List.reverse_append, List.takeWhile_append_dropWhile,
    List.reverse_reverse]

theorem Text.beforeEnding?_eq_some [BEq α] [LawfulBEq α] {ending as before : List α} :
    beforeEnding? ending as = some before ↔ as = before ++ ending := by
  simp only [beforeEnding?, List.isSuffixOf_iff_suffix, Option.ite_none_right_eq_some,
    Option.some_inj]
  constructor
  case mp =>
    rintro ⟨⟨_, rfl⟩, hb⟩
    simp [← hb]
  case mpr =>
    rintro rfl
    exact ⟨List.suffix_append .., by simp⟩

def filePath (slot : String × String) : String :=
  slot.1 ++ (if slot.2.isEmpty then "" else "_" ++ slot.2) ++ bundleExtension

namespace BundleFile

variable {r : Resource} {f g : BundleFile} {files : List BundleFile}

theorem ofResource?_eq_some (h : ofResource? r = some f) :
    f.resource = r ∧ r.path.toList = f.directory ++ f.stem ++ bundleExtension.toList := by
  have ⟨path, hp, hf⟩ := Option.map_eq_some_iff.mp h
  rw [← hf, Text.beforeEnding?_eq_some.mp hp]
  exact ⟨rfl, by rw [Text.throughLast_append_afterLast]⟩

theorem ofResource?_isSome_iff :
    (ofResource? r).isSome ↔ bundleExtension.toList <:+ r.path.toList := by
  rw [ofResource?, Option.isSome_map, Option.isSome_iff_exists]
  simp only [Text.beforeEnding?_eq_some]
  exact exists_congr fun _ => eq_comm

def slot (files : List BundleFile) (f : BundleFile) : String × String :=
  (f.bundlePath files, f.locale files)

theorem stem_eq_place (files : List BundleFile) (f : BundleFile) :
    f.stem = (f.place files).1 ++
      if (f.place files).2 = [] then [] else '_' :: (f.place files).2 := by
  rw [place]
  split
  case h_1 base tag hs =>
    have ⟨hs, ht⟩ := Locale.split?_eq_some hs
    split <;> simp [hs]
  case h_2 => simp

theorem path_eq_filePath (files : List BundleFile) (h : ofResource? r = some f) :
    r.path = filePath (f.slot files) := by
  have ⟨_, hp⟩ := ofResource?_eq_some h
  rw [stem_eq_place files f] at hp
  apply String.toList_inj.mp
  rw [hp, filePath, slot, bundlePath, locale]
  by_cases ht : (f.place files).2 = [] <;> simp [ht]

end BundleFile

def bundleFiles (resources : List Resource) : List BundleFile :=
  resources.filterMap BundleFile.ofResource?

variable {resources : List Resource} {slot : String × String} {r : Resource}

theorem bundlesOf_eq_ofCells (resources : List Resource) :
    bundlesOf resources = .ofCells ((bundleFiles resources).map fun f =>
      (f.slot (bundleFiles resources), f.resource)) := by
  rw [KeyMap.ofCells, List.foldl_map]
  rfl

-- No two files are filed under one bundle and one locale, since these tell the path.
theorem nodup_slots (h : resources.Pairwise (·.path < ·.path)) :
    ((bundleFiles resources).map (·.slot (bundleFiles resources))).Nodup := by
  refine List.pairwise_map.mpr (List.pairwise_filterMap.mpr (h.imp fun lt f hf g hg he => ?_))
  rw [BundleFile.path_eq_filePath _ hf, BundleFile.path_eq_filePath _ hg, he] at lt
  exact lt_irrefl _ lt

theorem cell?_bundlesOf (h : resources.Pairwise (·.path < ·.path)) :
    (bundlesOf resources).cell? slot = some r ↔
      r ∈ resources ∧
        ∃ f, BundleFile.ofResource? r = some f ∧ f.slot (bundleFiles resources) = slot := by
  rw [bundlesOf_eq_ofCells, KeyMap.cell?_ofCells (by simpa [Function.comp_def] using nodup_slots h)]
  simp only [List.mem_map, Prod.mk.injEq, bundleFiles, List.mem_filterMap]
  constructor
  case mp =>
    rintro ⟨f, ⟨r₂, hm, hf⟩, hs, hr⟩
    cases (BundleFile.ofResource?_eq_some hf).1.symm.trans hr
    exact ⟨hm, f, hf, hs⟩
  case mpr =>
    rintro ⟨hm, f, hf, hs⟩
    exact ⟨f, ⟨r, hm, hf⟩, hs, (BundleFile.ofResource?_eq_some hf).1⟩

end ResourceEmbedding
