import Mathlib.Data.Set.List
import ResourceEmbedding.CommandLine.SettingsFile
import ResourceEmbedding.Proofs.Segment.Decoder
import ResourceEmbedding.Proofs.Text.Utf8
import ResourceEmbedding.Proofs.Toml.Document

namespace ResourceEmbedding.SettingsFile

def settingOf? (e : String × Toml) : Option Setting :=
  (valueText? e.2).map (Setting.mk e.1)

-- One setting for each entry, in the order of their keys.
structure Lists (entries : List (String × Toml)) (settings : List Setting) : Prop where
  perm   : (entries.map settingOf?).Perm (settings.map some)
  sorted : settings.Pairwise (·.key < ·.key)

-- The entries of the options of a document, which may be left out and have nothing beside them.
inductive HasOptions : List (String × Toml) → List (String × Toml) → Prop
  | none  : HasOptions [] []
  | table : tableEntries? table = some entries → HasOptions [("options", table)] entries

variable {text : String} {document entries : List (String × Toml)} {settings : List Setting}
variable {table : Toml} {opening : Except StreamFailure Source}

-- The settings that a text holds.
def Holds (text : String) (settings : List Setting) : Prop :=
  ∃ document entries, Toml.read? text = some document ∧ HasOptions document entries ∧
    Lists entries settings

theorem nodup_of_tableEntries? (hk : table.Keyed) (h : tableEntries? table = some entries) :
    (entries.map (·.1)).Nodup := by
  cases hk <;> cases h
  case datetime   => exact List.nodup_singleton _
  case table hn _ => exact hn

theorem HasOptions.nodup (h : HasOptions document entries) (hk : (Toml.table document).Keyed) :
    (entries.map (·.1)).Nodup := by
  cases h
  case none    => exact .nil
  case table h =>
    cases hk
    case table hk => exact nodup_of_tableEntries? (hk _ List.mem_cons_self) h

theorem map_key_of_map_settingOf? (h : entries.map settingOf? = settings.map some) :
    settings.map (·.key) = entries.map (·.1) := by
  induction entries generalizing settings
  case nil =>
    rw [List.map_eq_nil_iff.mp h.symm]
    rfl
  case cons e entries hi =>
    obtain ⟨s, settings, rfl, hs, ht⟩ := List.map_eq_cons_iff.mp h.symm
    obtain ⟨text, _, rfl⟩ := Option.map_eq_some_iff.mp hs.symm
    rw [List.map_cons, hi ht.symm, List.map_cons]

theorem sorted_of_map_settingOf? {m : KeyMap Toml}
    (h : m.entries.map settingOf? = settings.map some) : settings.Pairwise (·.key < ·.key) := by
  rw [← List.pairwise_map, map_key_of_map_settingOf? h, List.pairwise_map]
  exact m.sorted

-- The entries of a map are in the order of their keys already.
theorem lists_entries_iff {m : KeyMap Toml} :
    Lists m.entries settings ↔ m.entries.map settingOf? = settings.map some := by
  constructor
  case mpr => exact fun h => ⟨h ▸ .refl _, sorted_of_map_settingOf? h⟩
  case mp =>
    intro h
    have hp := h.perm
    have ⟨settings₂, hm⟩ : m.entries.map settingOf? ∈ Set.range (List.map some) := by
      rw [Set.range_list_map]
      intro s? hs
      have ⟨s, _, hs⟩ := List.mem_map.mp (hp.mem_iff.mp hs)
      exact ⟨s, hs⟩
    rw [← hm, List.map_perm_map_iff (Option.some_injective _)] at hp
    rw [← hm, hp.eq_of_pairwise (fun _ _ _ _ h₁ h₂ => absurd h₁ h₂.asymm)
      (sorted_of_map_settingOf? hm.symm) h.sorted]

theorem lists_congr {entries₂ : List (String × Toml)} (hp : entries.Perm entries₂) :
    Lists entries settings ↔ Lists entries₂ settings := by
  constructor
  case mp  => exact fun h => ⟨(hp.map _).symm.trans h.perm, h.sorted⟩
  case mpr => exact fun h => ⟨(hp.map _).trans h.perm, h.sorted⟩

theorem mapM_settingOf_eq_ok_iff (hn : (entries.map (·.1)).Nodup) :
    (KeyMap.ofList entries).entries.mapM settingOf = .ok settings ↔ Lists entries settings := by
  rw [← lists_congr (KeyMap.perm_entries_ofList hn), lists_entries_iff]
  refine mapM_eq_ok_iff_map fun (key, value) s => ?_
  rw [settingOf, settingOf?]
  cases valueText? value <;> simp [pure_eq_ok]

theorem options?_eq_some_iff (hn : (document.map (·.1)).Nodup) :
    options? document = some entries ↔ HasOptions document entries := by
  match document with
  | [] =>
    constructor
    case mp =>
      rintro ⟨⟩
      exact .none
    case mpr =>
      rintro ⟨⟩
      rfl
  | [(key, table)] =>
    by_cases hk : key = "options"
    case pos =>
      subst hk
      exact ⟨.table, fun (.table h) => h⟩
    case neg =>
      have ho : options? [(key, table)] = none := by simp [options?, hk]
      rw [ho]
      exact iff_of_false nofun fun | .table _ => hk rfl
  | (key₁, _) :: (key₂, _) :: rest =>
    refine iff_of_false (fun h => ?_) nofun
    rw [options?] at h
    split at h
    case isTrue  => cases h
    case isFalse ha => simp_all

theorem settings_eq_ok_iff (hk : (Toml.table document).Keyed) :
    SettingsFile.settings document = .ok settings ↔
      ∃ entries, HasOptions document entries ∧ Lists entries settings := by
  simp only [SettingsFile.settings, ← options?_eq_some_iff hk.nodup]
  cases ho : options? document
  case none         => exact iff_of_false nofun (by simp)
  case some entries =>
    have hn := ((options?_eq_some_iff hk.nodup).mp ho).nodup hk
    simp [mapM_settingOf_eq_ok_iff hn]

theorem read_eq_ok_iff : read text = .ok settings ↔ Holds text settings := by
  delta read Holds
  cases hd : Toml.read? text
  case none          => exact iff_of_false nofun nofun
  case some document => simp [settings_eq_ok_iff (Toml.keyed_of_read? hd)]

end ResourceEmbedding.SettingsFile
