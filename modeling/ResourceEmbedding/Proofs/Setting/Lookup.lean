import ResourceEmbedding.Proofs.Setting.Schema
import ResourceEmbedding.Proofs.Text.Keyword

namespace ResourceEmbedding

namespace Setting

variable {text : String} {s : Setting}

end Setting

namespace Settings

variable {settings : List Setting} {s : Setting} {key value : String}

-- Where no key comes twice, each setting is the one that counts.
theorem find?_of_mem (hn : (settings.map (·.key)).Nodup) (hm : s ∈ settings) :
    find? settings s.key = some s.value := by
  have ⟨before, behind, hs⟩ := List.append_of_mem hm
  have hb : ∀ t ∈ before, ¬t.key == s.key := by
    intro t ht
    rw [hs, List.map_append, List.map_cons, List.nodup_append] at hn
    simpa using hn.2.2 t.key (List.mem_map_of_mem ht) s.key List.mem_cons_self
  rw [find?, hs, List.find?_append, List.find?_eq_none.mpr hb]
  simp

-- Leaving out settings of other keys does not change what is found.
theorem find?_filter {p : String → Bool} (h : p key) :
    find? (settings.filter fun s => p s.key) key = find? settings key := by
  rw [find?, find?, List.find?_filter]
  have hp (s : Setting) : decide (p s.key ∧ (s.key == key)) = (s.key == key) := by
    by_cases he : s.key = key <;> simp [he, h]
  simp only [hp]

theorem getBool_of_find? (h : find? settings key = some value) (fallback : Bool) :
    getBool settings key fallback = (readBool? value).getD fallback := by
  rw [getBool, h, Option.bind_some]

theorem get?_of_find? (h : find? settings key = some value) (read? : String → Option α) :
    get? settings key read? = read? (Text.trimmed value) := by
  rw [get?, h, Option.bind_some]

theorem getSize_of_get? {n : Nat} (h : get? settings key Text.size? = some n) (fallback : Nat) :
    getSize settings key fallback = n := by
  rw [getSize, h, Option.getD_some]

end Settings

namespace ValueCheck

variable {value : String} {n least : Nat}

-- A value that is no boolean leaves the choice to the fallback.
theorem accepts_boolean_iff :
    boolean.accepts value ↔ (readBool? value).getD true = (readBool? value).getD false := by
  cases hr : readBool? value <;> simp [accepts, hr]

theorem accepts_sizeAtLeast_iff :
    (sizeAtLeast least).accepts value ↔
      ∃ n, Text.size? (Text.trimmed value) = some n ∧ least ≤ n := by
  simp [accepts, Option.any_eq_true]

-- Choices are checked like keywords are read, as their names are in lower case.
theorem accepts_oneOf_iff {all : List α} {name : α → String} (noun : String)
    (hl : ∀ a ∈ all, Text.asciiLower (name a) = name a) :
    (oneOf (all.map name)).accepts value ↔ ∃ a, readKeyword noun all name value = .ok a := by
  simp only [accepts, exists_readKeyword_iff, List.any_map, List.any_eq_true, Function.comp_apply,
    beq_iff_eq]
  refine exists_congr fun a => and_congr_right fun ha => ?_
  rw [hl a ha]

end ValueCheck

end ResourceEmbedding
