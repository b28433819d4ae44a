import ResourceEmbedding.Proofs.Segment.Boundary

namespace ResourceEmbedding

open Utf16 (ofChars)

variable {budget : Nat} {run rest units : List UInt16} {runs : List (List UInt16)} {u : UInt16}
variable {content : List UInt8} {cs : List Char} {segment : Segment}

-- A run of units that a division may have as a part: the budget allows it, and no pair is parted
-- before it.
structure Allowed (budget : Nat) (run : List UInt16) : Prop where
  within : unitsCost run ≤ budget
  whole  : ∀ u ∈ run.head?, Utf16.isLow u = false

theorem not_isLow_of_allowed (h : ∀ run ∈ runs, Allowed budget run) :
    ∀ u ∈ runs.flatten.head?, Utf16.isLow u = false := by
  induction runs
  case nil => nofun
  case cons run runs hi =>
    have ⟨ha, hr⟩ := List.forall_mem_cons.mp h
    cases run
    case nil  => exact hi hr
    case cons => exact ha.whole

theorem length_le_pieceLength (hw : unitsCost run ≤ budget)
    (hr : ∀ u ∈ rest.head?, Utf16.isLow u = false) :
    run.length ≤ pieceLength budget (run ++ rest) := by
  have ha : run.length ≤ affordable budget (run ++ rest) :=
    le_affordable (by simp) (by rwa [List.take_left])
  simp only [pieceLength]
  split
  case isFalse => exact ha
  case isTrue h =>
    rw [Bool.and_eq_true, insidePair_iff] at h
    obtain ⟨_, _, v, _, hv, _, hl⟩ := h
    -- What is affordable ends inside a pair, and so the run ends before it does.
    have hn : run.length ≠ affordable budget (run ++ rest) := by
      intro he
      rw [← he, List.getElem?_append_right (Nat.le_refl _), Nat.sub_self,
        ← List.head?_eq_getElem?] at hv
      simp [hr v hv] at hl
    omega

-- The pieces do not fall behind: if they have reached the start of a run, the next one reaches its
-- end.
theorem drop_pieceLength_suffix (ha : Allowed budget run)
    (hr : ∀ u ∈ rest.head?, Utf16.isLow u = false) (hs : units <:+ run ++ rest) :
    units.drop (pieceLength budget units) <:+ rest := by
  rcases List.suffix_or_suffix_of_suffix hs (List.suffix_append run rest) with hu | ⟨part, rfl⟩
  · exact (List.drop_suffix _ _).trans hu
  · obtain ⟨before, rfl⟩ := List.suffix_append_self_iff.mp hs
    have hc : unitsCost part ≤ budget := by
      have := ha.within
      rw [unitsCost_append] at this
      omega
    rw [List.drop_append, List.drop_eq_nil_of_le (length_le_pieceLength hc hr), List.nil_append]
    exact List.drop_suffix _ _

-- If no more is left to be cut than the runs hold, no more pieces come than there are runs.
theorem length_pieces_le (h : ∀ run ∈ runs, Allowed budget run) (hs : units <:+ runs.flatten) :
    (pieces budget units).length ≤ runs.length := by
  induction runs generalizing units
  case nil =>
    rw [List.suffix_nil.mp hs, pieces_nil]
    exact Nat.le_refl _
  case cons run runs hi =>
    have ⟨ha, hr⟩ := List.forall_mem_cons.mp h
    by_cases hn : pieceLength budget units = 0
    case pos => simp [pieces, hn]
    case neg =>
      rw [pieces_of_pos hn, List.length_cons, List.length_cons]
      exact Nat.succ_le_succ (hi hr (drop_pieceLength_suffix ha (not_isLow_of_allowed hr) hs))

theorem length_pieces_le_of_parts {α : Type} {parts : List α} {unitsOf : α → List UInt16}
    (h : ∀ part ∈ parts, Allowed budget (unitsOf part)) (hw : parts.flatMap unitsOf = units) :
    (pieces budget units).length ≤ parts.length := by
  rw [← List.length_map unitsOf]
  refine length_pieces_le (List.forall_mem_map.mpr h) ?_
  rw [← List.flatMap_def, hw]

theorem not_isLow_head_ofChars : ∀ u ∈ (ofChars cs).head?, Utf16.isLow u = false := by
  cases cs
  case nil => nofun
  case cons c cs =>
    rw [Utf16.ofChars_cons, List.head?_append_of_ne_nil _ (Utf16.ofChar_ne_nil c)]
    exact Utf16.not_isLow_head_ofChar c

-- Texts one behind the other that make up `s`, each within the budget.
structure TextDivision (budget : Nat) (s : String) (texts : List String) : Prop where
  whole  : String.join texts = s
  within : ∀ text ∈ texts, textCost text ≤ budget

structure ByteDivision (budget : Nat) (bytes : List UInt8) (runs : List (List UInt8)) : Prop where
  whole  : runs.flatten = bytes
  within : ∀ run ∈ runs, unitsCost (run.map (·.toUInt16)) ≤ budget

theorem TextDivision.length_pieces_le {s : String} {texts : List String}
    (h : TextDivision budget s texts) :
    (pieces budget (Utf16.ofString s)).length ≤ texts.length :=
  length_pieces_le_of_parts (fun text ht => ⟨h.within text ht, not_isLow_head_ofChars⟩)
    (by rw [← Utf16.ofString_join, h.whole])

theorem ByteDivision.length_pieces_le {bytes : List UInt8} {runs : List (List UInt8)}
    (h : ByteDivision budget bytes runs) :
    (pieces budget (bytes.map (·.toUInt16))).length ≤ runs.length := by
  refine length_pieces_le_of_parts (fun run hr => ⟨h.within run hr, fun u hu => ?_⟩)
    (by rw [List.flatMap_def, ← List.map_flatten, h.whole])
  exact (Utf16.plain_of_mem_bytes (List.mem_of_head? hu)).notLow

-- The texts of the segments are a division themselves, ...
theorem textDivision_of_pieces {s : String} {texts : List String}
    (h : (pieces budget (Utf16.ofString s)).map (·.toString?) = texts.map some)
    (hj : String.join texts = s) : TextDivision budget s texts where
  whole  := hj
  within := by
    intro text hm
    have hm : some text ∈ texts.map some := List.mem_map_of_mem hm
    obtain ⟨segment, hp, ht⟩ := List.mem_map.mp (h ▸ hm)
    have hf := fits_of_mem_pieces hp
    rw [textCost, ← Utf16.toString?_eq_some_iff.mp ht, ← hf.measured]
    exact hf.within

theorem map_toUInt16_toUInt8 (h : ∀ u ∈ units, u.toNat < 0x100) :
    (units.map (·.toUInt8)).map (·.toUInt16) = units := by
  rw [List.map_map]
  refine (List.map_congr_left fun u hu => ?_).trans (List.map_id units)
  simp only [id_eq, Function.comp_apply, ← UInt16.toNat_inj, UInt8.toNat_toUInt16,
    UInt16.toNat_toUInt8]
  exact Nat.mod_eq_of_lt (h u hu)

theorem toBytes?_eq_some {run : List UInt8} (h : segment.units = run.map (·.toUInt16)) :
    segment.toBytes? = some run := by
  rw [Segment.toBytes?, h]
  clear h
  induction run
  case nil => rfl
  case cons b run hi =>
    have hm : b.toUInt16 ∈ [b].map (·.toUInt16) := List.mem_singleton_self _
    have hb : b.toUInt16 < 0x100 := UInt16.lt_iff_toNat_lt.mpr (Utf16.toNat_lt_of_mem_bytes hm)
    simp [hb, hi]

-- ... and so are the bytes of the segments.
theorem exists_bytes_of_pieces (hb : leastBudget ≤ budget) (bytes : List UInt8) :
    ∃ runs : List (List UInt8),
      (pieces budget (bytes.map (·.toUInt16))).map (·.toBytes?) = runs.map some ∧
        ByteDivision budget bytes runs := by
  have hu : ∀ segment ∈ pieces budget (bytes.map (·.toUInt16)),
      (segment.units.map (·.toUInt8)).map (·.toUInt16) = segment.units := fun segment hp =>
    map_toUInt16_toUInt8 fun u hu =>
      Utf16.toNat_lt_of_mem_bytes (units_subset_of_mem_pieces hb hp hu)
  refine ⟨(pieces budget (bytes.map (·.toUInt16))).map fun s => s.units.map (·.toUInt8),
    ?exact, ?whole, ?within⟩
  case exact =>
    rw [List.map_map]
    exact List.map_congr_left fun segment hp => toBytes?_eq_some (hu segment hp).symm
  case whole =>
    rw [← List.flatMap_def, ← List.map_flatMap, flatMap_units_pieces hb, List.map_map]
    simp [Function.comp_def]
  case within =>
    intro run hr
    obtain ⟨segment, hp, rfl⟩ := List.mem_map.mp hr
    have hf := fits_of_mem_pieces hp
    rw [hu segment hp, ← hf.measured]
    exact hf.within

-- Segments divide a text or a sequence of bytes as the budget demands, and no division that does so
-- has fewer parts.
theorem segmentation_is_optimal :
    (∀ maxBytes, 6 ≤ maxBytes → ∀ s, ∃ found, splitText s maxBytes = .ok found ∧
      (∃ texts, found.map (·.toString?) = texts.map some ∧ TextDivision maxBytes s texts) ∧
      ∀ texts, TextDivision maxBytes s texts → found.length ≤ texts.length) ∧
    ∀ maxBytes, 3 ≤ maxBytes → ∀ bytes, ∃ found, splitBytes bytes maxBytes = .ok found ∧
      (∃ runs, found.map (·.toBytes?) = runs.map some ∧ ByteDivision maxBytes bytes runs) ∧
      ∀ runs, ByteDivision maxBytes bytes runs → found.length ≤ runs.length := by
  constructor
  case left =>
    intro maxBytes h₆ s
    have hb : leastBudget ≤ maxBytes := (by decide : leastBudget ≤ 6).trans h₆
    have ⟨texts, ht, hj⟩ := exists_texts_of_pieces hb (.inl h₆ : Roomy maxBytes s.toList)
    exact ⟨_, splitText_eq hb s, ⟨texts, ht, textDivision_of_pieces ht hj⟩,
      fun _ => TextDivision.length_pieces_le⟩
  case right =>
    intro maxBytes hb bytes
    exact ⟨_, splitBytes_eq hb bytes, exists_bytes_of_pieces hb bytes,
      fun _ => ByteDivision.length_pieces_le⟩

-- The pair does not fit behind the first character, nor the last two bytes behind the first two.
theorem segmentation_is_optimal_smile :
    6 ≤ 6 ∧ TextDivision 6 "é😀ab" ["é", "😀", "ab"] ∧
    (∃ found, splitText "é😀ab" 6 = .ok found ∧ found.length ≤ 3) ∧
    3 ≤ 3 ∧ ByteDivision 3 [0x61, 0x00, 0xFF, 0x62] [[0x61, 0x00], [0xFF, 0x62]] ∧
    ∃ found, splitBytes [0x61, 0x00, 0xFF, 0x62] 3 = .ok found ∧ found.length ≤ 2 := by
  have ⟨ht, hb⟩ := segmentation_is_optimal
  have hs : TextDivision 6 "é😀ab" ["é", "😀", "ab"] := ⟨by decide +kernel, by decide +kernel⟩
  have hr : ByteDivision 3 [0x61, 0x00, 0xFF, 0x62] [[0x61, 0x00], [0xFF, 0x62]] :=
    ⟨rfl, by decide +kernel⟩
  have ⟨found₁, hf₁, _, h₁⟩ := ht 6 (by decide) "é😀ab"
  have ⟨found₂, hf₂, _, h₂⟩ := hb 3 (by decide) [0x61, 0x00, 0xFF, 0x62]
  exact ⟨by decide, hs, ⟨found₁, hf₁, h₁ _ hs⟩, by decide, hr, found₂, hf₂, h₂ _ hr⟩

end ResourceEmbedding
