import ResourceEmbedding.Proofs.Segment.Splitter

namespace ResourceEmbedding

open Utf16 (ofChars)

variable {budget n : Nat} {u v : UInt16} {units before : List UInt16} {c : Char} {cs : List Char}

-- A cut after `n` units of `cs` has whole characters at both sides.
def Boundary (cs : List Char) (n : Nat) : Prop :=
  ∃ cs₁ cs₂, cs = cs₁ ++ cs₂ ∧ n = (ofChars cs₁).length

theorem Boundary.zero : Boundary cs 0 :=
  ⟨[], cs, rfl, rfl⟩

theorem Boundary.cons (h : Boundary cs n) : Boundary (c :: cs) ((Utf16.ofChar c).length + n) := by
  have ⟨cs₁, cs₂, hc, hn⟩ := h
  exact ⟨c :: cs₁, cs₂, by simp [hc], by simp [hn, Utf16.ofChars_cons]⟩

theorem insidePair_iff :
    insidePair units n ↔
      ∃ u v, units[n - 1]? = some u ∧ units[n]? = some v ∧ Utf16.isHigh u ∧ Utf16.isLow v := by
  simp only [insidePair, Bool.and_eq_true, Option.any_eq_true]
  constructor
  case mp =>
    rintro ⟨⟨u, hu, hh⟩, v, hv, hl⟩
    exact ⟨u, v, hu, hv, hh, hl⟩
  case mpr =>
    rintro ⟨u, v, hu, hv, hh, hl⟩
    exact ⟨⟨u, hu, hh⟩, v, hv, hl⟩

theorem pos_of_insidePair (h : insidePair units n) : 0 < n := by
  have ⟨u, v, hu, hv, hh, hl⟩ := insidePair_iff.mp h
  by_contra hn
  have : n = 0 := by omega
  subst this
  have := Utf16.not_isHigh_of_isLow hl
  simp_all

theorem insidePair_append (h : insidePair units n) :
    insidePair (before ++ units) (before.length + n) := by
  have ⟨u, v, hu, hv, hh, hl⟩ := insidePair_iff.mp h
  have hn := pos_of_insidePair h
  refine insidePair_iff.mpr ⟨u, v, ?_, ?_, hh, hl⟩
  · rw [List.getElem?_append_right (by omega), ← hu]
    congr 1
    omega
  · rw [List.getElem?_append_right (by omega), ← hv]
    congr 1
    omega

theorem boundary_or_insidePair (h : n ≤ (ofChars cs).length) :
    Boundary cs n ∨ insidePair (ofChars cs) n := by
  induction cs generalizing n
  case nil =>
    have : n = 0 := by simpa [ofChars] using h
    exact .inl (this ▸ .zero)
  case cons c cs hi =>
    rw [Utf16.ofChars_cons, List.length_append] at h
    by_cases hn : (Utf16.ofChar c).length ≤ n
    case pos =>
      obtain ⟨m, rfl⟩ := Nat.exists_eq_add_of_le hn
      cases hi (by omega : m ≤ _)
      case inl hb => exact .inl hb.cons
      case inr hp => exact .inr (Utf16.ofChars_cons ▸ insidePair_append hp)
    case neg =>
      by_cases hc : c.toNat < 0x10000
      case pos =>
        obtain ⟨u, hc, _⟩ := Utf16.ofChar_plain hc
        have : n = 0 := by simp [hc] at hn; omega
        exact .inl (this ▸ .zero)
      case neg =>
        obtain ⟨u, v, hc, hu, hv, _⟩ := Utf16.ofChar_pair hc
        rcases (by simp [hc] at hn; omega : n = 0 ∨ n = 1) with hn | hn
        · exact .inl (hn ▸ .zero)
        · exact .inr (by simp [hn, Utf16.ofChars_cons, hc, insidePair, hu, hv])

theorem plain_of_mem_ofChars (h : ∀ c ∈ cs, c.toNat < 0x10000) (hu : u ∈ ofChars cs) :
    Utf16.Plain u := by
  have ⟨c, hc, hm⟩ := List.mem_flatMap.mp hu
  have ⟨w, hw, _, hp⟩ := Utf16.ofChar_plain (h c hc)
  have : u = w := by simpa [hw] using hm
  exact this ▸ hp

-- The budget holds every character of the text.
def Roomy (budget : Nat) (cs : List Char) : Prop :=
  6 ≤ budget ∨ ∀ c ∈ cs, c.toNat < 0x10000

theorem Roomy.of_append {cs₁ cs₂ : List Char} (h : Roomy budget (cs₁ ++ cs₂)) : Roomy budget cs₂ :=
  h.imp_right fun h _ hc => h _ (List.mem_append_right _ hc)

theorem unitsCost_two (hu : Utf16.isHigh u) (hv : Utf16.isLow v) : unitsCost [u, v] = 6 := by
  have hu : ¬Utf16.Plain u := fun hp => by simp [hp.notHigh] at hu
  have hv : ¬Utf16.Plain v := fun hp => by simp [hp.notLow] at hv
  rw [unitsCost_cons, unitsCost_cons, unitsCost_nil, unitCost_of_not_plain hu,
    unitCost_of_not_plain hv]

-- A piece ends at a boundary: inside a pair it gives back the first half, and it has more than that
-- half if the budget holds the pair.
theorem boundary_pieceLength (h : Roomy budget cs) :
    Boundary cs (pieceLength budget (ofChars cs)) := by
  have hl := @affordable_le_length budget (ofChars cs)
  cases hp : insidePair (ofChars cs) (affordable budget (ofChars cs))
  case false =>
    have hn : pieceLength budget (ofChars cs) = affordable budget (ofChars cs) := by
      simp [pieceLength, hp]
    rw [hn]
    exact (boundary_or_insidePair hl).resolve_right (by simp [hp])
  case true =>
    obtain ⟨u, v, hu, hv, hh, hlow⟩ := insidePair_iff.mp hp
    have hs : 6 ≤ budget := by
      refine h.resolve_right fun hc => ?_
      have := (plain_of_mem_ofChars hc (List.mem_of_getElem? hu)).notHigh
      simp_all
    have ha : 1 < affordable budget (ofChars cs) := by
      by_contra hn
      have hn : affordable budget (ofChars cs) = 1 := by have := pos_of_insidePair hp; omega
      rw [hn] at hu hv
      have ht : (ofChars cs).take 2 = [u, v] := by
        rw [List.take_add_one, List.take_add_one]
        simp_all
      have h₂ : 2 ≤ (ofChars cs).length := by
        have := congrArg List.length ht
        simp at this
        omega
      have hc : unitsCost ((ofChars cs).take 2) ≤ budget := by
        rw [ht, unitsCost_two hh hlow]
        exact hs
      have := le_affordable h₂ hc
      omega
    have hn : pieceLength budget (ofChars cs) = affordable budget (ofChars cs) - 1 := by
      simp [pieceLength, hp, ha]
    rw [hn]
    refine (boundary_or_insidePair (by omega)).resolve_right fun hq => ?_
    obtain ⟨_, w, _, hw, _, hwl⟩ := insidePair_iff.mp hq
    have : u = w := by simpa [hu] using hw
    have := Utf16.not_isHigh_of_isLow (this ▸ hwl)
    simp_all

-- The pieces of a text are texts, one behind the other.
theorem exists_texts_of_roomy (hb : leastBudget ≤ budget) (h : Roomy budget cs) :
    ∃ css : List (List Char),
      pieces budget (ofChars cs) = css.map (fun cs => .ofUnits (ofChars cs)) ∧ css.flatten = cs := by
  generalize hu : ofChars cs = units
  induction units using pieces.induct budget generalizing cs
  case case1 units hn =>
    have he : units = [] := by
      by_contra he
      exact (pieceLength_pos hb he).ne' hn
    have : cs = [] := Utf16.ofChars_inj (hu.trans he)
    exact ⟨[], by simp [he, pieces_nil], by simp [this]⟩
  case case2 units hn hi =>
    obtain ⟨cs₁, cs₂, hc, hl⟩ := boundary_pieceLength h
    rw [hu] at hl
    have hs : ofChars cs₁ ++ ofChars cs₂ = units := by rw [← hu, hc, Utf16.ofChars_append]
    have ht : units.take (pieceLength budget units) = ofChars cs₁ := by
      rw [hl, ← hs, List.take_left]
    have hd : units.drop (pieceLength budget units) = ofChars cs₂ := by
      rw [hl, ← hs, List.drop_left]
    obtain ⟨css, hp, hf⟩ := hi (hc ▸ h).of_append hd.symm
    exact ⟨cs₁ :: css, by rw [pieces_of_pos hn, ht, hp, List.map_cons], by simp [hf, hc]⟩

theorem unitsCost_le_of_mem (h : c ∈ cs) : unitsCost (Utf16.ofChar c) ≤ unitsCost (ofChars cs) := by
  obtain ⟨cs₁, cs₂, rfl⟩ := List.append_of_mem h
  simp only [Utf16.ofChars_append, Utf16.ofChars_cons, unitsCost_append]
  omega

-- Conversely, a piece that is a text holds whole characters, and so the budget does.
theorem roomy_of_texts (hb : leastBudget ≤ budget) {css : List (List Char)}
    (h : (pieces budget (ofChars cs)).map (·.units) = css.map ofChars) : Roomy budget cs := by
  have hj : ofChars cs = ofChars css.flatten := by
    have hf := flatMap_units_pieces hb (ofChars cs)
    rw [List.flatMap_def, h] at hf
    rw [← hf, Utf16.ofChars_flatten]
  have hj := Utf16.ofChars_inj hj
  by_contra hn
  simp only [Roomy, not_or, not_forall] at hn
  have ⟨hl, c, hc, hs⟩ := hn
  have ⟨cs₁, hm, hc₁⟩ := List.mem_flatten.mp (hj ▸ hc)
  have ⟨segment, hp, hu⟩ := List.mem_map.mp (h ▸ List.mem_map_of_mem hm : ofChars cs₁ ∈ _)
  have hf := fits_of_mem_pieces hp
  have ⟨u, v, hc₂, huh, hvl, _⟩ := Utf16.ofChar_pair hs
  have h₁ := unitsCost_le_of_mem hc₁
  rw [hc₂, unitsCost_two huh hvl, ← hu, ← hf.measured] at h₁
  have := hf.within
  omega

theorem exists_texts_of_pieces {s : String} (hb : leastBudget ≤ budget)
    (h : Roomy budget s.toList) :
    ∃ texts, (pieces budget (Utf16.ofString s)).map (·.toString?) = texts.map some ∧
      String.join texts = s := by
  have ⟨css, hp, hf⟩ := exists_texts_of_roomy hb h
  refine ⟨css.map .ofList, ?_, ?_⟩
  · rw [Utf16.ofString, hp]
    simp only [List.map_map]
    refine List.map_congr_left fun cs _ => ?_
    simp [Segment.toString?, Segment.ofUnits, Utf16.toString?_eq_some_iff, Utf16.ofString]
  · rw [← String.toList_inj, String.toList_join, ← hf, List.flatMap_map]
    simp [List.flatMap_def]

theorem map_units_of_texts {segments : List Segment} {texts : List String}
    (h : segments.map (·.toString?) = texts.map some) :
    segments.map (·.units) = (texts.map String.toList).map ofChars := by
  induction segments generalizing texts <;> cases texts
  case nil.nil => rfl
  case cons.cons segment segments hi text texts =>
    simp only [List.map_cons, List.cons.injEq] at h ⊢
    exact ⟨Utf16.toString?_eq_some_iff.mp h.1, hi h.2⟩
  all_goals contradiction

theorem roomy_of_exists_texts {s : String} {texts : List String} (hb : leastBudget ≤ budget)
    (h : (pieces budget (Utf16.ofString s)).map (·.toString?) = texts.map some) :
    Roomy budget s.toList :=
  roomy_of_texts hb (map_units_of_texts h)

theorem exists_texts_iff {segments : List Segment} :
    (∃ texts : List String, segments.map (·.toString?) = texts.map some) ↔
      ∀ segment ∈ segments, segment.toString?.isSome := by
  induction segments
  case nil => exact iff_of_true ⟨[], rfl⟩ nofun
  case cons segment segments hi =>
    rw [List.forall_mem_cons, ← hi, Option.isSome_iff_exists]
    constructor
    case mp =>
      intro ⟨texts, h⟩
      obtain ⟨text, texts, rfl, ht, h⟩ := List.map_eq_cons_iff.mp h.symm
      exact ⟨⟨text, ht.symm⟩, texts, h.symm⟩
    case mpr =>
      intro ⟨⟨text, ht⟩, texts, h⟩
      exact ⟨text :: texts, by rw [List.map_cons, ht, h, List.map_cons]⟩

theorem boundary_of_texts {before after : List Segment} {segment : Segment} {texts : List String}
    (h : (before ++ segment :: after).map (·.toString?) = texts.map some) :
    Boundary (String.join texts).toList (before.flatMap (·.units)).length ∧
      ∃ text start rest, segment.toString? = some text ∧
        String.join texts = start ++ text ++ rest := by
  rw [List.map_append, List.map_cons] at h
  obtain ⟨starts, texts, rfl, hs, h⟩ := List.map_eq_append_iff.mp h.symm
  obtain ⟨text, rests, rfl, ht, _⟩ := List.map_eq_cons_iff.mp h
  refine ⟨⟨starts.flatMap String.toList, (text :: rests).flatMap String.toList, ?_, ?_⟩,
    text, String.join starts, String.join rests, ht.symm, ?_⟩
  · rw [String.toList_join, List.flatMap_append]
  · rw [List.flatMap_def, map_units_of_texts hs.symm, ← Utf16.ofChars_flatten, List.flatMap_def]
  · simp [← String.toList_inj, String.toList_join]

-- The segments of a text are texts if and only if the budget holds every character, and then no cut
-- parts a character.
theorem segments_are_texts_iff {maxBytes : Nat} (hb : 3 ≤ maxBytes) (s : String) :
    ∃ found, splitText s maxBytes = .ok found ∧
      ((∀ segment ∈ found, segment.toString?.isSome) ↔ Roomy maxBytes s.toList) ∧
      (Roomy maxBytes s.toList → ∀ before segment after, found = before ++ segment :: after →
        Boundary s.toList (before.flatMap (·.units)).length ∧
          ∃ text start rest, segment.toString? = some text ∧ s = start ++ text ++ rest) := by
  refine ⟨_, splitText_eq hb s, ?texts, ?cuts⟩
  case texts =>
    rw [← exists_texts_iff]
    constructor
    case mp =>
      intro ⟨_, h⟩
      exact roomy_of_exists_texts hb h
    case mpr =>
      intro h
      have ⟨texts, ht, _⟩ := exists_texts_of_pieces hb h
      exact ⟨texts, ht⟩
  case cuts =>
    intro h before segment after hp
    have ⟨texts, ht, hj⟩ := exists_texts_of_pieces hb h
    exact hj ▸ boundary_of_texts (hp ▸ ht)

-- At six bytes a pair goes into the next segment; at five it is cut.
theorem segments_are_texts_iff_smile :
    3 ≤ 6 ∧ 3 ≤ 5 ∧ Roomy 6 "ab😀".toList ∧
    splitText "ab😀" 6 = .ok [⟨[0x61, 0x62], 2⟩, ⟨[0xD83D, 0xDE00], 6⟩] ∧
    Boundary "ab😀".toList 2 ∧
    ∃ found, splitText "ab😀" 5 = .ok found ∧ ¬∀ segment ∈ found, segment.toString?.isSome := by
  have hr : Roomy 6 "ab😀".toList := .inl (by decide)
  have hs : splitText "ab😀" 6 = .ok [⟨[0x61, 0x62], 2⟩, ⟨[0xD83D, 0xDE00], 6⟩] := by
    decide +kernel
  have ⟨found₁, hf₁, _, hc⟩ := segments_are_texts_iff (by decide : 3 ≤ 6) "ab😀"
  have ⟨found₂, hf₂, h₂, _⟩ := segments_are_texts_iff (by decide : 3 ≤ 5) "ab😀"
  have hp : found₁ = [⟨[0x61, 0x62], 2⟩] ++ [⟨[0xD83D, 0xDE00], 6⟩] :=
    Except.ok.inj (hf₁.symm.trans hs)
  refine ⟨by decide, by decide, hr, hs, (hc hr _ _ _ hp).1, found₂, hf₂, ?_⟩
  rw [h₂]
  intro hr
  cases hr
  case inl h => exact absurd h (by decide)
  case inr h => exact absurd (h '😀' (by simp)) (by decide)

end ResourceEmbedding
