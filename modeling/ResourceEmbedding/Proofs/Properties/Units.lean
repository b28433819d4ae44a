import ResourceEmbedding.Proofs.Properties.Spelling

namespace ResourceEmbedding.Properties

-- A part of a value, and its units: a character that stands for itself, or an escape by number.
inductive PartSpelling : List UInt16 → List Char → Prop
  | bare   : c ≠ '\\' → c ≠ '\n' → PartSpelling (Utf16.ofChar c) [c]
  | number : UnitSpelling u raw → PartSpelling [u] raw

variable {c : Char} {u : UInt16} {units rest : List UInt16} {parts : List (List UInt16)}
variable {raw : List Char} {value : String} {s : Unescaping}

namespace Unescaping

-- Only a high surrogate waits for a partner.
def Waits (s : Unescaping) : Prop :=
  ∀ u ∈ s.high, Utf16.isHigh u

-- What the text is if `rest` are the units to come.
def outlook (s : Unescaping) (rest : List UInt16) : List Char :=
  s.done.reverse ++ Utf16.lossy (s.high.toList ++ rest)

theorem high_flush (s : Unescaping) : s.flush.high = none := by
  rw [flush]
  split
  case h_1 h => exact h
  case h_2   => rfl

theorem waits_of_none (h : s.high = none) : s.Waits := by
  rw [Waits, h]
  nofun

theorem waits_push (h : s.high = none) (u : UInt16) : (pushUnit.push s u).Waits := by
  rw [pushUnit.push]
  split_ifs with hh
  · intro v hv
    cases hv
    exact hh
  · exact waits_of_none h
  · exact waits_of_none h

theorem waits_pushUnit (s : Unescaping) (u : UInt16) : (s.pushUnit u).Waits := by
  rw [pushUnit]
  split
  case h_1 =>
    split_ifs
    · exact waits_of_none rfl
    · exact waits_push s.high_flush u
  case h_2 h => exact waits_push h u

theorem waits_pushChar (s : Unescaping) (c : Char) : (s.pushChar c).Waits :=
  waits_of_none s.high_flush

theorem outlook_flush (hs : s.Waits) (hr : ∀ v ∈ rest.head?, Utf16.isLow v = false) :
    s.flush.outlook rest = s.outlook rest := by
  rw [flush]
  split
  case h_1 => rfl
  case h_2 u hu =>
    have hl : Utf16.lossy (u :: rest) = Utf16.replacement :: Utf16.lossy rest :=
      Utf16.lossy_unpaired (.inr ⟨hs u hu, hr⟩)
    simp [outlook, hu, hl]

theorem outlook_push (h : s.high = none) (u : UInt16) (rest : List UInt16) :
    (pushUnit.push s u).outlook rest = s.outlook (u :: rest) := by
  rw [pushUnit.push]
  split_ifs with hh hl
  · simp [outlook, h]
  · simp [outlook, h, Utf16.lossy_unpaired (.inl hl)]
  · have hp : Utf16.Plain u := ⟨by simpa using hh, by simpa using hl⟩
    simp [outlook, h, Utf16.lossy_plain hp]

theorem outlook_pushUnit (hs : s.Waits) (u : UInt16) (rest : List UInt16) :
    (s.pushUnit u).outlook rest = s.outlook (u :: rest) := by
  rw [pushUnit]
  split
  case h_1 v hv =>
    split_ifs with hl
    · simp [outlook, hv, Utf16.lossy_pair (hs v hv) hl]
    · rw [outlook_push s.high_flush]
      exact outlook_flush hs (by simpa using hl)
  case h_2 h => exact outlook_push h u rest

theorem outlook_pushChar (hs : s.Waits) (c : Char) (rest : List UInt16) :
    (s.pushChar c).outlook rest = s.outlook (Utf16.ofChar c ++ rest) := by
  have hr : ∀ v ∈ (Utf16.ofChar c ++ rest).head?, Utf16.isLow v = false := by
    rw [List.head?_append_of_ne_nil _ (Utf16.ofChar_ne_nil c)]
    exact Utf16.not_isLow_head_ofChar c
  rw [← outlook_flush hs hr, outlook, outlook, s.high_flush]
  simp [pushChar, s.high_flush, Utf16.lossy_ofChar_append]

theorem finish_eq_outlook (hs : s.Waits) : s.finish = s.outlook [] := by
  rw [← outlook_flush hs (by simp), outlook, s.high_flush, finish]
  exact (List.append_nil _).symm

end Unescaping

-- The invariant of the reading is what the text will be.
theorem unescapeFrom_parts (h : Spelled PartSpelling parts raw) (hs : s.Waits) :
    unescapeFrom s raw = .ok (s.outlook parts.flatten) := by
  induction h generalizing s
  case nil => rw [unescapeFrom, Unescaping.finish_eq_outlook hs, List.flatten_nil]
  case cons units part parts rest hp _ hi =>
    rw [List.flatten_cons]
    cases hp
    case bare c hc _ =>
      have hu : unescapeFrom s ([c] ++ rest) = unescapeFrom (s.pushChar c) rest := by
        simp [unescapeFrom, hc]
      rw [hu, hi (s.waits_pushChar c), Unescaping.outlook_pushChar hs]
    case number u hu =>
      rw [hu.unescapeFrom, hi (s.waits_pushUnit u), Unescaping.outlook_pushUnit hs,
        List.singleton_append]

theorem unescape_parts (h : Spelled PartSpelling parts raw) :
    unescape raw = .ok (Utf16.lossy parts.flatten) :=
  unescapeFrom_parts h (Unescaping.waits_of_none rfl)

theorem PartSpelling.not_continues (h : PartSpelling units raw) : continues raw = false := by
  cases h
  case bare hc _ => rw [continues_cons hc]; rfl
  case number hu => exact hu.escaped.not_continues

theorem PartSpelling.ne_newline (h : PartSpelling units raw) : ∀ c ∈ raw, c ≠ '\n' := by
  cases h
  case bare hc   => simpa using hc
  case number hu => exact fun c hc => (hu.not_newline c hc).1

theorem not_continues_parts (h : Spelled PartSpelling parts raw) : continues raw = false := by
  induction h
  case nil => rfl
  case cons hp _ hi => rw [continues_append_of_not hp.not_continues, hi]

theorem entryLine_parts (h : Spelled PartSpelling parts raw) : EntryLine ('k' :: '=' :: raw) where
  unbroken := by
    have hn := h.forall_mem fun _ _ => PartSpelling.ne_newline
    simpa using fun hm => hn _ hm rfl
  notIgnored := by
    have ht : Text.trimStart ('k' :: '=' :: raw) = 'k' :: '=' :: raw :=
      List.dropWhile_cons_of_neg (by decide)
    rw [ht]
    simp [isIgnored]
  finished := by
    rw [continues_cons (by decide), continues_cons (by decide), not_continues_parts h]
    simp

-- The value behind a mark starts with its first character that is not a blank.
theorem splitEntry_value (h : ∀ c ∈ raw.head?, ¬isFormatBlank c) :
    splitEntry ('k' :: '=' :: raw) = (['k'], raw) := by
  have hd : raw.dropWhile isFormatBlank = raw := by
    rcases raw with _ | ⟨c, raw⟩
    · rfl
    · exact List.dropWhile_cons_of_neg (h c rfl)
  simp [splitEntry, splitKey, valueAfter, isMark, isFormatBlank, hd]

-- A value is the lossy reading of the units of all its parts: surrogates pair up only where two
-- escapes by number stand next to each other, the high one first.
theorem value_is_lossy_reading (h : Spelled PartSpelling parts value.toList)
    (hb : ∀ c ∈ value.toList.head?, ¬isFormatBlank c) :
    read ("k=" ++ value) = .ok (.ofList [("k", Utf16.toStringLossy parts.flatten)]) := by
  have hl : logicalLines ("k=" ++ value).toList = [⟨1, 'k' :: '=' :: value.toList⟩] := by
    rw [String.toList_append]
    exact (entryLine_parts h).logicalLines_eq
  have hk : readRaw 1 ['k'] = .ok "k" := by decide +kernel
  have hv : readRaw 1 value.toList = .ok (Utf16.toStringLossy parts.flatten) := by
    rw [readRaw, unescape_parts h]
    rfl
  have hr : readLine ⟨1, 'k' :: '=' :: value.toList⟩ =
      .ok ("k", Utf16.toStringLossy parts.flatten) := by
    rw [readLine_eq, splitEntry_value hb, hk, hv]
    rfl
  rw [read, hl, List.mapM_cons, List.mapM_nil, hr]
  rfl

-- Of the four high surrogates that are escaped, only the second one is followed by a low one.
theorem value_is_lossy_reading_reversed :
    let value := "\\uDE00\\uD83D\\ud83d\\ude00\\uD83Dx😀\\uD83D"
    read ("k=" ++ value) = .ok (.ofList [("k", "\uFFFD\uFFFD😀\uFFFDx😀\uFFFD")]) := by
  intro value
  have low₁ : PartSpelling [0xDE00] "\\uDE00".toList :=
    .number (.number (.inr rfl) (.inr rfl) (.inl rfl) (.inl rfl))
  have low₂ : PartSpelling [0xDE00] "\\ude00".toList :=
    .number (.number (.inl rfl) (.inl rfl) (.inl rfl) (.inl rfl))
  have high₁ : PartSpelling [0xD83D] "\\uD83D".toList :=
    .number (.number (.inr rfl) (.inl rfl) (.inl rfl) (.inr rfl))
  have high₂ : PartSpelling [0xD83D] "\\ud83d".toList :=
    .number (.number (.inl rfl) (.inl rfl) (.inl rfl) (.inl rfl))
  have x : PartSpelling (Utf16.ofChar 'x') ['x'] := .bare (by decide) (by decide)
  have smile : PartSpelling (Utf16.ofChar '😀') ['😀'] := .bare (by decide) (by decide)
  let parts : List (List UInt16) :=
    [[0xDE00], [0xD83D], [0xD83D], [0xDE00], [0xD83D], Utf16.ofChar 'x', Utf16.ofChar '😀', [0xD83D]]
  have h : Spelled PartSpelling parts value.toList := by
    convert Spelled.cons low₁ (.cons high₁ (.cons high₂ (.cons low₂
      (.cons high₁ (.cons x (.cons smile (.cons high₁ .nil))))))) using 1
    decide +kernel
  have hl : Utf16.toStringLossy parts.flatten = "\uFFFD\uFFFD😀\uFFFDx😀\uFFFD" := by
    decide +kernel
  have hb : value.toList.head? = some '\\' := by decide +kernel
  rw [← hl]
  exact value_is_lossy_reading h (by simp [hb, isFormatBlank])

end ResourceEmbedding.Properties
