import ResourceEmbedding.Proofs.Symbol.Words

namespace ResourceEmbedding

namespace Words

variable {word digits letters : List Char} {words : List (List Char)} {spelling : Spelling}

def IsWord (word : List Char) : Prop :=
  ∃ letters digits, word = letters ++ digits ∧ 2 ≤ letters.length ∧ (∀ c ∈ letters, c.isLower) ∧
    ∀ c ∈ digits, c.isDigit

-- Two characters, one somewhere behind the other, that no boundary of words can lie between.
def Steady (p c : Char) : Prop :=
  (p.isDigit → c.isDigit) ∧ ¬(p.isLower ∧ c.isUpper)

theorem isBoundary_iff {p c : Char} (hp : p.isAlphanum) (hc : c.isAlphanum) :
    isBoundary p c ↔ ¬Steady p c := by
  have hp := Text.isAscii_of_isAlphanum hp
  have hc := Text.isAscii_of_isAlphanum hc
  simp only [isBoundary, Text.isLowercase_of_isAscii hp, Text.isUppercase_of_isAscii hc,
    Text.isNumeric_of_isAscii hp, Text.isNumeric_of_isAscii hc, Steady]
  grind

theorem unbroken_of_steady (hn : word ≠ []) (hp : Plain word) (hs : word.Pairwise Steady) :
    Unbroken word := by
  refine ⟨hn, hp.notMem_underscore, (hs.imp_of_mem fun hm hc h => ?_).isChain⟩
  rw [isBoundary_iff (hp _ hm) (hp _ hc)]
  exact not_not_intro h

theorem isLower_or_isDigit (h : IsWord word) : ∀ c ∈ word, c.isLower ∨ c.isDigit := by
  intro c hc
  obtain ⟨letters, digits, rfl, _, hl, hd⟩ := h
  exact (List.mem_append.mp hc).imp (hl c) (hd c)

theorem IsWord.plain (h : IsWord word) : Plain word := by
  intro c hc
  rw [Char.isAlphanum, Char.isAlpha]
  rcases isLower_or_isDigit h c hc with hl | hd
  · simp [hl]
  · simp [hd]

theorem IsWord.pairwise (h : IsWord word) : word.Pairwise fun p c => p.isDigit → c.isDigit := by
  obtain ⟨letters, digits, rfl, _, hl, hd⟩ := h
  have hn : ∀ p ∈ letters, ¬p.isDigit := fun p hp => by
    simp [Text.not_isDigit_of_isAlpha (by simp [Char.isAlpha, hl p hp] : p.isAlpha)]
  refine List.pairwise_append.mpr ⟨?_, ?_, fun p hp _ _ hd => absurd hd (hn p hp)⟩
  case refine_1 =>
    exact List.pairwise_of_forall_mem_list fun p hp _ _ hd => absurd hd (hn p hp)
  case refine_2 =>
    exact List.pairwise_of_forall_mem_list fun _ _ c hc _ => hd c hc

theorem isUpper_toUpper_of_isLower {c : Char} (h : c.isLower) : c.toUpper.isUpper := by
  rw [Char.isUpper_toUpper_eq_isAlpha, Char.isAlpha, h, Bool.or_true]

theorem not_isUpper_of_isLower_or {c : Char} (h : c.isLower ∨ c.isDigit) : ¬c.isUpper := by
  intro hu
  rcases h with hl | hd
  · exact Char.not_isLower_of_isUpper hu hl
  · have hn := Text.not_isDigit_of_isAlpha (by simp [Char.isAlpha, hu] : c.isAlpha)
    simp [hn] at hd

theorem toLower_of_isLower_or {c : Char} (h : c.isLower ∨ c.isDigit) : c.toLower = c :=
  Char.toLower_eq_of_not_isUpper (not_isUpper_of_isLower_or h)

theorem IsWord.map_toLower (h : IsWord word) : word.map Char.toLower = word :=
  (List.map_congr_left fun c hc => toLower_of_isLower_or (isLower_or_isDigit h c hc)).trans
    (List.map_id word)

theorem IsWord.exists_ends (h : IsWord word) :
    ∃ c rest p, word = c :: rest ∧ c.isLower ∧ p ∈ rest.getLast? ∧ (p.isLower ∨ p.isDigit) := by
  have he := isLower_or_isDigit h
  obtain ⟨letters, digits, rfl, hn, hl, _⟩ := h
  match letters with
  | c :: d :: letters =>
    have ⟨p, hp⟩ := Option.isSome_iff_exists.mp
      (List.getLast?_isSome.mpr (List.cons_ne_nil d (letters ++ digits)))
    exact ⟨c, d :: (letters ++ digits), p, rfl, hl c List.mem_cons_self, hp,
      he p (List.mem_cons_of_mem c (List.mem_of_getLast? hp))⟩

theorem IsWord.ne_nil (h : IsWord word) : word ≠ [] := by
  have ⟨c, rest, _, hw, _⟩ := h.exists_ends
  exact hw ▸ List.cons_ne_nil c rest

theorem IsWord.unbroken (h : IsWord word) : Unbroken word := by
  refine unbroken_of_steady h.ne_nil h.plain (h.pairwise.imp_of_mem fun _ hc hd => ⟨hd, ?_⟩)
  exact fun ⟨_, hu⟩ => not_isUpper_of_isLower_or (isLower_or_isDigit h _ hc) hu

theorem IsWord.unbroken_upper (h : IsWord word) : Unbroken (word.map Char.toUpper) := by
  refine unbroken_of_steady (by simpa using h.ne_nil) (h.plain.map Text.isAlphanum_toUpper) ?_
  refine List.pairwise_map.mpr (h.pairwise.imp fun hd => ⟨?_, by simp⟩)
  rwa [Text.isDigit_toUpper, Text.isDigit_toUpper]

theorem IsWord.unbroken_capital (h : IsWord word) : Unbroken (Text.capital word) := by
  have hs := h.pairwise
  have he := isLower_or_isDigit h
  have hp := h.plain.capital
  obtain ⟨c, rest, _, rfl, hc, _⟩ := h.exists_ends
  refine unbroken_of_steady (List.cons_ne_nil _ _) hp (List.pairwise_cons.mpr ⟨?_, ?_⟩)
  case refine_1 =>
    intro d _
    have hn : c.isDigit = false := Text.not_isDigit_of_isAlpha (by simp [Char.isAlpha, hc])
    exact ⟨by simp [Text.isDigit_toUpper, hn], by simp⟩
  case refine_2 =>
    refine (List.pairwise_cons.mp hs).2.imp_of_mem fun _ hd hi => ⟨hi, ?_⟩
    exact fun ⟨_, hu⟩ => not_isUpper_of_isLower_or (he _ (List.mem_cons_of_mem c hd)) hu

-- A capital ends the word before it.
theorem isBoundary_of_isUpper {p c : Char} (hp : p.isLower ∨ p.isDigit) (hc : c.isUpper) :
    isBoundary p c := by
  have ha : c.isAlpha := by simp [Char.isAlpha, hc]
  have hd := Text.not_isDigit_of_isAlpha ha
  rw [isBoundary_iff (by rcases hp with hp | hp <;> simp [Char.isAlphanum, Char.isAlpha, hp])
    (by simp [Char.isAlphanum, ha]), Steady]
  rcases hp with hp | hp
  · simp [hp, hc]
  · simp [hp, hd]

theorem IsWord.apart_capital {next : List Char} (h : IsWord word) (hn : IsWord next) :
    Apart word (Text.capital next) ∧ Apart (Text.capital word) (Text.capital next) := by
  obtain ⟨c, rest, p, rfl, _, hl, hp⟩ := h.exists_ends
  obtain ⟨d, tail, _, rfl, hd, _⟩ := hn.exists_ends
  have hb := isBoundary_of_isUpper hp (isUpper_toUpper_of_isLower hd)
  have hr (e : Char) : p ∈ (e :: rest).getLast? := by
    cases rest
    case nil  => cases hl
    case cons => rwa [List.getLast?_cons_cons]
  exact ⟨⟨p, hr c, d.toUpper, rfl, hb⟩, ⟨p, hr c.toUpper, d.toUpper, rfl, hb⟩⟩

theorem lower_eq_self (hw : ∀ w ∈ words, IsWord w) : lower words = words :=
  (List.map_congr_left fun w h => (hw w h).map_toLower).trans (List.map_id words)

theorem lower_map_toUpper (words : List (List Char)) :
    lower (words.map (·.map Char.toUpper)) = lower words := by
  simp only [lower, List.map_map, Function.comp_def, Char.toLower_toUpper_eq_toLower]

theorem lower_lower (words : List (List Char)) : lower (lower words) = lower words := by
  simp only [lower, List.map_map, Function.comp_def, Char.toLower_toLower_eq_toLower]

theorem lower_map_capital (words : List (List Char)) :
    lower (words.map Text.capital) = lower words := by
  simp only [lower, List.map_map, Function.comp_def, Text.map_toLower_capital]

theorem pairwise_map_capital (hw : ∀ w ∈ words, IsWord w) :
    (words.map Text.capital).Pairwise Apart :=
  List.pairwise_map.mpr (List.pairwise_of_forall_mem_list fun v hv w hm =>
    ((hw v hv).apart_capital (hw w hm)).2)

theorem unbroken_of_mem_map_capital (hw : ∀ w ∈ words, IsWord w) :
    ∀ v ∈ words.map Text.capital, Unbroken v := by
  intro v hv
  obtain ⟨w, hm, rfl⟩ := List.mem_map.mp hv
  exact (hw w hm).unbroken_capital

-- However words are spelled, they are found again.
theorem lower_split_write (hs : spelling ≠ .dashed) (hw : ∀ w ∈ words, IsWord w) :
    lower (split (spelling.write words)) = words := by
  cases spelling
  case dashed => exact absurd rfl hs
  case underscored =>
    rw [Spelling.write, split_intercalate fun w h => (hw w h).unbroken, lower_eq_self hw]
  case shouted =>
    have hu : ∀ v ∈ words.map (·.map Char.toUpper), Unbroken v := by
      intro v hv
      obtain ⟨w, hm, rfl⟩ := List.mem_map.mp hv
      exact (hw w hm).unbroken_upper
    rw [Spelling.write, split_intercalate hu, lower_map_toUpper, lower_eq_self hw]
  case humped =>
    cases words
    case nil => rfl
    case cons first rest =>
      obtain ⟨hf, hr⟩ := List.forall_mem_cons.mp hw
      have ha : ∀ v ∈ rest.map Text.capital, Apart first v := by
        intro v hv
        obtain ⟨w, hm, rfl⟩ := List.mem_map.mp hv
        exact (hf.apart_capital (hr w hm)).1
      have hc := (List.pairwise_cons.mpr ⟨ha, pairwise_map_capital hr⟩).isChain
      have hu := List.forall_mem_cons.mpr ⟨hf.unbroken, unbroken_of_mem_map_capital hr⟩
      rw [Spelling.write, List.flatMap_def, ← List.flatten_cons, split_flatten hu hc, lower,
        List.map_cons, hf.map_toLower, ← lower, lower_map_capital, lower_eq_self hr]
  case capitalised =>
    rw [Spelling.write, List.flatMap_def, split_flatten (unbroken_of_mem_map_capital hw)
      (pairwise_map_capital hw).isChain, lower_map_capital, lower_eq_self hw]

theorem map_intercalate (f : Char → Char) (sep : List Char) (words : List (List Char)) :
    (sep.intercalate words).map f = (sep.map f).intercalate (words.map (·.map f)) := by
  induction words
  case nil => simp
  case cons word words hi =>
    cases words
    case nil => simp
    case cons next words =>
      rw [List.intercalate_cons_cons, List.map_append, List.map_append, hi]
      simp [List.intercalate_cons_cons]

end Words

namespace IdentifierRules

open Words

variable {word : List Char} {words : List (List Char)} {spelling : Spelling}

-- No reserved word ends with a filler, but for the filler itself.
theorem not_isReserved_rust_append (hn : word ≠ []) : ¬rust.isReserved (word ++ [filler]) := by
  intro h
  have hf : ∀ r ∈ rust.reserved, r.toList.getLast? = some filler → r.toList.length = 1 := by
    decide +kernel
  have hl := hf _ (isReserved_iff.mp h)
  rw [String.toList_ofList, List.getLast?_append, List.length_append] at hl
  exact hn (List.length_eq_zero_iff.mp (by simpa using hl))

theorem unreserve_rust (hn : word ≠ []) :
    rust.unreserve word = if rust.isReserved word then word ++ [filler] else word := by
  by_cases h : rust.isReserved word
  case neg => rw [unreserve_of_not_isReserved h, if_neg h]
  case pos =>
    have ⟨hr, hk⟩ := fillersNeeded_spec rust word
    have hp : rust.fillersNeeded word ≠ 0 := fun h₀ => hr (by simpa [h₀] using h)
    have hl : ¬1 < rust.fillersNeeded word := fun h₁ => not_isReserved_rust_append hn (hk 1 h₁)
    have h₁ : rust.fillersNeeded word = 1 := by omega
    simp [unreserve, h, h₁]

-- A text that opens legally is made legal character by character.
theorem legalize_rust {c : Char} (hc : c ∈ word.head?) (hs : rust.isStart c) :
    rust.legalize word = word.map fun d => if rust.isContinue d then d else filler := by
  obtain ⟨rest, rfl⟩ := List.head?_eq_some_iff.mp hc
  rw [legalize, List.map_cons, if_pos hs, if_pos (isContinue_of_isStart_rust hs)]

theorem exists_isStart_write (hn : words ≠ []) (hw : ∀ w ∈ words, IsWord w) (spelling : Spelling) :
    ∃ c ∈ (spelling.write words).head?, rust.isStart c := by
  obtain ⟨first, rest, rfl⟩ := List.exists_cons_of_ne_nil hn
  obtain ⟨c, word, _, rfl, hc, _⟩ := (hw first List.mem_cons_self).exists_ends
  have ⟨d, tail, ht, hd⟩ := exists_write_cons spelling c word rest
  have ha : c.isAlpha := by simp [Char.isAlpha, hc]
  refine ⟨d, by rw [ht]; rfl, isStart_rust_iff.mpr (.inl ?_)⟩
  rcases hd with rfl | rfl
  · exact ha
  · rwa [Char.isAlpha_toUpper_eq_isAlpha]

-- Dashes become underscores, and all else is legal.
def sanitized : Spelling → Spelling
  | .dashed => .underscored
  | spelling => spelling

theorem legalize_write (hn : words ≠ []) (hw : ∀ w ∈ words, IsWord w) (spelling : Spelling) :
    rust.legalize (spelling.write words) = (sanitized spelling).write words := by
  have ⟨_, hc, hs⟩ := exists_isStart_write hn hw spelling
  rw [legalize_rust hc hs]
  have hk {v : List Char} (hv : ∀ c ∈ v, rust.isContinue c) :
      (v.map fun c => if rust.isContinue c then c else filler) = v :=
    (List.map_congr_left fun c hc => if_pos (hv c hc)).trans (List.map_id v)
  have hp : ∀ w ∈ words, Plain w := fun w h => (hw w h).plain
  have hl (hs : spelling ≠ .dashed) : ∀ c ∈ spelling.write words, rust.isContinue c :=
    fun c hc => isContinue_rust_iff.mpr (alphanum_or_of_mem_write hs hp hc)
  cases spelling
  case dashed =>
    rw [Spelling.write, map_intercalate]
    have hm : words.map (·.map fun c => if rust.isContinue c then c else filler) = words :=
      (List.map_congr_left fun w h => hk fun c hc =>
        isContinue_rust_iff.mpr (.inl (hp w h c hc))).trans (List.map_id words)
    rw [hm]
    rfl
  all_goals exact hk (hl (by decide))

theorem write_ne_nil (hn : words ≠ []) (hw : ∀ w ∈ words, IsWord w) (spelling : Spelling) :
    spelling.write words ≠ [] := by
  have ⟨c, hc, _⟩ := exists_isStart_write hn hw spelling
  exact List.ne_nil_of_mem (List.mem_of_mem_head? hc)

-- The base that a spelling is sanitized to is cut into its words.
theorem lower_split_sanitizeChars (hn : words ≠ []) (hw : ∀ w ∈ words, IsWord w)
    (spelling : Spelling) : lower (split (rust.sanitizeChars (spelling.write words))) = words := by
  have hs : sanitized spelling ≠ .dashed := by cases spelling <;> decide
  rw [sanitizeChars, unreserve, legalize_write hn hw, split, filler, splitFrom_append_replicate,
    ← split, lower_split_write hs hw]

end IdentifierRules

namespace Namer

open Words IdentifierRules

variable {words : List (List Char)} {target : Spelling}

-- A spelling with an underscore behind it if it is a reserved word.
def marked (symbol : List Char) : String :=
  if String.ofList symbol ∈ rust.reserved then .ofList (symbol ++ ['_']) else .ofList symbol

theorem symbol_write {join : List (List Char) → List Char} (ht : target ≠ .dashed)
    (hj : ∀ words, (∀ w ∈ words, Plain w) → join words = target.write (lower words))
    (hn : words ≠ []) (hw : ∀ w ∈ words, IsWord w) (spelling : Spelling) :
    (ofStrategy .case).symbol join (.ofList (spelling.write words)) =
      marked (target.write words) := by
  let base := spelling.write words
  have hl : lower (split (rust.sanitizeChars base)) = words :=
    lower_split_sanitizeChars hn hw spelling
  have he : split (rust.sanitizeChars base) ≠ [] := fun he => hn (by rw [← hl, he]; rfl)
  have hm : (ofStrategy .case).symbol join (.ofList base) =
      if (split (rust.sanitizeChars base)).isEmpty then rust.sanitize (.ofList base)
      else .ofList (rust.sanitizeChars (join (split (rust.sanitizeChars base)))) := by
    rw [symbol_case, String.toList_ofList]
  have hs : sanitized target = target := by
    cases target
    case dashed => exact absurd rfl ht
    all_goals rfl
  rw [hm, if_neg (by simpa using he), hj _ fun _ => plain_of_mem_split, hl, sanitizeChars,
    legalize_write hn hw, hs, unreserve_rust (write_ne_nil hn hw target), marked]
  simp only [isReserved_iff]
  split <;> rfl

-- Words in lower case, each of two letters or more and any number of digits, have the same symbols
-- in all spellings: they are themselves spellings of the words, except that a reserved word gets an
-- underscore appended.
theorem symbols_of_any_spelling (hn : words ≠ []) (hw : ∀ w ∈ words, IsWord w)
    (spelling : Spelling) :
    let namer := ofStrategy .case
    let base := String.ofList (spelling.write words)
    namer.constantName base = marked (Spelling.shouted.write words) ∧
    namer.typeName base = marked (Spelling.capitalised.write words) ∧
    namer.memberName base = marked (Spelling.humped.write words) :=
  ⟨symbol_write (by decide) (fun _ => shouted_eq) hn hw spelling,
    symbol_write (by decide) (fun _ => capitalised_eq) hn hw spelling,
    symbol_write (by decide) (fun _ => humped_eq) hn hw spelling⟩

-- One word, which is reserved as it is and capitalised.
theorem symbols_of_any_spelling_self :
    let words := [['s', 'e', 'l', 'f']]
    let namer := ofStrategy .case
    words ≠ [] ∧ (∀ w ∈ words, IsWord w) ∧
    String.ofList (Spelling.capitalised.write words) = "Self" ∧
    namer.constantName "Self" = "SELF" ∧ namer.typeName "Self" = "Self_" ∧
      namer.memberName "Self" = "self_" := by
  intro words namer
  have hn : words ≠ [] := List.cons_ne_nil _ _
  have hl : ∀ c ∈ ['s', 'e', 'l', 'f'], c.isLower := List.all_eq_true.mp rfl
  have hw : ∀ w ∈ words, IsWord w :=
    List.forall_mem_singleton.mpr ⟨_, [], (List.append_nil _).symm, by decide, hl, nofun⟩
  have hb : String.ofList (Spelling.capitalised.write words) = "Self" := by decide +kernel
  have h₁ : marked (Spelling.shouted.write words) = "SELF" := by decide +kernel
  have h₂ : marked (Spelling.capitalised.write words) = "Self_" := by decide +kernel
  have h₃ : marked (Spelling.humped.write words) = "self_" := by decide +kernel
  have hs := symbols_of_any_spelling hn hw .capitalised
  rw [hb, h₁, h₂, h₃] at hs
  exact ⟨hn, hw, hb, hs⟩

end Namer

end ResourceEmbedding
