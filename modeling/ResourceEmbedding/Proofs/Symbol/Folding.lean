import ResourceEmbedding.Proofs.Symbol.Words

namespace ResourceEmbedding

namespace Words

variable {words : List (List Char)} {word : List Char}

-- What a text says apart from underscores and case.
def folded (word : List Char) : List Char :=
  (word.filter (· ≠ '_')).map Char.toLower

theorem folded_append (word rest : List Char) :
    folded (word ++ rest) = folded word ++ folded rest := by
  simp [folded]

theorem folded_flatten (words : List (List Char)) :
    folded words.flatten = words.flatMap folded := by
  induction words
  case nil => rfl
  case cons word words hi => rw [List.flatten_cons, folded_append, hi, List.flatMap_cons]

theorem folded_replicate (n : Nat) : folded (List.replicate n '_') = [] := by
  simp [folded]

theorem folded_eq_filter_map (word : List Char) :
    folded word = (word.map Char.toLower).filter (· ≠ '_') := by
  rw [List.filter_map, folded]
  congr 1
  refine List.filter_congr fun c _ => ?_
  have hu : c.toLower = '_' ↔ c = '_' := Text.toLower_eq_iff (by decide)
  simp [hu]

theorem folded_map {f : Char → Char} (hf : ∀ c, (f c).toLower = c.toLower) (word : List Char) :
    folded (word.map f) = folded word := by
  have hc : Char.toLower ∘ f = Char.toLower := funext hf
  rw [folded_eq_filter_map, folded_eq_filter_map, List.map_map, hc]

theorem folded_capital (word : List Char) : folded (Text.capital word) = folded word := by
  simp only [folded_eq_filter_map, Text.map_toLower_capital]

theorem folded_intercalate (words : List (List Char)) :
    folded (['_'].intercalate words) = folded words.flatten := by
  induction words
  case nil => rfl
  case cons word words hi =>
    cases words
    case nil => simp
    case cons next words =>
      rw [List.intercalate_cons_cons, folded_append, folded_append, hi, List.flatten_cons,
        folded_append]
      simp [folded]

theorem folded_flatMap_capital (words : List (List Char)) :
    folded (words.flatMap Text.capital) = folded words.flatten := by
  rw [List.flatMap_def, folded_flatten, folded_flatten, List.flatMap_map]
  exact List.flatMap_congr fun w _ => folded_capital w

theorem folded_write {spelling : Spelling} (hs : spelling ≠ .dashed) (words : List (List Char)) :
    folded (spelling.write words) = folded words.flatten := by
  cases spelling
  case dashed => exact absurd rfl hs
  case underscored => exact folded_intercalate words
  case shouted =>
    rw [Spelling.write, folded_intercalate, folded_flatten, folded_flatten, List.flatMap_map]
    exact List.flatMap_congr fun w _ => folded_map Char.toLower_toUpper_eq_toLower w
  case humped =>
    cases words
    case nil => rfl
    case cons first rest =>
      rw [Spelling.write, folded_append, folded_flatMap_capital, List.flatten_cons, folded_append]
  case capitalised => exact folded_flatMap_capital words

theorem folded_lower (words : List (List Char)) :
    folded (lower words).flatten = folded words.flatten := by
  rw [lower, folded_flatten, folded_flatten, List.flatMap_map]
  exact List.flatMap_congr fun w _ => folded_map Char.toLower_toLower_eq_toLower w

end Words

open Words IdentifierRules

variable {word : List Char} {words : List (List Char)} {spelling : Spelling}

def gist (symbol : String) : List Char :=
  Text.lowerWord (symbol.toList.filter (· ≠ '_'))

-- Leaves a digit out that stands in front.
def dropLeadingDigit : List Char → List Char
  | [] => []
  | c :: rest => if c.isDigit then rest else c :: rest

theorem gist_ofList (hw : ∀ c ∈ word, rust.isContinue c) : gist (.ofList word) = folded word := by
  rw [gist, String.toList_ofList, Text.lowerWord_of_isAscii, folded]
  intro c hc
  obtain ⟨hc, hn⟩ := List.mem_filter.mp hc
  refine Text.isAscii_of_isAlphanum ((isContinue_rust_iff.mp (hw c hc)).resolve_right ?_)
  simpa using hn

theorem gist_sanitizeChars (raw : List Char) :
    gist (.ofList (rust.sanitizeChars raw)) = folded (rust.sanitizeChars raw) :=
  gist_ofList fun _ => isContinue_of_mem_sanitizeChars_rust

theorem folded_masked (hw : ∀ w ∈ words, Plain w) (hn : [] ∉ words) :
    folded (masked words).flatten = dropLeadingDigit (folded words.flatten) := by
  match words with
  | [] => rfl
  | [] :: _ => exact absurd List.mem_cons_self hn
  | (c :: word) :: words =>
    have hu : c ≠ '_' := by
      rintro rfl
      exact (hw _ List.mem_cons_self).notMem_underscore List.mem_cons_self
    have hc : folded ((c :: word) :: words).flatten =
        c.toLower :: folded (word :: words).flatten := by simp [folded, hu]
    rw [masked, hc, dropLeadingDigit, Text.isDigit_toLower]
    split
    case isTrue  => rfl
    case isFalse => exact hc

-- Joined words are an identifier already, unless the first one opens with a digit.
theorem folded_sanitizeChars_write (hs : spelling ≠ .dashed) (hw : ∀ w ∈ words, Plain w)
    (hn : [] ∉ words) (he : words ≠ []) :
    folded (rust.sanitizeChars (spelling.write words)) =
      dropLeadingDigit (folded words.flatten) := by
  rw [sanitizeChars, unreserve, folded_append, filler, folded_replicate, List.append_nil,
    legalize_write_masked hs hw hn he, folded_write hs, folded_masked hw hn]

theorem folded_flatten_split (word : List Char) : folded (split word).flatten = folded word := by
  rw [flatten_split, folded, folded, List.filter_filter]
  simp

-- A symbol of joined words says what the sanitized base says, but for a digit in front.
theorem gist_symbol {join : List (List Char) → List Char} (hs : spelling ≠ .dashed)
    (hj : ∀ words, (∀ w ∈ words, Plain w) → join words = spelling.write (lower words))
    (base : String) :
    gist ((Namer.ofStrategy .case).symbol join base) =
      dropLeadingDigit (gist (rust.sanitize base)) := by
  let words := split (rust.sanitizeChars base.toList)
  have hp : ∀ w ∈ words, Plain w := fun _ => plain_of_mem_split
  have hb : gist (rust.sanitize base) = folded words.flatten := by
    rw [folded_flatten_split, sanitize, gist_sanitizeChars]
  rw [Namer.symbol_case]
  by_cases he : words = []
  case pos =>
    rw [if_pos (List.isEmpty_iff.mpr he), hb, he]
    rfl
  case neg =>
    have hl := plain_of_mem_lower hp
    have hn : [] ∉ lower words := nil_notMem_lower (nil_notMem_splitFrom [] _)
    rw [if_neg (by simpa using he), gist_sanitizeChars, hj words hp, hb,
      folded_sanitizeChars_write hs hl hn (by simpa [lower] using he), folded_lower]

-- The symbols of a base name in the case usual for their kind say the same as the sanitized base,
-- letter by letter and digit by digit, except that a digit is lost if it comes before all letters.
theorem case_symbols_say_sanitized_base (base : String) :
    gist ((Namer.ofStrategy .case).typeName base) =
      dropLeadingDigit (gist (rust.sanitize base)) ∧
    gist ((Namer.ofStrategy .case).constantName base) =
      dropLeadingDigit (gist (rust.sanitize base)) ∧
    gist ((Namer.ofStrategy .case).memberName base) =
      dropLeadingDigit (gist (rust.sanitize base)) :=
  ⟨gist_symbol (by decide) (fun _ => capitalised_eq) base,
    gist_symbol (by decide) (fun _ => shouted_eq) base,
    gist_symbol (by decide) (fun _ => humped_eq) base⟩

-- The underscore in front of a digit is no part of a word, and the digit cannot open a symbol.
theorem leading_digit_is_lost :
    gist (rust.sanitize "_2x") = ['2', 'x'] ∧
    gist ((Namer.ofStrategy .case).typeName "_2x") = ['x'] ∧
    ¬∀ base, gist ((Namer.ofStrategy .case).typeName base) = gist (rust.sanitize base) := by
  have hs : gist (rust.sanitize "_2x") = ['2', 'x'] := by decide +kernel
  have ht : gist ((Namer.ofStrategy .case).typeName "_2x") = ['x'] := by decide +kernel
  refine ⟨hs, ht, fun h => ?_⟩
  have he := h "_2x"
  rw [hs, ht] at he
  exact absurd he (by decide)

end ResourceEmbedding
