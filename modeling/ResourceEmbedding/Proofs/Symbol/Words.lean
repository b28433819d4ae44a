import ResourceEmbedding.Proofs.Symbol.Identifier
import ResourceEmbedding.Proofs.Text.Casing

namespace ResourceEmbedding

namespace Words

open IdentifierRules

variable {current before word rest : List Char} {words : List (List Char)} {p c : Char}

theorem splitFrom_underscore (hn : current ≠ []) :
    splitFrom current ('_' :: rest) = current.reverse :: splitFrom [] rest := by
  cases current
  case nil  => exact absurd rfl hn
  case cons => simp [splitFrom]

theorem splitFrom_boundary (hc : c ≠ '_') (hb : isBoundary p c) :
    splitFrom (p :: before) (c :: rest) = (p :: before).reverse :: splitFrom [c] rest := by
  rw [splitFrom, if_neg hc, if_pos hb]

theorem splitFrom_letter (hc : c ≠ '_') (hb : ∀ p ∈ current.head?, ¬isBoundary p c) :
    splitFrom current (c :: rest) = splitFrom (c :: current) rest := by
  cases current
  case nil => rw [splitFrom, if_neg hc]
  case cons p before => rw [splitFrom, if_neg hc, if_neg (hb p rfl)]

theorem flatten_splitFrom (current rest : List Char) :
    (splitFrom current rest).flatten = current.reverse ++ rest.filter (· ≠ '_') := by
  fun_induction splitFrom current rest <;> simp_all

theorem flatten_split (word : List Char) : (split word).flatten = word.filter (· ≠ '_') :=
  flatten_splitFrom [] word

theorem nil_notMem_splitFrom (current rest : List Char) : [] ∉ splitFrom current rest := by
  fun_induction splitFrom current rest <;> simp_all

-- Underscores at the end only end the last word.
theorem splitFrom_append_replicate (current rest : List Char) (n : Nat) :
    splitFrom current (rest ++ List.replicate n '_') = splitFrom current rest := by
  induction rest generalizing current
  case nil =>
    induction n generalizing current
    case zero => rfl
    case succ n hi => cases current <;> simp_all [List.replicate_succ, splitFrom]
  case cons c rest hi => cases current <;> simp only [List.cons_append, splitFrom, hi]

-- A word that is not cut: it has no underscore, and no two of its characters are apart.
structure Unbroken (word : List Char) : Prop where
  nonempty : word ≠ []
  letters  : '_' ∉ word
  chain    : word.IsChain (¬isBoundary · ·)

-- As long as there is nothing to cut, characters are taken into the current word.
theorem splitFrom_append (hw : '_' ∉ word)
    (hc : (current.reverse ++ word).IsChain (¬isBoundary · ·)) :
    splitFrom current (word ++ rest) = splitFrom (word.reverse ++ current) rest := by
  induction word generalizing current
  case nil => rfl
  case cons c word hi =>
    have ⟨hn, hw⟩ := List.ne_and_not_mem_of_not_mem_cons hw
    have hb : ∀ p ∈ current.head?, ¬isBoundary p c := by
      intro p hp
      have hp : p ∈ current.reverse.getLast? := by rwa [List.getLast?_reverse]
      exact (List.isChain_append.mp hc).2.2 p hp c rfl
    have hc : ((c :: current).reverse ++ word).IsChain (¬isBoundary · ·) := by simpa using hc
    rw [List.cons_append, splitFrom_letter hn.symm hb, hi hw hc, List.reverse_cons,
      List.append_assoc, List.singleton_append]

theorem splitFrom_unbroken (hw : Unbroken word) :
    splitFrom [] (word ++ rest) = splitFrom word.reverse rest := by
  rw [splitFrom_append hw.letters (by simpa using hw.chain), List.append_nil]

-- Words with underscores between them are found again.
theorem split_intercalate (hu : ∀ w ∈ words, Unbroken w) :
    split (['_'].intercalate words) = words := by
  induction words
  case nil => rfl
  case cons word words hi =>
    have ⟨h, hw⟩ := List.forall_mem_cons.mp hu
    have hr : word.reverse ≠ [] := by simpa using h.nonempty
    cases words
    case nil =>
      rw [List.intercalate_singleton, split, ← List.append_nil word, splitFrom_unbroken h]
      simp [splitFrom, h.nonempty]
    case cons next words =>
      rw [List.intercalate_cons_cons, split, List.append_assoc, splitFrom_unbroken h,
        List.singleton_append, splitFrom_underscore hr, List.reverse_reverse, ← split, hi hw]

-- A word ends where the next one starts, though nothing stands between them.
def Apart (word next : List Char) : Prop :=
  ∃ p ∈ word.getLast?, ∃ c ∈ next.head?, isBoundary p c

theorem split_flatten (hu : ∀ w ∈ words, Unbroken w) (hc : words.IsChain Apart) :
    split words.flatten = words := by
  induction words
  case nil => rfl
  case cons word words hi =>
    have ⟨h, hw⟩ := List.forall_mem_cons.mp hu
    rw [List.flatten_cons, split, splitFrom_unbroken h]
    cases words
    case nil => simp [splitFrom, h.nonempty]
    case cons next words =>
      have ⟨⟨p, hp, c, hn, hb⟩, hc⟩ := List.isChain_cons_cons.mp hc
      have ⟨before, hr⟩ : ∃ before, word.reverse = p :: before := by
        rw [← List.head?_eq_some_iff, List.head?_reverse]
        exact hp
      have ⟨rest, he⟩ : ∃ rest, (next :: words).flatten = c :: rest := by
        have ⟨rest, he⟩ := List.head?_eq_some_iff.mp hn
        exact ⟨rest ++ words.flatten, by rw [List.flatten_cons, he, List.cons_append]⟩
      have hl : c ≠ '_' := by
        rintro rfl
        exact (hw next List.mem_cons_self).letters (List.mem_of_head? hn)
      have hs := hi hw hc
      rw [he, split, splitFrom_letter hl (by simp)] at hs
      rw [he, hr, splitFrom_boundary hl hb, hs, ← hr, List.reverse_reverse]

-- How words in lower case are spelled as one text.
inductive Spelling
  -- `foo-bar`
  | dashed
  -- `foo_bar`
  | underscored
  -- `FOO_BAR`
  | shouted
  -- `fooBar`
  | humped
  -- `FooBar`
  | capitalised
deriving DecidableEq, Repr

def Spelling.write : Spelling → List (List Char) → List Char
  | dashed, words => ['-'].intercalate words
  | underscored, words => ['_'].intercalate words
  | shouted, words => ['_'].intercalate (words.map (·.map Char.toUpper))
  | humped, [] => []
  | humped, first :: rest => first ++ rest.flatMap Text.capital
  | capitalised, words => words.flatMap Text.capital

def Plain (word : List Char) : Prop :=
  ∀ c ∈ word, c.isAlphanum

def lower (words : List (List Char)) : List (List Char) :=
  words.map (·.map Char.toLower)

theorem Plain.isAscii (h : Plain word) : ∀ c ∈ word, Text.isAscii c :=
  fun c hc => Text.isAscii_of_isAlphanum (h c hc)

theorem Plain.notMem_underscore (h : Plain word) : '_' ∉ word :=
  fun hm => absurd (h _ hm) (by decide)

-- The words of a sanitized base are made of its letters and digits.
theorem plain_of_mem_split {raw : List Char} (hw : word ∈ split (rust.sanitizeChars raw)) :
    Plain word := by
  intro c hc
  have hf : c ∈ (split (rust.sanitizeChars raw)).flatten := List.mem_flatten.mpr ⟨word, hw, hc⟩
  rw [flatten_split] at hf
  have ⟨hm, hn⟩ := List.mem_filter.mp hf
  have hc := isContinue_rust_iff.mp (isContinue_of_mem_sanitizeChars_rust hm)
  exact hc.resolve_right (by simpa using hn)

theorem capitalised_eq (hw : ∀ w ∈ words, Plain w) :
    capitalised words = Spelling.capitalised.write (lower words) := by
  rw [capitalised, Spelling.write, lower, List.flatMap_map]
  exact List.flatMap_congr fun w h => Text.titleWord_of_isAscii (hw w h).isAscii

theorem shouted_eq (hw : ∀ w ∈ words, Plain w) :
    shouted words = Spelling.shouted.write (lower words) := by
  rw [shouted, Spelling.write, lower, List.map_map]
  congr 1
  refine List.map_congr_left fun w h => ?_
  rw [Text.upperWord_of_isAscii (hw w h).isAscii]
  simp

theorem humped_eq (hw : ∀ w ∈ words, Plain w) :
    humped words = Spelling.humped.write (lower words) := by
  cases words
  case nil => rfl
  case cons first rest =>
    have ⟨hf, hr⟩ := List.forall_mem_cons.mp hw
    rw [humped, capitalised_eq hr, Text.lowerWord_of_isAscii hf.isAscii]
    rfl

theorem exists_mem_of_mem_intercalate {sep : List Char} (hc : c ∈ sep.intercalate words) :
    c ∈ sep ∨ ∃ w ∈ words, c ∈ w := by
  induction words
  case nil => simp at hc
  case cons word words hi =>
    cases words
    case nil => exact .inr ⟨word, List.mem_cons_self, by simpa using hc⟩
    case cons next words =>
      rw [List.intercalate_cons_cons, List.append_assoc, List.mem_append, List.mem_append] at hc
      rcases hc with hc | hc | hc
      · exact .inr ⟨word, List.mem_cons_self, hc⟩
      · exact .inl hc
      · exact (hi hc).imp id fun ⟨w, hw, hc⟩ => ⟨w, List.mem_cons_of_mem _ hw, hc⟩

theorem Plain.map {f : Char → Char} (h : Plain word)
    (hf : ∀ c, (f c).isAlphanum = c.isAlphanum) : Plain (word.map f) := by
  intro c hc
  have ⟨d, hd, he⟩ := List.mem_map.mp hc
  rw [← he, hf]
  exact h d hd

theorem plain_of_mem_lower (hw : ∀ w ∈ words, Plain w) : ∀ w ∈ lower words, Plain w := by
  intro w hm
  obtain ⟨v, hv, rfl⟩ := List.mem_map.mp hm
  exact (hw v hv).map Text.isAlphanum_toLower

theorem nil_notMem_lower (hn : [] ∉ words) : [] ∉ lower words := by
  intro hm
  obtain ⟨v, hv, he⟩ := List.mem_map.mp hm
  exact hn (List.map_eq_nil_iff.mp he ▸ hv)

theorem Plain.capital (h : Plain word) : Plain (Text.capital word) := by
  cases word
  case nil => exact nofun
  case cons c word =>
    have ⟨hc, hw⟩ := List.forall_mem_cons.mp h
    exact List.forall_mem_cons.mpr ⟨by rwa [Text.isAlphanum_toUpper], hw⟩

theorem plain_flatMap_capital (hw : ∀ w ∈ words, Plain w) : Plain (words.flatMap Text.capital) := by
  intro c hc
  have ⟨w, hm, hc⟩ := List.mem_flatMap.mp hc
  exact (hw w hm).capital c hc

theorem alphanum_or_of_mem_write {spelling : Spelling} (hs : spelling ≠ .dashed)
    (hw : ∀ w ∈ words, Plain w) (hc : c ∈ spelling.write words) : c.isAlphanum ∨ c = '_' := by
  cases spelling
  case dashed => exact absurd rfl hs
  case underscored =>
    rcases exists_mem_of_mem_intercalate hc with hc | ⟨w, hm, hc⟩
    · exact .inr (List.mem_singleton.mp hc)
    · exact .inl (hw w hm c hc)
  case shouted =>
    rcases exists_mem_of_mem_intercalate hc with hc | ⟨v, hm, hc⟩
    · exact .inr (List.mem_singleton.mp hc)
    · have ⟨w, hm, hv⟩ := List.mem_map.mp hm
      rw [← hv] at hc
      exact .inl ((hw w hm).map Text.isAlphanum_toUpper c hc)
  case humped =>
    cases words
    case nil => cases hc
    case cons first rest =>
      have ⟨hf, hr⟩ := List.forall_mem_cons.mp hw
      rcases List.mem_append.mp hc with hc | hc
      · exact .inl (hf c hc)
      · exact .inl (plain_flatMap_capital hr c hc)
  case capitalised => exact .inl (plain_flatMap_capital hw c hc)

def Spelling.opening : Spelling → Char → Char
  | dashed, c | underscored, c | humped, c => c
  | shouted, c | capitalised, c => c.toUpper

-- A spelling opens with the first character of the first word, and goes on without regard to it.
theorem exists_write_opening (spelling : Spelling) (word : List Char) (words : List (List Char)) :
    ∃ rest, ∀ c, spelling.write ((c :: word) :: words) = spelling.opening c :: rest := by
  cases spelling
  case dashed | underscored | shouted =>
    cases words
    case nil  => exact ⟨_, fun _ => rfl⟩
    case cons => exact ⟨_, fun _ => rfl⟩
  case humped | capitalised => exact ⟨_, fun _ => rfl⟩

theorem exists_write_cons (spelling : Spelling) (c : Char) (word : List Char)
    (words : List (List Char)) :
    ∃ d rest, spelling.write ((c :: word) :: words) = d :: rest ∧ (d = c ∨ d = c.toUpper) := by
  have ⟨rest, hr⟩ := exists_write_opening spelling word words
  refine ⟨_, rest, hr c, ?_⟩
  cases spelling
  case dashed | underscored | humped => exact .inl rfl
  case shouted | capitalised         => exact .inr rfl

variable {spelling : Spelling}

-- Words as they are left in a symbol: a digit in front is replaced, for no identifier opens with
-- it.
def masked : List (List Char) → List (List Char)
  | (c :: word) :: words => ((if c.isDigit then filler else c) :: word) :: words
  | words => words

theorem opening_filler (spelling : Spelling) : spelling.opening filler = filler := by
  cases spelling <;> rfl

theorem isStart_opening_iff (hc : c.isAlphanum) (spelling : Spelling) :
    rust.isStart (spelling.opening c) ↔ ¬c.isDigit := by
  have ha : (spelling.opening c).isAlpha = c.isAlpha := by
    cases spelling
    case dashed | underscored | humped => rfl
    case shouted | capitalised         => exact Char.isAlpha_toUpper_eq_isAlpha c
  have hu : spelling.opening c = '_' ↔ c = '_' := by
    cases spelling
    case dashed | underscored | humped => rfl
    case shouted | capitalised         => exact Text.toUpper_eq_iff (by decide)
  have hn : c ≠ '_' := by
    rintro rfl
    exact absurd hc (by decide)
  rw [isStart_rust_iff, ha, hu, or_iff_left hn]
  constructor
  case mp  => exact fun h => by simp [Text.not_isDigit_of_isAlpha h]
  case mpr => exact fun h => by simpa [Char.isAlphanum, h] using hc

theorem lower_masked (words : List (List Char)) : lower (masked words) = masked (lower words) := by
  match words with
  | [] => rfl
  | [] :: _ => rfl
  | (c :: word) :: words =>
    rw [masked, lower, List.map_cons, List.map_cons, lower, List.map_cons, List.map_cons, masked,
      Text.isDigit_toLower, apply_ite Char.toLower]
    rfl

-- Spelled words are an identifier but for a digit in front and for reserved words.
theorem legalize_write_masked (hs : spelling ≠ .dashed) (hw : ∀ w ∈ words, Plain w)
    (hn : [] ∉ words) (he : words ≠ []) :
    rust.legalize (spelling.write words) = spelling.write (masked words) := by
  obtain ⟨first, words, rfl⟩ := List.exists_cons_of_ne_nil he
  obtain ⟨c, word, rfl⟩ := List.exists_cons_of_ne_nil (List.ne_of_not_mem_cons hn).symm
  have ⟨rest, hr⟩ := exists_write_opening spelling word words
  have hl : ∀ d ∈ rest, rust.isContinue d := by
    intro d hd
    refine isContinue_rust_iff.mpr (alphanum_or_of_mem_write hs hw ?_)
    rw [hr]
    exact List.mem_cons_of_mem _ hd
  have hc : c.isAlphanum := hw _ List.mem_cons_self c List.mem_cons_self
  rw [hr, legalize_cons hl, masked, hr]
  by_cases hd : c.isDigit
  case pos => rw [if_neg (by simp [isStart_opening_iff hc, hd]), if_pos hd, opening_filler]
  case neg => rw [if_pos ((isStart_opening_iff hc _).mpr hd), if_neg hd]

end Words

namespace Namer

open Words IdentifierRules

theorem symbol_case (join : List (List Char) → List Char) (base : String) :
    (ofStrategy .case).symbol join base =
      let words := split (rust.sanitizeChars base.toList)
      if words.isEmpty then rust.sanitize base else .ofList (rust.sanitizeChars (join words)) :=
  rfl

end Namer

end ResourceEmbedding
