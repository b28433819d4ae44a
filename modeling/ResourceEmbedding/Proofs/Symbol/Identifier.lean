import Mathlib.Data.List.Nodup
import Mathlib.Data.List.Perm.Subperm
import ResourceEmbedding.Symbol.Namer

namespace ResourceEmbedding

namespace IdentifierRules

variable {rules : IdentifierRules} {word filled : List Char} {c : Char} {n : Nat}

-- Every character of a word is legal at its position, and there is one at least.
structure Legal (rules : IdentifierRules) (word : List Char) : Prop where
  nonempty : word ≠ []
  legal    : ∀ n c, word[n]? = some c → if n = 0 then rules.isStart c else rules.isContinue c

structure IsIdentifier (rules : IdentifierRules) (word : List Char) : Prop
    extends rules.Legal word where
  unreserved : String.ofList word ∉ rules.reserved

theorem isReserved_iff : rules.isReserved word ↔ String.ofList word ∈ rules.reserved := by
  simp only [isReserved, List.any_eq_true, beq_iff_eq]
  constructor
  case mp =>
    intro ⟨s, hm, hs⟩
    rwa [← hs, String.ofList_toList]
  case mpr =>
    intro hm
    exact ⟨_, hm, String.toList_ofList⟩

theorem legal_cons_iff :
    rules.Legal (c :: word) ↔ rules.isStart c ∧ ∀ d ∈ word, rules.isContinue d := by
  constructor
  case mp =>
    intro h
    refine ⟨by simpa using h.legal 0 c, fun d hd => ?_⟩
    have ⟨n, hn⟩ := List.getElem?_of_mem hd
    simpa using h.legal (n + 1) d (by simpa using hn)
  case mpr =>
    intro ⟨hs, hc⟩
    refine ⟨by simp, fun n d hd => ?_⟩
    cases n
    case zero =>
      cases hd
      simpa using hs
    case succ n => simpa using hc d (List.mem_of_getElem? hd)

theorem accepts_iff : rules.accepts word ↔ rules.IsIdentifier word := by
  have hi : rules.IsIdentifier word ↔ rules.Legal word ∧ ¬rules.isReserved word := by
    rw [isReserved_iff]
    exact ⟨fun h => ⟨h.toLegal, h.unreserved⟩, fun ⟨hl, hu⟩ => ⟨hl, hu⟩⟩
  rw [hi]
  cases word
  case nil         => exact iff_of_false nofun fun ⟨h, _⟩ => h.nonempty rfl
  case cons c rest => simp [accepts, legal_cons_iff]

-- Appending a filler as long as the word is reserved ends in `filled`.
inductive Fills (rules : IdentifierRules) : List Char → List Char → Prop
  | done {word : List Char} : ¬rules.isReserved word → Fills rules word word
  | more {word filled : List Char} :
    rules.isReserved word → Fills rules (word ++ [filler]) filled → Fills rules word filled

theorem Fills.not_isReserved (h : rules.Fills word filled) : ¬rules.isReserved filled := by
  induction h
  case done hr => exact hr
  case more hi => exact hi

theorem Legal.append_filler (hc : rules.isContinue filler) (h : rules.Legal word) :
    rules.Legal (word ++ [filler]) := by
  cases word
  case nil => exact absurd rfl h.nonempty
  case cons c rest =>
    have ⟨hs, hr⟩ := legal_cons_iff.mp h
    refine legal_cons_iff.mpr ⟨hs, fun d hd => ?_⟩
    cases List.mem_append.mp hd
    case inl hd => exact hr d hd
    case inr hd => exact List.mem_singleton.mp hd ▸ hc

theorem Fills.legal (hc : rules.isContinue filler) (h : rules.Fills word filled)
    (hl : rules.Legal word) : rules.Legal filled := by
  induction h
  case done        => exact hl
  case more _ _ hi => exact hi (hl.append_filler hc)

theorem Fills.isIdentifier (hc : rules.isContinue filler) (h : rules.Fills word filled)
    (hl : rules.Legal word) : rules.IsIdentifier filled :=
  ⟨h.legal hc hl, mt isReserved_iff.mpr h.not_isReserved⟩

-- Words with different numbers of fillers differ, and there are only so many reserved words.
theorem exists_not_isReserved (rules : IdentifierRules) (word : List Char) :
    ∃ k ≤ rules.reserved.length, ¬rules.isReserved (word ++ List.replicate k filler) := by
  by_contra hn
  simp only [not_exists, not_and, not_not, isReserved_iff] at hn
  let candidate (k : Nat) := String.ofList (word ++ List.replicate k filler)
  have hi : Function.Injective candidate := by
    intro k l h
    simpa [candidate] using congrArg (·.toList.length) h
  have hs : (List.range (rules.reserved.length + 1)).map candidate ⊆ rules.reserved := by
    intro s hm
    obtain ⟨k, hk, rfl⟩ := List.mem_map.mp hm
    exact hn k (Nat.lt_succ_iff.mp (List.mem_range.mp hk))
  have hl := (List.subperm_of_subset (List.nodup_range.map hi) hs).length_le
  rw [List.length_map, List.length_range] at hl
  exact Nat.not_succ_le_self _ hl

-- So the number of fillers is found among the candidates.
theorem fillersNeeded_spec (rules : IdentifierRules) (word : List Char) :
    ¬rules.isReserved (word ++ List.replicate (rules.fillersNeeded word) filler) ∧
      ∀ k < rules.fillersNeeded word, rules.isReserved (word ++ List.replicate k filler) := by
  have ⟨k, hk, hr⟩ := exists_not_isReserved rules word
  cases hf : (List.range (rules.reserved.length + 1)).find?
    fun k => !rules.isReserved (word ++ List.replicate k filler)
  case none =>
    have hm := List.find?_eq_none.mp hf k (List.mem_range.mpr (Nat.lt_succ_of_le hk))
    simp [hr] at hm
  case some n =>
    have hn : rules.fillersNeeded word = n := by simp only [fillersNeeded, hf, Option.getD_some]
    have ⟨hr, _, hl⟩ := List.find?_range_eq_some.mp hf
    rw [hn]
    exact ⟨by simpa using hr, fun k hk => by simpa using hl k hk⟩

theorem fills_replicate (hn : ¬rules.isReserved (word ++ List.replicate n filler))
    (hr : ∀ k < n, rules.isReserved (word ++ List.replicate k filler)) :
    rules.Fills word (word ++ List.replicate n filler) := by
  induction n generalizing word
  case zero =>
    rw [List.replicate_zero, List.append_nil] at hn ⊢
    exact .done hn
  case succ n hi =>
    have ha (k : Nat) : word ++ List.replicate (k + 1) filler =
        word ++ [filler] ++ List.replicate k filler := by
      rw [List.replicate_succ, List.append_assoc, List.singleton_append]
    have h₀ : rules.isReserved word := by simpa using hr 0 (Nat.zero_lt_succ n)
    rw [ha] at hn ⊢
    exact .more h₀ (hi hn fun k hk => ha k ▸ hr (k + 1) (Nat.succ_lt_succ hk))

theorem fills_unreserve (rules : IdentifierRules) (word : List Char) :
    rules.Fills word (rules.unreserve word) :=
  have ⟨hn, hr⟩ := fillersNeeded_spec rules word
  fills_replicate hn hr

theorem unreserve_of_not_isReserved (h : ¬rules.isReserved word) : rules.unreserve word = word := by
  have ⟨_, hr⟩ := fillersNeeded_spec rules word
  have hn : rules.fillersNeeded word = 0 := by
    by_contra hp
    exact h (by simpa using hr 0 (Nat.pos_of_ne_zero hp))
  rw [unreserve, hn, List.replicate_zero, List.append_nil]

-- A text that is legal behind its first character keeps all the others.
theorem legalize_cons (hw : ∀ d ∈ word, rules.isContinue d) (c : Char) :
    rules.legalize (c :: word) = (if rules.isStart c then c else filler) :: word := by
  have hm : (word.map fun d => if rules.isContinue d then d else filler) = word :=
    (List.map_congr_left fun d hd => if_pos (hw d hd)).trans (List.map_id' word)
  rw [legalize, hm]

theorem legal_legalize (hs : rules.isStart filler) (hc : rules.isContinue filler)
    (raw : List Char) : rules.Legal (rules.legalize raw) := by
  cases raw
  case nil => exact legal_cons_iff.mpr ⟨hs, nofun⟩
  case cons c rest =>
    refine legal_cons_iff.mpr ⟨by split <;> assumption, fun d hd => ?_⟩
    obtain ⟨e, _, rfl⟩ := List.mem_map.mp hd
    split <;> assumption

theorem isIdentifier_sanitizeChars (hs : rules.isStart filler) (hc : rules.isContinue filler)
    (raw : List Char) : rules.IsIdentifier (rules.sanitizeChars raw) :=
  (fills_unreserve rules _).isIdentifier hc (legal_legalize hs hc raw)

theorem isStart_rust_iff : rust.isStart c ↔ c.isAlpha ∨ c = '_' := by
  simp [rust, isAsciiStart]

theorem isContinue_rust_iff : rust.isContinue c ↔ c.isAlphanum ∨ c = '_' := by
  simp [rust, isAsciiContinue]

theorem isContinue_of_isStart_rust (h : rust.isStart c) : rust.isContinue c := by
  rw [isStart_rust_iff] at h
  rw [isContinue_rust_iff, Char.isAlphanum, Bool.or_eq_true]
  exact h.imp .inl id

theorem isContinue_of_mem_sanitizeChars_rust {raw : List Char}
    (hc : c ∈ rust.sanitizeChars raw) : rust.isContinue c := by
  have hl := (isIdentifier_sanitizeChars (show rust.isStart '_' from rfl) rfl raw).legal
  have ⟨n, hn⟩ := List.getElem?_of_mem hc
  have h := hl n c hn
  split at h
  case isTrue  => exact isContinue_of_isStart_rust h
  case isFalse => exact h

end IdentifierRules

namespace Namer

-- A symbol is a sanitized text, be it the base name or its words joined again.
theorem exists_sanitizeChars (namer : Namer) (join : List (List Char) → List Char)
    (base : String) : ∃ raw, (namer.symbol join base).toList = namer.rules.sanitizeChars raw := by
  simp only [symbol]
  cases namer.strategy
  case sanitizing => exact ⟨_, String.toList_ofList⟩
  case case =>
    cases (namer.words base).isEmpty
    case true  => exact ⟨_, String.toList_ofList⟩
    case false => exact ⟨_, String.toList_ofList⟩

theorem accepts_symbol {namer : Namer} (hs : namer.rules.isStart filler)
    (hc : namer.rules.isContinue filler) (join : List (List Char) → List Char) (base : String) :
    namer.rules.accepts (namer.symbol join base).toList := by
  have ⟨raw, h⟩ := exists_sanitizeChars namer join base
  rw [h, IdentifierRules.accepts_iff]
  exact IdentifierRules.isIdentifier_sanitizeChars hs hc raw

end Namer

-- Under rules that allow underscores everywhere, sanitizing a text comes to an end, and all names
-- of the text are accepted: they are made of legal characters, and not reserved.
theorem names_are_identifiers (rules : IdentifierRules) (hs : rules.isStart '_')
    (hc : rules.isContinue '_') (s : String) :
    (∀ word, rules.accepts word ↔ rules.IsIdentifier word) ∧
    rules.Fills (rules.legalize s.toList) (rules.sanitize s).toList ∧
    rules.accepts (rules.sanitize s).toList ∧
    ∀ strategy, let namer : Namer := ⟨strategy, rules⟩
      rules.accepts (namer.typeName s).toList ∧ rules.accepts (namer.constantName s).toList ∧
        rules.accepts (namer.memberName s).toList := by
  refine ⟨fun _ => IdentifierRules.accepts_iff, ?fills, ?sanitize, ?names⟩
  case fills =>
    rw [IdentifierRules.sanitize, String.toList_ofList]
    exact IdentifierRules.fills_unreserve rules _
  case sanitize =>
    rw [IdentifierRules.sanitize, String.toList_ofList, IdentifierRules.accepts_iff]
    exact IdentifierRules.isIdentifier_sanitizeChars hs hc _
  case names =>
    intro strategy namer
    have h := @Namer.accepts_symbol namer hs hc
    exact ⟨h Words.capitalised s, h Words.shouted s, h Words.humped s⟩

-- In capitals the one letter becomes two, and words with up to one filler are reserved.
theorem names_are_identifiers_sharp_s :
    let rules : IdentifierRules :=
      ⟨"letters", (· ∈ ['_', 's', 'S', 'ß']), (· ∈ ['_', 's', 'S', 'ß']), ["_", "SS", "SS_", "ß"]⟩
    rules.isStart '_' ∧ rules.isContinue '_' ∧
    rules.Fills ['ß'] ['ß', '_'] ∧
    (Namer.mk .case rules).constantName "ß" = "SS__" ∧ rules.accepts "SS__".toList := by
  intro rules
  have ⟨_, hf, _, hn⟩ := names_are_identifiers rules (by decide) (by decide) "ß"
  have hl : rules.legalize "ß".toList = ['ß'] := by decide
  have hw : (rules.sanitize "ß").toList = ['ß', '_'] := by decide +kernel
  have hc : (Namer.mk .case rules).constantName "ß" = "SS__" := by decide +kernel
  have ha : rules.accepts ((Namer.mk .case rules).constantName "ß").toList := (hn .case).2.1
  exact ⟨by decide, by decide, hl ▸ hw ▸ hf, hc, hc ▸ ha⟩

end ResourceEmbedding
