import ResourceEmbedding.Proofs.Symbol.Folding
import ResourceEmbedding.Proofs.Symbol.Spelling

namespace ResourceEmbedding

namespace Words

open IdentifierRules

variable {c : Char} {word : List Char} {words : List (List Char)} {spelling : Spelling}

-- The words in capitals that are spelled as `symbol`, in lower case. An underscore in front stands
-- for a digit, so it belongs to the first word.
def unshout : List Char → List (List Char)
  | [] => []
  | c :: rest => lower ((rest.splitOn '_').modifyHead (c :: ·))

theorem unshout_write (hw : ∀ w ∈ word :: words, Plain w) :
    unshout (Spelling.shouted.write ((c :: word) :: words)) = lower ((c :: word) :: words) := by
  have hu : ∀ v ∈ (word :: words).map (·.map Char.toUpper), '_' ∉ v := by
    intro v hv
    obtain ⟨w, hm, rfl⟩ := List.mem_map.mp hv
    exact ((hw w hm).map Text.isAlphanum_toUpper).notMem_underscore
  have hc : Spelling.shouted.write ((c :: word) :: words) =
      c.toUpper :: ['_'].intercalate ((word :: words).map (·.map Char.toUpper)) := by
    cases words <;> rfl
  rw [hc, unshout, List.splitOn_intercalate _ hu (List.cons_ne_nil _ _), List.map_cons,
    List.modifyHead_cons, ← lower_map_toUpper ((c :: word) :: words)]
  rfl

theorem eq_nil_of_folded (hp : Plain word) (h : folded word = []) : word = [] := by
  have hu : ∀ c ∈ word, c = '_' := by simpa [folded] using h
  refine List.eq_nil_iff_forall_not_mem.mpr fun c hc => ?_
  exact hp.notMem_underscore (hu c hc ▸ hc)

-- Only a single character can be spelled in underscores alone.
theorem eq_nil_of_write_underscores (hw : ∀ w ∈ word :: words, Plain w) (hn : [] ∉ words)
    (hs : spelling ≠ .dashed) (hu : ∀ d ∈ spelling.write ((c :: word) :: words), d = '_') :
    word = [] ∧ words = [] := by
  have hf : folded (spelling.write ((c :: word) :: words)) = [] := by simpa [folded] using hu
  rw [folded_write hs, List.flatten_cons, ← List.singleton_append, folded_append, folded_append,
    List.append_eq_nil_iff, List.append_eq_nil_iff] at hf
  obtain ⟨hp, hr⟩ := List.forall_mem_cons.mp hw
  refine ⟨eq_nil_of_folded hp hf.1.2, ?_⟩
  have hl : words.flatten = [] := by
    refine eq_nil_of_folded (fun d hd => ?_) hf.2
    obtain ⟨w, hm, hd⟩ := List.mem_flatten.mp hd
    exact hr w hm d hd
  rw [List.flatten_eq_nil_iff] at hl
  refine List.eq_nil_iff_forall_not_mem.mpr fun w hm => hn ?_
  exact hl w hm ▸ hm

end Words

namespace Namer

open Words IdentifierRules

variable {spelling : Spelling} {join : List (List Char) → List Char} {symbol : String}

-- The symbol of the same base name in another spelling, by its constant. If no letter or digit is
-- left of the words, all symbols are the same.
def respell (spelling : Spelling) (constant : String) : String :=
  if ∀ c ∈ constant.toList, c = '_' then constant
  else .ofList (rust.unreserve (spelling.write (unshout constant.toList)))

-- No reserved word but the underscore is spelled in capitals.
theorem eq_of_isReserved_rust_shouted {words : List (List Char)}
    (h : rust.isReserved (Spelling.shouted.write words)) :
    Spelling.shouted.write words = ['_'] := by
  have hr : ∀ r ∈ rust.reserved, r.toList.map Char.toUpper = r.toList → r.toList = ['_'] := by
    decide +kernel
  have hu : Spelling.shouted.write words = (Spelling.underscored.write words).map Char.toUpper := by
    rw [Spelling.write, Spelling.write, map_intercalate]
    rfl
  have hm := hr _ (isReserved_iff.mp h)
  rw [String.toList_ofList] at hm
  refine hm ?_
  rw [hu, List.map_map]
  exact List.map_congr_left fun c _ => Char.toUpper_toUpper_eq_toUpper c

theorem write_filler (spelling : Spelling) : spelling.write [[filler]] = [filler] := by
  cases spelling <;> rfl

theorem unreserve_rust_filler : rust.unreserve [filler] = ['_', '_'] := by
  decide +kernel

-- Words that are made legal are found again in their constant, unless all of it is underscores.
theorem respell_unreserve {words : List (List Char)} (hw : ∀ w ∈ words, Plain w) (hn : [] ∉ words)
    (he : words ≠ []) (hl : lower words = words) (spelling : Spelling) :
    respell spelling (.ofList (rust.unreserve (Spelling.shouted.write (masked words)))) =
      .ofList (rust.unreserve (spelling.write (masked words))) := by
  obtain ⟨first, words, rfl⟩ := List.exists_cons_of_ne_nil he
  obtain ⟨c, word, rfl⟩ := List.exists_cons_of_ne_nil (List.ne_of_not_mem_cons hn).symm
  have ⟨hf, hr⟩ := List.forall_mem_cons.mp hw
  have hw : ∀ w ∈ word :: words, Plain w :=
    List.forall_mem_cons.mpr ⟨(List.forall_mem_cons.mp hf).2, hr⟩
  have hl : lower (masked ((c :: word) :: words)) = masked ((c :: word) :: words) := by
    rw [lower_masked, hl]
  rw [masked] at hl ⊢
  generalize (if c.isDigit then filler else c) = d at hl ⊢
  by_cases hu : ∀ e ∈ Spelling.shouted.write ((d :: word) :: words), e = '_'
  case pos =>
    have hn := List.not_mem_of_not_mem_cons hn
    obtain ⟨rfl, rfl⟩ := eq_nil_of_write_underscores hw hn (by decide) hu
    have hd : d = filler := (Text.toUpper_eq_iff (by decide)).mp (hu d.toUpper List.mem_cons_self)
    rw [hd, write_filler, write_filler, unreserve_rust_filler, respell, if_pos (by simp)]
  case neg =>
    have hr : ¬rust.isReserved (Spelling.shouted.write ((d :: word) :: words)) := by
      intro hr
      rw [eq_of_isReserved_rust_shouted hr] at hu
      exact hu fun _ => List.mem_singleton.mp
    rw [unreserve_of_not_isReserved hr, respell, String.toList_ofList, if_neg hu, unshout_write hw,
      hl]

-- Every symbol of a base name is its constant in another spelling.
theorem symbol_eq_respell (hs : spelling ≠ .dashed)
    (hj : ∀ words, (∀ w ∈ words, Plain w) → join words = spelling.write (lower words))
    (base : String) :
    (ofStrategy .case).symbol join base =
      respell spelling ((ofStrategy .case).constantName base) := by
  let words := split (rust.sanitizeChars base.toList)
  have hp : ∀ w ∈ words, Plain w := fun _ => plain_of_mem_split
  rw [constantName, symbol_case, symbol_case]
  by_cases he : words = []
  case pos =>
    have hf : words.flatten = (rust.sanitizeChars base.toList).filter (· ≠ '_') := flatten_split _
    have hu : ∀ c ∈ (rust.sanitize base).toList, c = '_' := by
      rw [he, List.flatten_nil, eq_comm, List.filter_eq_nil_iff] at hf
      rw [sanitize, String.toList_ofList]
      exact fun c hc => by simpa using hf c hc
    have hw : words.isEmpty := List.isEmpty_iff.mpr he
    rw [if_pos hw, if_pos hw, respell, if_pos hu]
  case neg =>
    have hl := plain_of_mem_lower hp
    have hn : [] ∉ lower words := nil_notMem_lower (nil_notMem_splitFrom [] _)
    have hd : lower words ≠ [] := by simpa [lower] using he
    have hw : ¬words.isEmpty := by simpa using he
    rw [if_neg hw, if_neg hw, hj words hp, shouted_eq hp, sanitizeChars, sanitizeChars,
      legalize_write_masked hs hl hn hd, legalize_write_masked (by decide) hl hn hd,
      respell_unreserve hl hn hd (lower_lower words)]

theorem same_symbols_of_same_constant {a b : String}
    (h : (ofStrategy .case).constantName a = (ofStrategy .case).constantName b) :
    (ofStrategy .case).typeName a = (ofStrategy .case).typeName b ∧
      (ofStrategy .case).memberName a = (ofStrategy .case).memberName b := by
  have ht := @symbol_eq_respell .capitalised _ (by decide) fun _ => capitalised_eq
  have hm := @symbol_eq_respell .humped _ (by decide) fun _ => humped_eq
  exact ⟨by rw [typeName, ht, ht, h], by rw [memberName, hm, hm, h]⟩

-- Two digits that open no symbol, so that none of the symbols tells them apart.
theorem same_symbols_of_same_constant_digits :
    let namer := ofStrategy .case
    namer.constantName "_2x" = "__X" ∧ namer.constantName "_3-x" = "__X" ∧
    namer.typeName "_2x" = namer.typeName "_3-x" ∧
      namer.memberName "_2x" = namer.memberName "_3-x" := by
  intro namer
  have ha : namer.constantName "_2x" = "__X" := by decide +kernel
  have hb : namer.constantName "_3-x" = "__X" := by decide +kernel
  exact ⟨ha, hb, same_symbols_of_same_constant (ha.trans hb.symm)⟩

end Namer

end ResourceEmbedding
