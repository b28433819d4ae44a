import Mathlib.Algebra.Ring.Parity
import Mathlib.Data.List.DropRight
import ResourceEmbedding.Proofs.Properties.Malformed

namespace ResourceEmbedding.Properties

def endingBackslashes (cs : List Char) : Nat :=
  (cs.rtakeWhile (· == '\\')).length

-- A text in which each backslash escapes a character or is escaped.
abbrev Paired : List Char → Prop :=
  Escaped fun _ => True

-- Reads the rest of a key or of a value as `unescapeFrom` does, but a backslash at the end that
-- escapes nothing gives `lone`.
def unescapeOr (lone : Unescaping → Except (List Char) (List Char)) (s : Unescaping) :
    List Char → Except (List Char) (List Char)
  | []         => .ok s.finish
  | '\\' :: [] => lone s
  | '\\' :: 'u' :: a :: b :: c :: d :: rest =>
    match escapedUnit? [a, b, c, d] with
    | some u => unescapeOr lone (s.pushUnit u) rest
    | none   => .error [a, b, c, d]
  | '\\' :: 'u' :: short => .error short
  | '\\' :: c :: rest    => unescapeOr lone (s.pushChar (escapedChar c)) rest
  | c :: rest            => unescapeOr lone (s.pushChar c) rest

variable {c : Char} {cs ds line raw text : List Char} {lines after : List (List Char)}
variable {ls : List LogicalLine} {number : Nat} {s : Unescaping}

theorem continues_iff : continues cs ↔ Odd (endingBackslashes cs) := by
  simp [continues, endingBackslashes, List.rtakeWhile, Nat.odd_iff]

theorem even_endingBackslashes_iff : Even (endingBackslashes cs) ↔ continues cs = false := by
  rw [← Nat.not_odd_iff_even, ← continues_iff, Bool.not_eq_true]

theorem paired_of_not_continues : ∀ {cs}, continues cs = false → Paired cs
  | [], _ => .nil
  | [c], h => by
    refine .bare ?_ trivial .nil
    rintro rfl
    exact absurd h (by decide)
  | c :: d :: cs, h => by
    by_cases hc : c = '\\'
    case pos =>
      subst hc
      rw [continues_escape] at h
      exact .escape (paired_of_not_continues h)
    case neg =>
      rw [continues_cons hc] at h
      exact .bare hc trivial (paired_of_not_continues h)

namespace Escaped

variable {free : Char → Prop}

theorem of_cons (hn : c ≠ '\\') (h : Escaped free (c :: cs)) : Escaped free cs := by
  cases h
  case bare h => exact h
  case escape => exact absurd rfl hn

theorem of_escape (h : Escaped free ('\\' :: c :: cs)) : Escaped free cs := by
  cases h
  case bare hn _ _ => exact absurd rfl hn
  case escape h    => exact h

theorem of_append (hn : ∀ d ∈ ds, d ≠ '\\') (h : Escaped free (ds ++ cs)) : Escaped free cs := by
  induction ds
  case nil => exact h
  case cons d ds hi =>
    rw [List.forall_mem_cons] at hn
    exact hi hn.2 (h.of_cons hn.1)

theorem ne_nil_of_backslash {before : List Char} (h : Escaped free (before ++ '\\' :: cs))
    (hb : continues before = false) : cs ≠ [] := by
  rintro rfl
  have hc := h.not_continues
  rw [continues_concat_backslash, hb] at hc
  cases hc

end Escaped

theorem splitKey_paired (h : Paired line) :
    Paired (splitKey line).1 ∧ Paired (splitKey line).2 ∧
      (splitKey line).1 ++ (splitKey line).2 = line := by
  induction h
  case nil => exact ⟨.nil, .nil, rfl⟩
  case bare c cs hn _ hc hi =>
    obtain ⟨hk, hr, ha⟩ := hi
    by_cases hm : isMark c || isFormatBlank c
    case pos =>
      have hs : splitKey (c :: cs) = ([], c :: cs) := by simp [splitKey, hn, hm]
      rw [hs]
      exact ⟨.nil, .bare hn trivial hc, rfl⟩
    case neg =>
      have hs : splitKey (c :: cs) = (c :: (splitKey cs).1, (splitKey cs).2) := by
        simp [splitKey, hn, hm]
      rw [hs]
      exact ⟨.bare hn trivial hk, hr, congrArg (c :: ·) ha⟩
  case escape cs c _ hi =>
    obtain ⟨hk, hr, ha⟩ := hi
    have hs : splitKey ('\\' :: c :: cs) = ('\\' :: c :: (splitKey cs).1, (splitKey cs).2) := by
      simp [splitKey]
    rw [hs]
    exact ⟨.escape hk, hr, congrArg ('\\' :: c :: ·) ha⟩

-- Only blanks and marks stand between a key and its value.
theorem exists_gap (rest : List Char) :
    ∃ gap, gap ++ valueAfter rest = rest ∧ ∀ c ∈ gap, isMark c ∨ isFormatBlank c := by
  have hb (cs : List Char) : ∀ c ∈ cs.takeWhile isFormatBlank, isMark c ∨ isFormatBlank c :=
    fun _ hc => .inr (List.mem_takeWhile_imp hc)
  have hs := @List.takeWhile_append_dropWhile _ isFormatBlank rest
  rw [valueAfter]
  split
  case h_1 hd => exact ⟨rest.takeWhile isFormatBlank, by rwa [hd] at hs, hb rest⟩
  case h_2 c value hd =>
    rw [hd] at hs
    split
    case isFalse => exact ⟨rest.takeWhile isFormatBlank, hs, hb rest⟩
    case isTrue hm =>
      refine ⟨rest.takeWhile isFormatBlank ++ c :: value.takeWhile isFormatBlank, ?_, ?_⟩
      · rw [List.append_assoc, List.cons_append, List.takeWhile_append_dropWhile, hs]
      · rw [List.forall_mem_append, List.forall_mem_cons]
        exact ⟨hb rest, .inl hm, hb value⟩

theorem splitEntry_paired (h : Paired line) :
    Paired (splitEntry line).1 ∧ Paired (splitEntry line).2 ∧
      ∃ gap, (splitEntry line).1 ++ gap ++ (splitEntry line).2 = line ∧
        ∀ c ∈ gap, isMark c ∨ isFormatBlank c := by
  have ⟨hk, hr, ha⟩ := splitKey_paired h
  have ⟨gap, hg, hb⟩ := exists_gap (splitKey line).2
  have hn : ∀ c ∈ gap, c ≠ '\\' := by
    rintro _ hc rfl
    exact absurd (hb _ hc) (by decide)
  rw [splitEntry]
  exact ⟨hk, .of_append hn (hg.symm ▸ hr), gap, by rw [List.append_assoc, hg, ha], hb⟩

theorem exists_of_continues (h : continues cs) :
    ∃ ds, cs = ds ++ ['\\'] ∧ continues ds = false := by
  rcases List.eq_nil_or_concat' cs with rfl | ⟨ds, c, rfl⟩
  · cases h
  · have hc : c = '\\' := by
      by_contra hc
      simp [continues, hc] at h
    subst hc
    rw [continues_concat_backslash] at h
    exact ⟨ds, rfl, by simpa using h⟩

-- What a line keeps ends in an even number of backslashes, and lacks one backslash if the line is
-- continued.
theorem keptOf_spec (line : List Char) :
    continues (keptOf line) = false ∧
      Text.trimStart line = keptOf line ++ if continues line then ['\\'] else [] := by
  rw [keptOf, ← continues_trimStart line]
  generalize Text.trimStart line = line
  cases hc : continues line
  case false => simp [hc]
  case true =>
    obtain ⟨ds, rfl, hd⟩ := exists_of_continues hc
    simp [hd]

theorem count_backslash_trimStart (line : List Char) :
    (Text.trimStart line).count '\\' = line.count '\\' := by
  have hb : (line.takeWhile Text.isBlank).count '\\' = 0 := by
    rw [List.count_eq_zero]
    exact fun hm => absurd (List.mem_takeWhile_imp hm) (by decide)
  have hs := congrArg (List.count '\\') (@List.takeWhile_append_dropWhile _ Text.isBlank line)
  rwa [List.count_append, hb, Nat.zero_add] at hs

theorem count_backslash_keptOf (line : List Char) :
    (keptOf line).count '\\' + (if continues line then 1 else 0) = line.count '\\' := by
  rw [← count_backslash_trimStart line, (keptOf_spec line).2, List.count_append]
  split_ifs <;> rfl

namespace Joined

theorem not_continues (h : Joined after lines text) : continues text = false := by
  induction h
  case last line _ => exact (keptOf_spec line).1
  case next line _ _ _ _ hi => rwa [continues_append_of_not (keptOf_spec line).1]

-- No backslash is lost between lines but one for each line that is continued.
theorem count_backslash (h : Joined after lines text) :
    text.count '\\' + lines.countP continues = lines.flatten.count '\\' := by
  induction h
  case last line _ =>
    have hk := count_backslash_keptOf line
    simpa [List.countP_cons] using hk
  case next line _ _ _ _ hi =>
    have hk := count_backslash_keptOf line
    rw [List.count_append, List.countP_cons, List.flatten_cons, List.count_append, ← hi, ← hk]
    omega

end Joined

theorem Parts.exists_joined (h : Parts number lines ls) :
    ∀ l ∈ ls, ∃ joined after, joined <:+: lines ∧ Joined after joined l.text := by
  induction h
  case nil => nofun
  case ignored hi =>
    intro l hl
    have ⟨joined, after, hs, hj⟩ := hi l hl
    exact ⟨joined, after, List.infix_cons hs, hj⟩
  case entry first after more text number ls _ hj _ hi =>
    intro l hl
    rw [← List.cons_append]
    rcases List.mem_cons.mp hl with rfl | hl
    · exact ⟨_, _, (List.prefix_append ..).isInfix, hj⟩
    · have ⟨joined, after₂, hs, hj⟩ := hi l hl
      exact ⟨joined, after₂, hs.trans (List.suffix_append ..).isInfix, hj⟩

-- What a backslash at the end would give does not matter where each backslash has its character.
theorem unescapeOr_eq {lone : Unescaping → Except (List Char) (List Char)}
    (h : Paired raw ∨ ∀ s : Unescaping, lone s = .ok s.finish) :
    unescapeOr lone s raw = unescapeFrom s raw := by
  fun_induction unescapeFrom s raw
  case case1 => rfl
  case case2 s =>
    rcases h with h | h
    · exact absurd h.not_continues (by decide)
    · exact h s
  case case3 s a b c d rest u hu hi =>
    have hd : IsEscapeNumber [a, b, c, d] := (escapedUnit?_isSome_iff rfl).mp (by simp [hu])
    have hp (h : Paired ('\\' :: 'u' :: ([a, b, c, d] ++ rest))) : Paired rest :=
      h.of_escape.of_append hd.ne_backslash
    simp only [unescapeOr, hu]
    exact hi (h.imp_left hp)
  case case4 hu => simp only [unescapeOr, hu]
  case case5 => simp only [unescapeOr]
  case case6 hi =>
    simp only [unescapeOr]
    exact hi (h.imp_left (·.of_escape))
  case case7 s c rest hn _ _ hb hi =>
    have hc : c ≠ '\\' := by
      intro hc
      rcases rest with _ | ⟨d, rest⟩
      · exact hn hc rfl
      · exact hb d rest hc rfl
    simp only [unescapeOr]
    exact hi (h.imp_left (·.of_cons hc))

-- For each logical line of a text: it ends in an even number of backslashes, and has those of its
-- lines but one for each of them that is continued. They are all in the key and in the value, where
-- each that nothing escapes has a character behind it. So it does not matter what is read from a
-- backslash at the end that escapes nothing.
theorem no_backslash_is_dropped (t : String) :
    (∀ s raw, unescapeOr (.ok ·.finish) s raw = unescapeFrom s raw) ∧
    ∀ l ∈ logicalLines t.toList,
      Even (endingBackslashes l.text) ∧
      (∃ lines after, lines <:+: Text.lines t.toList ∧ Joined after lines l.text ∧
        l.text.count '\\' + lines.countP continues = lines.flatten.count '\\') ∧
      (∃ gap, (splitEntry l.text).1 ++ gap ++ (splitEntry l.text).2 = l.text ∧
        ∀ c ∈ gap, isMark c ∨ isFormatBlank c) ∧
      ∀ raw ∈ [(splitEntry l.text).1, (splitEntry l.text).2],
        (∀ before after, raw = before ++ '\\' :: after → Even (endingBackslashes before) →
          after ≠ []) ∧
        ∀ lone, unescapeOr lone .start raw = unescape raw := by
  refine ⟨fun s raw => unescapeOr_eq (.inr fun _ => rfl), fun l hl => ?_⟩
  have ⟨lines, after, hs, hj⟩ := (parts_logicalLines t.toList).exists_joined l hl
  have ⟨hk, hv, hg⟩ := splitEntry_paired (paired_of_not_continues hj.not_continues)
  refine ⟨even_endingBackslashes_iff.mpr hj.not_continues,
    ⟨lines, after, hs, hj, hj.count_backslash⟩, hg, fun raw hr => ?_⟩
  have hp : Paired raw := by
    simp only [List.mem_cons, List.not_mem_nil, or_false] at hr
    rcases hr with rfl | rfl
    · exact hk
    · exact hv
  refine ⟨?_, fun lone => unescapeOr_eq (.inl hp)⟩
  rintro before after rfl hb
  exact hp.ne_nil_of_backslash (even_endingBackslashes_iff.mp hb)

-- The text ends in a line of backslashes only, which is continued. The third one of the value
-- escapes the last.
theorem no_backslash_is_dropped_at_end :
    let t := "k\\:=a\\\\\\\n  \\\\\\"
    let l : LogicalLine := ⟨1, "k\\:=a\\\\\\\\".toList⟩
    let before := "a\\\\".toList
    let after := ['\\']
    let raw := before ++ '\\' :: after
    l ∈ logicalLines t.toList ∧ Even (endingBackslashes l.text) ∧
    (∃ lines after, lines <:+: Text.lines t.toList ∧ Joined after lines l.text ∧
      l.text.count '\\' + lines.countP continues = lines.flatten.count '\\') ∧
    raw ∈ [(splitEntry l.text).1, (splitEntry l.text).2] ∧
    Even (endingBackslashes before) ∧ after ≠ [] ∧
    ∀ lone, unescapeOr lone .start raw = unescape raw := by
  intro t l before after raw
  have hl : l ∈ logicalLines t.toList := by decide +kernel
  have hr : raw ∈ [(splitEntry l.text).1, (splitEntry l.text).2] := by decide +kernel
  have hb : Even (endingBackslashes before) := by decide +kernel
  have ⟨he, hj, _, h⟩ := (no_backslash_is_dropped t).2 l hl
  exact ⟨hl, he, hj, hr, hb, (h raw hr).1 before after rfl hb, (h raw hr).2⟩

end ResourceEmbedding.Properties
