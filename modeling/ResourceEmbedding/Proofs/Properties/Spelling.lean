import ResourceEmbedding.Proofs.KeyMap
import ResourceEmbedding.Proofs.Properties.Malformed
import ResourceEmbedding.Proofs.Text.Utf16

namespace ResourceEmbedding.Properties

def IsDigitOf (n : Nat) (c : Char) : Prop :=
  c = n.digitChar ∨ c = n.digitChar.toUpper

inductive UnitSpelling (u : UInt16) : List Char → Prop
  | number : IsDigitOf (u.toNat / 0x1000) a → IsDigitOf (u.toNat / 0x100 % 0x10) b →
      IsDigitOf (u.toNat / 0x10 % 0x10) c → IsDigitOf (u.toNat % 0x10) d →
      UnitSpelling u ['\\', 'u', a, b, c, d]

inductive Spelled (R : α → List Char → Prop) : List α → List Char → Prop
  | nil  : Spelled R [] []
  | cons : R a part → Spelled R as rest → Spelled R (a :: as) (part ++ rest)

-- The characters with a meaning in the format, apart from white space.
def specials : List Char :=
  ['\\', '=', ':', '#', '!']

-- A character that may stand for itself anywhere.
structure Bare (c : Char) : Prop where
  notBlank   : ¬Text.isBlank c
  notSpecial : c ∉ specials

instance : DecidablePred Bare :=
  fun c => decidable_of_iff (¬Text.isBlank c ∧ c ∉ specials)
    ⟨fun h => ⟨h.1, h.2⟩, fun h => ⟨h.notBlank, h.notSpecial⟩⟩

inductive CharSpelling : Char → List Char → Prop
  | bare           : Bare c → CharSpelling c [c]
  | escape         : c ∈ ' ' :: specials → CharSpelling c ['\\', c]
  | tab            : CharSpelling '\t' ['\\', 't']
  | newline        : CharSpelling '\n' ['\\', 'n']
  | carriageReturn : CharSpelling '\r' ['\\', 'r']
  | formFeed       : CharSpelling '\x0c' ['\\', 'f']
  | number         : Spelled UnitSpelling (Utf16.ofChar c) raw → CharSpelling c raw

-- What may stand on both sides of a mark.
def IsGap (gap : List Char) : Prop :=
  ∀ c ∈ gap, c = ' ' ∨ c = '\t'

-- The line that holds a key and its value, up to its newline.
inductive LineSpelling (entry : String × String) : List Char → Prop
  | line (rawKey before : List Char) (mark : Char) (after rawValue : List Char) :
      Spelled CharSpelling entry.1.toList rawKey → IsGap before → mark = '=' ∨ mark = ':' →
      IsGap after → Spelled CharSpelling entry.2.toList rawValue →
      LineSpelling entry (rawKey ++ before ++ mark :: (after ++ rawValue))

inductive EntrySpelling (entry : String × String) : List Char → Prop
  | ended : LineSpelling entry line → EntrySpelling entry (line ++ ['\n'])

variable {c d mark : Char} {cs raw rest part line : List Char} {u : UInt16} {n : Nat}
variable {key value : String} {entry : String × String} {pairs : List (String × String)}
variable {R : α → List Char → Prop} {as : List α} {free p : Char → Prop}

namespace Spelled

theorem escaped (h : ∀ a part, R a part → Escaped free part) (hs : Spelled R as raw) :
    Escaped free raw := by
  induction hs
  case nil          => exact .nil
  case cons ha _ hi => exact (h _ _ ha).append hi

theorem forall_mem (h : ∀ a part, R a part → ∀ c ∈ part, p c) (hs : Spelled R as raw) :
    ∀ c ∈ raw, p c := by
  induction hs
  case nil          => nofun
  case cons ha _ hi => exact List.forall_mem_append.mpr ⟨h _ _ ha, hi⟩

end Spelled

namespace IsDigitOf

theorem hexValue? (h : IsDigitOf n c) (hn : n < 0x10) : Text.hexValue? c = some n := by
  have hd : ∀ n < 0x10, Text.hexValue? n.digitChar = some n ∧
    Text.hexValue? n.digitChar.toUpper = some n := by decide
  rcases h with rfl | rfl
  · exact (hd n hn).1
  · exact (hd n hn).2

theorem bare (h : IsDigitOf n c) (hn : n < 0x10) : Bare c := by
  have hd : ∀ n < 0x10, Bare n.digitChar ∧ Bare n.digitChar.toUpper := by decide
  rcases h with rfl | rfl
  · exact (hd n hn).1
  · exact (hd n hn).2

end IsDigitOf

theorem Bare.ne_backslash (h : Bare c) : c ≠ '\\' := by
  rintro rfl
  exact h.notSpecial (by decide)

theorem Bare.not_newline (h : Bare c) : c ≠ '\n' ∧ c ≠ '\r' := by
  constructor
  all_goals
    rintro rfl
    exact h.notBlank (by decide)

theorem Bare.escaped_cons (h : Bare c) (he : Escaped Bare cs) : Escaped Bare (c :: cs) :=
  .bare h.ne_backslash h he

namespace UnitSpelling

theorem escapedUnit? {a b c d : Char} (h : UnitSpelling u ['\\', 'u', a, b, c, d]) :
    escapedUnit? [a, b, c, d] = some u := by
  have hu := u.toNat_lt
  cases h
  case number ha hb hc hd =>
    have ha := ha.hexValue? (by omega)
    have hb := hb.hexValue? (by omega)
    have hc := hc.hexValue? (by omega)
    have hd := hd.hexValue? (by omega)
    have hp : a ≠ '+' := by
      rintro rfl
      cases ha
    have hn : Text.hex? [a, b, c, d] = some u.toNat := by
      simp only [Text.hex?, Text.hexFrom?, ha, hb, hc, hd, Option.bind_some, Option.some_inj]
      omega
    simp [Properties.escapedUnit?, hp, hn]

theorem escaped (h : UnitSpelling u raw) : Escaped Bare raw := by
  have hu := u.toNat_lt
  cases h
  case number ha hb hc hd =>
    have ha := ha.bare (by omega)
    have hb := hb.bare (by omega)
    have hc := hc.bare (by omega)
    have hd := hd.bare (by omega)
    exact .escape (ha.escaped_cons (hb.escaped_cons (hc.escaped_cons (hd.escaped_cons .nil))))

theorem not_newline (h : UnitSpelling u raw) : ∀ c ∈ raw, c ≠ '\n' ∧ c ≠ '\r' := by
  have hu := u.toNat_lt
  cases h
  case number ha hb hc hd =>
    have ha := (ha.bare (by omega)).not_newline
    have hb := (hb.bare (by omega)).not_newline
    have hc := (hc.bare (by omega)).not_newline
    have hd := (hd.bare (by omega)).not_newline
    simp [ha, hb, hc, hd]

theorem unescapeFrom (h : UnitSpelling u raw) (s : Unescaping) (rest : List Char) :
    unescapeFrom s (raw ++ rest) = unescapeFrom (s.pushUnit u) rest := by
  have hu := h
  cases h
  case number => simp [Properties.unescapeFrom, hu.escapedUnit?]

end UnitSpelling

theorem unescapeFrom_units {units : List UInt16} (h : Spelled UnitSpelling units raw)
    (s : Unescaping) (rest : List Char) :
    unescapeFrom s (raw ++ rest) = unescapeFrom (units.foldl .pushUnit s) rest := by
  induction h generalizing s
  case nil => rfl
  case cons hu _ hi => rw [List.append_assoc, hu.unescapeFrom, hi, List.foldl_cons]

theorem foldl_pushUnit_ofChar (c : Char) (done : List Char) :
    (Utf16.ofChar c).foldl .pushUnit ⟨none, done⟩ = (⟨none, c :: done⟩ : Unescaping) := by
  by_cases hc : c.toNat < 0x10000
  case pos =>
    obtain ⟨u, ho, hu, hp⟩ := Utf16.ofChar_plain hc
    simp [ho, hu, hp.notHigh, hp.notLow, Unescaping.pushUnit, Unescaping.pushUnit.push]
  case neg =>
    obtain ⟨u, v, ho, hu, hv, hp⟩ := Utf16.ofChar_pair hc
    simp [ho, hu, hv, hp, Unescaping.pushUnit, Unescaping.pushUnit.push]

namespace CharSpelling

theorem escaped (h : CharSpelling c raw) : Escaped Bare raw := by
  cases h
  case bare h   => exact h.escaped_cons .nil
  case number h => exact h.escaped fun _ _ => UnitSpelling.escaped
  all_goals exact .escape .nil

theorem not_newline (h : CharSpelling c raw) : ∀ d ∈ raw, d ≠ '\n' ∧ d ≠ '\r' := by
  cases h
  case bare h   => simpa using h.not_newline
  case number h => exact h.forall_mem fun _ _ => UnitSpelling.not_newline
  case escape h =>
    have hn : ∀ d ∈ ' ' :: specials, d ≠ '\n' ∧ d ≠ '\r' := by simp [specials]
    simpa using hn c h
  all_goals simp

-- No high surrogate waits for its partner between two characters.
theorem unescapeFrom (h : CharSpelling c raw) (done rest : List Char) :
    unescapeFrom ⟨none, done⟩ (raw ++ rest) = unescapeFrom ⟨none, c :: done⟩ rest := by
  cases h
  case bare h =>
    simp [Properties.unescapeFrom, h.ne_backslash, Unescaping.pushChar, Unescaping.flush]
  case escape h =>
    have hc : ∀ d ∈ ' ' :: specials, d ≠ 'u' ∧ escapedChar d = d := by
      simp [specials, escapedChar]
    obtain ⟨hu, he⟩ := hc c h
    simp [Properties.unescapeFrom, hu, he, Unescaping.pushChar, Unescaping.flush]
  case number h => rw [unescapeFrom_units h, foldl_pushUnit_ofChar]
  all_goals rfl

end CharSpelling

theorem unescape_spelled (h : Spelled CharSpelling cs raw) : unescape raw = .ok cs := by
  suffices hd : ∀ done, unescapeFrom ⟨none, done⟩ raw = .ok (done.reverse ++ cs) from hd []
  intro done
  induction h generalizing done
  case nil => simp [unescapeFrom, Unescaping.finish, Unescaping.flush]
  case cons hc _ hi => rw [hc.unescapeFrom, hi]; simp

theorem readRaw_spelled (h : Spelled CharSpelling key.toList raw) : readRaw n raw = .ok key := by
  simp [readRaw, unescape_spelled h]

theorem Bare.not_isMark (h : Bare c) : isMark c = false := by
  have hs := h.notSpecial
  simp [isMark, specials] at hs ⊢
  simp [hs]

theorem isBlank_of_isFormatBlank (h : isFormatBlank c) : Text.isBlank c := by
  simp only [isFormatBlank, Bool.or_eq_true, beq_iff_eq] at h
  rcases h with (rfl | rfl) | rfl <;> decide

theorem Bare.not_isFormatBlank (h : Bare c) : isFormatBlank c = false := by
  rw [← Bool.not_eq_true]
  exact mt isBlank_of_isFormatBlank h.notBlank

theorem splitKey_append (h : Escaped Bare raw)
    (hr : ∀ c ∈ rest.head?, isMark c ∨ isFormatBlank c) : splitKey (raw ++ rest) = (raw, rest) := by
  induction h
  case nil =>
    rcases rest with _ | ⟨c, rest⟩
    · rfl
    · have hc := hr c rfl
      have hn : c ≠ '\\' := by
        rintro rfl
        simp [isMark, isFormatBlank] at hc
      rcases hc with hc | hc <;> simp [splitKey, hn, hc]
  case bare hn hb _ hi =>
    simp [splitKey, hn, hb.not_isMark, hb.not_isFormatBlank, hi]
  case escape hi =>
    simp [splitKey, hi]

theorem Escaped.not_blank_head (h : Escaped Bare raw) : ∀ c ∈ raw.head?, ¬Text.isBlank c := by
  cases h
  case nil => nofun
  case bare hb _ => simpa using hb.notBlank
  case escape => simp; decide

theorem IsGap.isFormatBlank (h : IsGap raw) : ∀ c ∈ raw, isFormatBlank c := by
  intro c hc
  rcases h c hc with rfl | rfl <;> rfl

theorem IsGap.not_newline (h : IsGap raw) : ∀ c ∈ raw, c ≠ '\n' ∧ c ≠ '\r' := by
  intro c hc
  rcases h c hc with rfl | rfl <;> decide

theorem IsGap.ne_backslash (h : IsGap raw) : ∀ c ∈ raw, c ≠ '\\' := by
  intro c hc
  rcases h c hc with rfl | rfl <;> decide

theorem IsGap.dropWhile_append (h : IsGap raw) (rest : List Char) :
    (raw ++ rest).dropWhile Properties.isFormatBlank =
      rest.dropWhile Properties.isFormatBlank :=
  List.dropWhile_append_of_pos h.isFormatBlank

theorem dropWhile_escaped (h : Escaped Bare raw) : raw.dropWhile isFormatBlank = raw := by
  have hb := h.not_blank_head
  rcases raw with _ | ⟨c, raw⟩
  · rfl
  · rw [List.dropWhile_cons_of_neg (mt isBlank_of_isFormatBlank (hb c rfl))]

theorem valueAfter_gap {before after : List Char} (hb : IsGap before)
    (hm : mark = '=' ∨ mark = ':') (ha : IsGap after) (hv : Escaped Bare raw) :
    valueAfter (before ++ mark :: (after ++ raw)) = raw := by
  have hn : ¬isFormatBlank mark := by rcases hm with rfl | rfl <;> decide
  have hm : isMark mark := by simpa [isMark] using hm
  rw [valueAfter, hb.dropWhile_append, List.dropWhile_cons_of_neg hn]
  simp only [hm, if_true]
  rw [ha.dropWhile_append, dropWhile_escaped hv]

theorem Spelled.escapedBare (h : Spelled CharSpelling cs raw) : Escaped Bare raw :=
  h.escaped fun _ _ => CharSpelling.escaped

theorem trimStart_gap {before : List Char} (hb : IsGap before) (hm : mark = '=' ∨ mark = ':') :
    Text.trimStart (before ++ mark :: rest) = mark :: rest := by
  have hn : ¬Text.isBlank mark := by rcases hm with rfl | rfl <;> decide
  rw [Text.trimStart,
    List.dropWhile_append_of_pos fun c hc => isBlank_of_isFormatBlank (hb.isFormatBlank c hc),
    List.dropWhile_cons_of_neg hn]

namespace LineSpelling

theorem splitEntry_eq (h : LineSpelling entry line) :
    ∃ rawKey rawValue, splitEntry line = (rawKey, rawValue) ∧
      Spelled CharSpelling entry.1.toList rawKey ∧
      Spelled CharSpelling entry.2.toList rawValue := by
  obtain ⟨rawKey, before, mark, after, rawValue, hk, hb, hm, ha, hv⟩ := h
  refine ⟨rawKey, rawValue, ?_, hk, hv⟩
  have hc : ∀ c ∈ (before ++ mark :: (after ++ rawValue)).head?, isMark c ∨ isFormatBlank c := by
    rcases before with _ | ⟨b, before⟩
    · simpa [isMark] using .inl hm
    · simp [hb.isFormatBlank b List.mem_cons_self]
  rw [splitEntry, List.append_assoc, splitKey_append hk.escapedBare hc]
  simp only
  rw [valueAfter_gap hb hm ha hv.escapedBare]

theorem readLine_eq_ok (h : LineSpelling entry line) (n : Nat) :
    readLine ⟨n, line⟩ = .ok entry := by
  have ⟨rawKey, rawValue, hs, hk, hv⟩ := h.splitEntry_eq
  rw [readLine_eq, hs, readRaw_spelled hk, readRaw_spelled hv]
  rfl

theorem not_newline (h : LineSpelling entry line) : ∀ c ∈ line, c ≠ '\n' ∧ c ≠ '\r' := by
  obtain ⟨rawKey, before, mark, after, rawValue, hk, hb, hm, ha, hv⟩ := h
  have hk := hk.forall_mem fun _ _ => CharSpelling.not_newline
  have hv := hv.forall_mem fun _ _ => CharSpelling.not_newline
  simp only [List.forall_mem_append, List.forall_mem_cons]
  refine ⟨⟨hk, hb.not_newline⟩, ?_, ha.not_newline, hv⟩
  rcases hm with rfl | rfl <;> decide

-- White space before the mark of an empty key is left out.
theorem trimStart (h : LineSpelling entry line) : LineSpelling entry (Text.trimStart line) := by
  obtain ⟨rawKey, before, mark, after, rawValue, hk, hb, hm, ha, hv⟩ := h
  rcases rawKey with _ | ⟨c, rawKey⟩
  · rw [List.nil_append, trimStart_gap hb hm]
    exact .line [] [] mark after rawValue hk nofun hm ha hv
  · have hc := hk.escapedBare.not_blank_head c rfl
    have ht : Text.trimStart (c :: rawKey ++ before ++ mark :: (after ++ rawValue)) =
        c :: rawKey ++ before ++ mark :: (after ++ rawValue) :=
      List.dropWhile_cons_of_neg hc
    rw [ht]
    exact .line _ before mark after rawValue hk hb hm ha hv

theorem not_isIgnored (h : LineSpelling entry line) : isIgnored line = false := by
  obtain ⟨rawKey, before, mark, after, rawValue, hk, hb, hm, ha, hv⟩ := h
  rcases rawKey with _ | ⟨c, rawKey⟩
  · rcases before with _ | ⟨c, before⟩
    · rcases hm with rfl | rfl <;> rfl
    · rcases hb c List.mem_cons_self with rfl | rfl <;> rfl
  · cases hk.escapedBare
    case bare hc _ =>
      have hs := hc.notSpecial
      simp only [specials, List.mem_cons, not_or] at hs
      simp [isIgnored, hs]
    case escape => rfl

theorem not_continues (h : LineSpelling entry line) : continues line = false := by
  obtain ⟨rawKey, before, mark, after, rawValue, hk, hb, hm, ha, hv⟩ := h
  have hn : mark ≠ '\\' := by rcases hm with rfl | rfl <;> decide
  rw [List.append_assoc, hk.escapedBare.continues_append, continues_append hb.ne_backslash,
    continues_cons hn, continues_append ha.ne_backslash, hv.escapedBare.not_continues]

end LineSpelling

theorem logicalLinesFrom_cons {lines : List (List Char)}
    (hi : isIgnored (Text.trimStart line) = false) (hc : continues (Text.trimStart line) = false) :
    logicalLinesFrom n none (line :: lines) =
      ⟨n, Text.trimStart line⟩ :: logicalLinesFrom (n + 1) none lines := by
  simp [logicalLinesFrom, hi, hc]

theorem mapM_readLine_spelled (h : Spelled EntrySpelling pairs raw) (n : Nat) :
    (logicalLinesFrom n none (Text.lines raw)).mapM readLine = .ok pairs := by
  induction h generalizing n
  case nil => rfl
  case cons he _ hi =>
    obtain ⟨hl⟩ := he
    have hn := hl.not_newline
    rw [List.append_assoc, List.singleton_append,
      lines_append_newline (fun h => (hn _ h).1 rfl) (fun h => (hn _ h).2 rfl)]
    have ht := hl.trimStart
    rw [logicalLinesFrom_cons ht.not_isIgnored ht.not_continues, List.mapM_cons,
      ht.readLine_eq_ok, hi]
    rfl

-- Each spelling of some pairs is read; of several values for one key the last counts.
theorem read_spelled {text : String} (h : Spelled EntrySpelling pairs text.toList) :
    ∃ entries, read text = .ok entries ∧
      ∀ key, entries.get? key = pairs.reverse.lookup key := by
  refine ⟨.ofList pairs, ?_, fun _ => KeyMap.get?_ofList⟩
  rw [read, logicalLines, mapM_readLine_spelled h]
  rfl

-- A key with two spellings, and an empty key with a value of two code units.
theorem read_spelled_twice :
    let text := "a\\ b = \\t\\\\\n\t:\\uD83d\\uDE00\na\\u0020b:\n"
    let pairs := [("a b", "\t\\"), ("", "😀"), ("a b", "")]
    Spelled EntrySpelling pairs text.toList ∧ ∃ entries, read text = .ok entries ∧
      ∀ key, entries.get? key = pairs.reverse.lookup key := by
  intro text pairs
  have h20 : UnitSpelling 0x20 "\\u0020".toList :=
    .number (.inl rfl) (.inl rfl) (.inl rfl) (.inl rfl)
  have hd83d : UnitSpelling 0xD83D "\\uD83d".toList :=
    .number (.inr rfl) (.inl rfl) (.inl rfl) (.inl rfl)
  have hde00 : UnitSpelling 0xDE00 "\\uDE00".toList :=
    .number (.inr rfl) (.inr rfl) (.inl rfl) (.inl rfl)
  have ha : CharSpelling 'a' ['a'] := .bare (by decide)
  have hb : CharSpelling 'b' ['b'] := .bare (by decide)
  have hs₁ : CharSpelling ' ' "\\ ".toList := .escape (by decide)
  have hs₂ : CharSpelling ' ' "\\u0020".toList := .number (.cons h20 .nil)
  have ht : CharSpelling '\t' "\\t".toList := .tab
  have hl : CharSpelling '\\' "\\\\".toList := .escape (by decide)
  have hf : CharSpelling '😀' "\\uD83d\\uDE00".toList := .number (.cons hd83d (.cons hde00 .nil))
  have hk₁ : Spelled CharSpelling ['a', ' ', 'b'] "a\\ b".toList :=
    .cons ha (.cons hs₁ (.cons hb .nil))
  have hk₂ : Spelled CharSpelling ['a', ' ', 'b'] "a\\u0020b".toList :=
    .cons ha (.cons hs₂ (.cons hb .nil))
  have hv : Spelled CharSpelling ['\t', '\\'] "\\t\\\\".toList := .cons ht (.cons hl .nil)
  have hg : IsGap [' '] := by simp [IsGap]
  have hg₂ : IsGap ['\t'] := by simp [IsGap]
  have h₁ := @LineSpelling.line ("a b", "\t\\") _ [' '] '=' [' '] _ hk₁ hg (.inl rfl) hg hv
  have h₂ := @LineSpelling.line ("", "😀") [] ['\t'] ':' [] _ .nil hg₂ (.inr rfl) nofun
    (.cons hf .nil)
  have h₃ := @LineSpelling.line ("a b", "") _ [] ':' [] [] hk₂ nofun (.inr rfl) nofun .nil
  have e₁ := EntrySpelling.ended h₁
  have e₂ := EntrySpelling.ended h₂
  have e₃ := EntrySpelling.ended h₃
  have h : Spelled EntrySpelling pairs text.toList := by
    convert Spelled.cons e₁ (.cons e₂ (.cons e₃ .nil)) using 1
    decide +kernel
  exact ⟨h, read_spelled h⟩

end ResourceEmbedding.Properties
