import ResourceEmbedding.Proofs.Json.Text
import ResourceEmbedding.Proofs.Staged
import ResourceEmbedding.Proofs.Template.Analysis
import ResourceEmbedding.Proofs.Text.Keyword

namespace ResourceEmbedding

namespace Template

inductive Piece
  | literal (text : String)
  | bare (index : Nat)
  | formatted (index : Nat) (format : String)
  | styled (index : Nat) (format style : String)
deriving DecidableEq, Repr

def escape (c : Char) : List Char :=
  if c = '\'' then ['\'', '\'']
  else if c = '\x7b' ∨ c = '\x7d' then ['\'', c, '\'']
  else [c]

def Piece.write : Piece → String
  | literal text => .ofList (text.toList.flatMap escape)
  | bare index => s!"\x7b{index}\x7d"
  | formatted index format => s!"\x7b{index},{format}\x7d"
  | styled index format style => s!"\x7b{index},{format},{style}\x7d"

def write (pieces : List Piece) : String :=
  .join (pieces.map Piece.write)

def Piece.placeholder? : Piece → Option Placeholder
  | literal _ => none
  | bare index => some ⟨index, .ofFormat none, none, none⟩
  | formatted index format => some ⟨index, .ofFormat format, format, none⟩
  | styled index format style => some ⟨index, .ofFormat format, format, style⟩

-- A text that is not empty, without white space at its ends.
structure Tight (text : String) : Prop where
  nonempty : text ≠ ""
  head     : ∀ c ∈ text.toList.head?, Text.isBlank c = false
  last     : ∀ c ∈ text.toList.getLast?, Text.isBlank c = false

structure IsFormat (text : String) : Prop extends Tight text where
  plain : ∀ c ∈ text.toList, c ∉ [',', '\x7b', '\x7d', '\'']

structure IsStyle (text : String) : Prop extends Tight text where
  closed   : Even (text.toList.count '\'')
  balanced : Balanced text.toList

-- Indices are small, and formats and styles can be told from what stands around them.
inductive Piece.Writable : Piece → Prop
  | literal (text : String) : Writable (.literal text)
  | bare {index : Nat} (hi : index < 10000) : Writable (.bare index)
  | formatted {index : Nat} {format : String} (hi : index < 10000) (hf : IsFormat format) :
    Writable (.formatted index format)
  | styled {index : Nat} {format style : String} (hi : index < 10000) (hf : IsFormat format)
    (hs : IsStyle style) : Writable (.styled index format style)

variable {text rest cs body : List Char} {found more : List Placeholder} {p : Placeholder}
variable {c : Char} {n i : Nat} {o : Opened} {format style : String}

-- Inside a placeholder and outside quotes, `text` is read into the body, and the depth and the
-- quotes are then what they were.
def Passes (text : List Char) : Prop :=
  ∀ n o found, ∃ m, text.foldlM Scan.push ⟨n, false, some o, found⟩ =
    .ok ⟨m, false, some { o with body := text.reverse ++ o.body }, found⟩

theorem Passes.append (ht : Passes text) (hr : Passes rest) : Passes (text ++ rest) := by
  intro n o found
  have ⟨m, ht⟩ := ht n o found
  have ⟨k, hr⟩ := hr m { o with body := text.reverse ++ o.body } found
  refine ⟨k, ?_⟩
  rw [List.foldlM_append, ht, List.reverse_append, List.append_assoc]
  exact hr

theorem passes_plain (h : ∀ c ∈ text, c ∉ ['\x7b', '\x7d', '\'']) : Passes text := by
  induction text
  case nil => exact fun n o found => ⟨n, rfl⟩
  case cons c text hi =>
    have ⟨hc, ht⟩ := List.forall_mem_cons.mp h
    simp only [List.mem_cons, List.not_mem_nil, or_false, not_or] at hc
    have hp : Passes [c] := by
      intro n o found
      refine ⟨n + c.utf8Size, ?_⟩
      simp [Scan.push, Scan.pushInside, hc]
    exact hp.append (hi ht)

-- A character of a text with balanced braces leads from its place to the next.
theorem push_balanced (hb : Balanced cs) (hc : cs[i]? = some c) (n k d : Nat) (body : List Char)
    (found : List Placeholder) :
    Scan.push ⟨n, decide (QuotedAt cs i), some ⟨k, d + (depth cs i).toNat, body⟩, found⟩ c =
      .ok ⟨n + c.utf8Size, decide (QuotedAt cs (i + 1)),
        some ⟨k, d + (depth cs (i + 1)).toNat, c :: body⟩, found⟩ := by
  let s : Scan := ⟨n, decide (QuotedAt cs i), some ⟨k, d + (depth cs i).toNat, body⟩, found⟩
  have hl := (List.getElem?_eq_some_iff.mp hc).1
  have h₀ := hb.nonneg i (Nat.le_of_lt hl)
  have h₁ := hb.nonneg (i + 1) hl
  have hs : s.quoted ↔ QuotedAt cs i := decide_eq_true_iff
  have hm {brace : Char} : s.Meets c brace ↔ ActiveAt cs i brace := meets_iff_activeAt hs hc
  have hq : (s.quoted != (c == '\'')) = decide (QuotedAt cs (i + 1)) :=
    Bool.eq_iff_iff.mpr ((quoted_iff_quotedAt_succ hs hc).trans decide_eq_true_iff.symm)
  have ⟨result, he, hp⟩ := s.exists_effect c
  rw [hp]
  cases he
  case outside ho _ _ | opening ho _ | unmatched ho _ => cases ho
  case inside ho hn₁ hn₂ =>
    cases ho
    rw [depth_passive (mt hm.mpr hn₁) (mt hm.mpr hn₂), ← hq]
    rfl
  case deeper ho hm₁ =>
    cases ho
    have hd : d + (depth cs (i + 1)).toNat = d + (depth cs i).toNat + 1 := by
      rw [depth_opening (hm.mp hm₁)]
      omega
    rw [hd, ← hq]
    rfl
  case higher e ho hd hm₂ =>
    cases ho
    have hd : d + (depth cs i).toNat = e + 1 := hd
    have he : d + (depth cs (i + 1)).toNat = e := by
      rw [depth_closing (hm.mp hm₂)] at h₁ ⊢
      omega
    rw [he, ← hq]
    rfl
  case complete ho hd hm₂ _ | faulty ho hd hm₂ _ =>
    cases ho
    have hd : d + (depth cs i).toNat = 0 := hd
    have hc := depth_closing (hm.mp hm₂)
    omega

theorem exists_foldlM_balanced (hb : Balanced cs) (n : Nat) (o : Opened) (found : List Placeholder)
    (hi : i ≤ cs.length) :
    ∃ m, (cs.take i).foldlM Scan.push ⟨n, false, some o, found⟩ = .ok ⟨m, decide (QuotedAt cs i),
      some ⟨o.offset, o.depth + (depth cs i).toNat, (cs.take i).reverse ++ o.body⟩, found⟩ := by
  induction i
  case zero =>
    refine ⟨n, ?_⟩
    simp [QuotedAt, depth]
    rfl
  case succ i hr =>
    obtain ⟨m, hm⟩ := hr (Nat.le_of_succ_le hi)
    have hc : cs[i]? = some cs[i] := List.getElem?_eq_getElem hi
    refine ⟨m + cs[i].utf8Size, ?_⟩
    rw [foldlM_take_succ hc, hm, List.take_add_one, hc, List.reverse_append]
    exact push_balanced hb hc m o.offset o.depth _ found

theorem passes_balanced (he : Even (cs.count '\'')) (hb : Balanced cs) : Passes cs := by
  intro n o found
  have ⟨m, hm⟩ := exists_foldlM_balanced hb n o found (Nat.le_refl _)
  have hq : ¬QuotedAt cs cs.length := by simpa [QuotedAt] using he
  rw [List.take_length, decide_eq_false hq, hb.closed] at hm
  exact ⟨m, hm⟩

-- Outside placeholders and quotes, `text` is read to its end, and these are its placeholders.
def Finds (text : List Char) (found : List Placeholder) : Prop :=
  ∀ n before, ∃ m, text.foldlM Scan.push ⟨n, false, none, before⟩ =
    .ok ⟨m, false, none, found.reverse ++ before⟩

theorem Finds.nil : Finds [] [] :=
  fun n _ => ⟨n, rfl⟩

theorem Finds.append (ht : Finds text found) (hr : Finds rest more) :
    Finds (text ++ rest) (found ++ more) := by
  intro n before
  have ⟨m, ht⟩ := ht n before
  have ⟨k, hr⟩ := hr m (found.reverse ++ before)
  refine ⟨k, ?_⟩
  rw [List.foldlM_append, ht, List.reverse_append, List.append_assoc]
  exact hr

theorem finds_escape (c : Char) : Finds (escape c) [] := by
  intro n before
  rw [escape]
  split_ifs with hq hb
  · exact ⟨_, rfl⟩
  · rcases hb with rfl | rfl <;> exact ⟨_, rfl⟩
  · rw [not_or] at hb
    exact ⟨n + c.utf8Size, by simp [Scan.push, Scan.pushOutside, hq, hb]⟩

theorem finds_literal (text : List Char) : Finds (text.flatMap escape) [] := by
  induction text
  case nil            => exact .nil
  case cons c text hi => exact (finds_escape c).append hi

theorem finds_placeholder (hb : Passes body) (hp : Describes body p) :
    Finds ('\x7b' :: (body ++ ['\x7d'])) [p] := by
  intro n before
  have ⟨m, hb⟩ := hb (n + 1) ⟨n, 0, []⟩ before
  refine ⟨m + 1, ?_⟩
  rw [List.foldlM_cons, bind_eq_ok]
  refine ⟨⟨n + 1, false, some ⟨n, 0, []⟩, before⟩, rfl, ?_⟩
  rw [List.foldlM_append, bind_eq_ok]
  refine ⟨_, hb, ?_⟩
  have hr : readBody body = .ok p := readBody_eq_ok_iff.mpr hp
  have hc : Scan.push ⟨m, false, some ⟨n, 0, body.reverse ++ []⟩, before⟩ '\x7d' =
      .ok ⟨m + 1, false, none, p :: before⟩ := by
    simp [Scan.push, Scan.pushInside, hr]
    rfl
  rw [List.foldlM_cons, hc]
  rfl

theorem isBlank_of_isDigit (h : c.isDigit) : Text.isBlank c = false := by
  have hd : 48 ≤ c.toNat ∧ c.toNat ≤ 57 := by
    simpa [Char.isDigit, UInt32.le_iff_toNat_le] using h
  simp only [Text.isBlank, Bool.or_eq_false_iff, Bool.and_eq_false_iff, beq_eq_false_iff_ne,
    decide_eq_false_iff_not]
  omega

theorem indexes_toDigits (hn : n < 10000) : Indexes (Nat.toDigits 10 n) n := by
  have hd : ∀ c ∈ Nat.toDigits 10 n, c.isDigit := fun c =>
    Nat.isDigit_of_mem_toDigits (by decide) (by decide)
  have ht : Text.trim (Nat.toDigits 10 n) = Nat.toDigits 10 n :=
    Text.trim_of_ends (fun c hc => isBlank_of_isDigit (hd c (List.mem_of_mem_head? hc)))
      fun c hc => isBlank_of_isDigit (hd c (List.mem_of_getLast? hc))
  exact ⟨by rw [ht]; exact Nat.toDigits_ne_nil, by rwa [ht], by rw [ht, Text.decimalValue_toDigits],
    hn⟩

theorem notMem_toDigits (hc : ¬c.isDigit) (n : Nat) : c ∉ Nat.toDigits 10 n :=
  fun hm => hc (Nat.isDigit_of_mem_toDigits (by decide) (by decide) hm)

theorem passes_toDigits (n : Nat) : Passes (Nat.toDigits 10 n) := by
  refine passes_plain fun c hc hm => ?_
  simp only [List.mem_cons, List.not_mem_nil, or_false] at hm
  rcases hm with rfl | rfl | rfl
  all_goals exact notMem_toDigits (by decide) n hc

theorem passes_comma : Passes [','] :=
  passes_plain (by simp)

theorem Tight.trimmed (h : Tight format) : Trimmed (some format.toList) (some format) := by
  have ht : Text.trim format.toList = format.toList := Text.trim_of_ends h.head h.last
  have hn : Text.trim format.toList ≠ [] := by
    rw [ht]
    exact fun he => h.nonempty (String.toList_eq_nil_iff.mp he)
  simpa [ht] using Trimmed.text hn

theorem IsFormat.passes (h : IsFormat format) : Passes format.toList :=
  passes_plain fun c hc hm => h.plain c hc (List.mem_cons_of_mem _ hm)

theorem IsFormat.comma_notMem (h : IsFormat format) : ',' ∉ format.toList :=
  fun hm => h.plain _ hm List.mem_cons_self

theorem IsStyle.passes (h : IsStyle style) : Passes style.toList :=
  passes_balanced h.closed h.balanced

theorem Piece.Writable.finds {piece : Piece} (h : piece.Writable) :
    Finds piece.write.toList piece.placeholder?.toList := by
  have hc (n : Nat) : ',' ∉ Nat.toDigits 10 n := notMem_toDigits (by decide) n
  cases h
  case literal text =>
    rw [Piece.write, String.toList_ofList]
    exact finds_literal text.toList
  case bare n hi =>
    have hw : (Piece.bare n).write.toList = '\x7b' :: (Nat.toDigits 10 n ++ ['\x7d']) := by
      simp [Piece.write, toString]
    rw [hw]
    exact finds_placeholder (passes_toDigits n)
      (.intro (.index (hc n)) (indexes_toDigits hi) .missing .missing)
  case formatted n format hi hf =>
    have hw : (Piece.formatted n format).write.toList =
        '\x7b' :: ((Nat.toDigits 10 n ++ ',' :: format.toList) ++ ['\x7d']) := by
      simp [Piece.write, toString]
    have hb : Passes (Nat.toDigits 10 n ++ ',' :: format.toList) :=
      (passes_toDigits n).append (passes_comma.append hf.passes)
    have hd := Describes.intro (.format (hc n) hf.comma_notMem) (indexes_toDigits hi) hf.trimmed
      .missing
    rw [Option.map_some, String.ofList_toList] at hd
    rw [hw]
    exact finds_placeholder hb hd
  case styled n format style hi hf hs =>
    have hw : (Piece.styled n format style).write.toList = '\x7b' ::
        ((Nat.toDigits 10 n ++ ',' :: (format.toList ++ ',' :: style.toList)) ++ ['\x7d']) := by
      simp [Piece.write, toString]
    have hb : Passes (Nat.toDigits 10 n ++ ',' :: (format.toList ++ ',' :: style.toList)) :=
      (passes_toDigits n).append
        (passes_comma.append (hf.passes.append (passes_comma.append hs.passes)))
    have hd := Describes.intro (.style (hc n) hf.comma_notMem) (indexes_toDigits hi) hf.trimmed
      hs.trimmed
    rw [Option.map_some, String.ofList_toList] at hd
    rw [hw]
    exact finds_placeholder hb hd

theorem finds_write {pieces : List Piece} (h : ∀ p ∈ pieces, p.Writable) :
    Finds (write pieces).toList (pieces.filterMap Piece.placeholder?) := by
  induction pieces
  case nil => exact .nil
  case cons piece pieces hi =>
    have ⟨hp, hr⟩ := List.forall_mem_cons.mp h
    have hw := hp.finds.append (hi hr)
    rw [write, String.toList_join] at hw ⊢
    rw [List.filterMap_cons]
    cases hf : piece.placeholder? <;> simpa [hf] using hw

end Template

open Template

-- The analysis of a written template succeeds, and finds the placeholders that were written.
theorem analyze_write {pieces : List Piece} (h : ∀ p ∈ pieces, p.Writable) :
    ∃ shape, analyze (write pieces) = .ok shape ∧
      shape.placeholders = pieces.filterMap Piece.placeholder? := by
  have ⟨m, hm⟩ := finds_write h 0 []
  have hp : placeholders (write pieces).toList = .ok (pieces.filterMap Piece.placeholder?) := by
    rw [placeholders, Scan.start, hm]
    simp [Scan.finish, bind, Except.bind]
  exact ⟨_, by rw [analyze, hp], rfl⟩

-- Two literals that make a run of apostrophes, and a style with a brace in quotes and a
-- placeholder.
theorem analyze_write_quoted :
    let style := "1<'\x7b'\x7b1\x7d"
    let pieces := [.literal "it's \x7b", .literal "'", .styled 7 "choice" style, .bare 0]
    (∀ p ∈ pieces, Piece.Writable p) ∧
    write pieces = "it''s '\x7b'''\x7b7,choice,1<'\x7b'\x7b1\x7d\x7d\x7b0\x7d" ∧
    ∃ shape, analyze (write pieces) = .ok shape ∧
      shape.placeholders = [⟨7, .number, "choice", style⟩, ⟨0, .text, none, none⟩] := by
  intro style pieces
  have hf : IsFormat "choice" := by
    refine ⟨⟨by decide, ?_, ?_⟩, ?_⟩ <;> simp [Text.isBlank]
  have hs : IsStyle style := by
    have ht : Tight style := by
      refine ⟨by decide, ?_, ?_⟩ <;> simp [style, Text.isBlank]
    exact ⟨ht, by decide +kernel, by decide +kernel, by decide +kernel⟩
  have hw : ∀ p ∈ pieces, p.Writable := by
    simp only [pieces, List.forall_mem_cons]
    exact ⟨.literal _, .literal _, .styled (by decide) hf hs, .bare (by decide), nofun⟩
  have ⟨shape, ha, hp⟩ := analyze_write hw
  exact ⟨hw, by decide +kernel, shape, ha, hp.trans (by decide +kernel)⟩

end ResourceEmbedding
