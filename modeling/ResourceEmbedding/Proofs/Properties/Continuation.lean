import ResourceEmbedding.Proofs.Properties.Spelling
import ResourceEmbedding.Proofs.Text.Keyword

namespace ResourceEmbedding.Properties

-- The line of `a` and `b`, parted by a backslash and a newline. Its second half is indented.
def continued (a indent b : List Char) : List Char :=
  a ++ '\\' :: '\n' :: (indent ++ b)

variable {a b indent : List Char} {s t : String}

theorem isIgnored_append (h : a ≠ []) (b : List Char) : isIgnored (a ++ b) = isIgnored a := by
  cases a
  case nil  => exact absurd rfl h
  case cons => rfl

theorem lines_continued (h : '\n' ∉ a) (indent b : List Char) :
    Text.lines (continued a indent b) = (a ++ ['\\']) :: Text.lines (indent ++ b) := by
  rw [← lines_append_newline_of_getLast? (by simpa using h) (by simp)]
  simp [continued]

section
variable (h : EntryLine (a ++ b)) (ha : ¬continues a)
include h ha

theorem EntryLine.not_continues_right : continues b = false := by
  rw [← continues_append_of_not (by simpa using ha)]
  simpa using h.finished

theorem EntryLine.append_trimStart : EntryLine (a ++ Text.trimStart b) where
  unbroken := by
    have hb : (Text.trimStart b).Sublist b := List.dropWhile_sublist _
    exact fun hn => h.unbroken ((hb.append_left a).subset hn)
  notIgnored := by
    have hi := h.notIgnored
    by_cases hn : Text.trimStart a = []
    case pos =>
      rw [Text.trimStart_append_of_nil hn] at hi ⊢
      rwa [Text.trimStart_trimStart]
    case neg =>
      rw [Text.trimStart_append hn, isIgnored_append hn] at hi ⊢
      exact hi
  finished := by
    rw [continues_append_of_not (by simpa using ha), continues_trimStart, h.not_continues_right ha]
    simp

omit ha in
theorem EntryLine.notIgnored_backslash : ¬isIgnored (Text.trimStart a ++ ['\\']) := by
  by_cases hn : Text.trimStart a = []
  case pos =>
    rw [hn]
    decide
  case neg =>
    rw [isIgnored_append hn, ← isIgnored_append hn b, ← Text.trimStart_append hn]
    exact h.notIgnored

-- The backslash goes with the newline and all white space behind it.
theorem EntryLine.logicalLines_continued (hi : ∀ c ∈ indent, isFormatBlank c) :
    logicalLines (continued a indent b) = [⟨1, Text.trimStart a ++ Text.trimStart b⟩] := by
  have hb : ∀ c ∈ indent, Text.isBlank c := fun c hc => isBlank_of_isFormatBlank (hi c hc)
  have hn : '\n' ∉ indent := by
    intro hn
    exact absurd (hi _ hn) (by decide)
  have hu := h.unbroken
  rw [List.mem_append, not_or] at hu
  have ht : Text.trimStart (a ++ ['\\']) = Text.trimStart a ++ ['\\'] :=
    Text.trimStart_append_cons (by decide) a []
  have hc : continues (Text.trimStart a ++ ['\\']) := by
    rw [continues_concat_backslash, continues_trimStart]
    simpa using ha
  have hs : Text.trimStart (indent ++ b) = Text.trimStart b := List.dropWhile_append_of_pos hb
  have hf : continues (Text.trimStart b) = false := by
    rw [continues_trimStart, h.not_continues_right ha]
  simp only [logicalLines, lines_continued hu.1, logicalLinesFrom, ht, h.notIgnored_backslash, hc]
  -- Nothing may stand behind the newline: then no other line is there.
  by_cases he : indent ++ b = []
  case pos =>
    obtain ⟨rfl, rfl⟩ := List.append_eq_nil_iff.mp he
    simp [Text.lines, Text.linesFrom, logicalLinesFrom, Text.trimStart]
  case neg =>
    have hm : '\n' ∉ indent ++ b := by simp [hn, hu.2]
    simp [lines_of_notMem hm he, logicalLinesFrom, hs, hf]

end

theorem read_congr (h : logicalLines s.toList = logicalLines t.toList) : read s = read t := by
  rw [read, read, h]

-- A continued line is read as if the white space that opens its second half were not there, be it
-- a blank of the format or not. So it is read like the line in one piece if no white space opens
-- that half, or if nothing but white space stands before it; else its logical line is another one.
theorem read_continued (h : EntryLine (a ++ b)) (ha : ¬continues a)
    (hi : ∀ c ∈ indent, isFormatBlank c) :
    read (.ofList (continued a indent b)) = read (.ofList (a ++ Text.trimStart b)) ∧
    (logicalLines (continued a indent b) = logicalLines (a ++ b) ↔
      Text.trimStart a = [] ∨ Text.trimStart b = b) ∧
    (Text.trimStart a = [] ∨ Text.trimStart b = b →
      read (.ofList (continued a indent b)) = read (.ofList (a ++ b))) := by
  have hc := h.logicalLines_continued ha hi
  have hs : logicalLines (continued a indent b) = logicalLines (a ++ Text.trimStart b) := by
    rw [hc, (h.append_trimStart ha).logicalLines_eq, Text.trimStart_append_trimStart]
  have hl : logicalLines (continued a indent b) = logicalLines (a ++ b) ↔
      Text.trimStart a = [] ∨ Text.trimStart b = b := by
    rw [hc, h.logicalLines_eq, List.cons.injEq, LogicalLine.mk.injEq]
    simp only [true_and, and_true]
    constructor
    case mp => exact fun he => Text.eq_nil_or_of_trimStart_append he.symm
    case mpr =>
      rintro (hn | hb)
      · rw [Text.trimStart_append_of_nil hn, hn, List.nil_append]
      · rw [← Text.trimStart_append_trimStart, hb]
  refine ⟨read_congr ?_, hl, fun hw => read_congr ?_⟩
  · rwa [String.toList_ofList, String.toList_ofList]
  · rwa [String.toList_ofList, String.toList_ofList, hl]

-- The first half ends in a backslash that is escaped, which is not the one that continues the line.
theorem read_continued_backslash :
    let a := "k = C:\\\\".toList
    let indent := ['\t', ' ']
    let b := "dir".toList
    EntryLine (a ++ b) ∧ read (.ofList (continued a indent b)) = read (.ofList (a ++ b)) := by
  intro a indent b
  have h : EntryLine (a ++ b) := ⟨by decide, by decide, by decide⟩
  have hi : ∀ c ∈ indent, isFormatBlank c := by simp [indent, isFormatBlank]
  exact ⟨h, (read_continued h (by decide) hi).2.2 (.inr (by decide))⟩

-- A space at which no line may break is no blank of the format, but white space.
theorem no_break_space_is_lost :
    let a := "k=a".toList
    let b := "\u00A0b".toList
    EntryLine (a ++ b) ∧ ¬continues a ∧ (∀ c ∈ b.head?, ¬isFormatBlank c) ∧
      read (.ofList (a ++ b)) = .ok (.ofList [("k", "a\u00A0b")]) ∧
      read (.ofList (continued a [] b)) = .ok (.ofList [("k", "ab")]) ∧
      read (.ofList (continued a [] b)) ≠ read (.ofList (a ++ b)) := by
  intro a b
  have h : EntryLine (a ++ b) := ⟨by decide, by decide, by decide⟩
  have hl : read (.ofList (a ++ b)) = .ok (.ofList [("k", "a\u00A0b")]) :=
    read_eq_ok_iff.mpr ⟨_, by decide +kernel, rfl⟩
  have hc : read (.ofList (continued a [] b)) = .ok (.ofList [("k", "ab")]) :=
    read_eq_ok_iff.mpr ⟨_, by decide +kernel, rfl⟩
  have hb : b.head? = some '\u00A0' := by decide
  refine ⟨h, by decide, by simp [hb, isFormatBlank], hl, hc, fun he => ?_⟩
  rw [hl, hc] at he
  exact absurd (congrArg KeyMap.entries (Except.ok.inj he)) (by decide +kernel)

end ResourceEmbedding.Properties
