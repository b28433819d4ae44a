import Mathlib.Data.List.TakeWhile
import ResourceEmbedding.Properties.Line

namespace ResourceEmbedding.Properties

-- A text in which each backslash escapes the character behind it. The characters that stand on
-- their own are `free`.
inductive Escaped (free : Char → Prop) : List Char → Prop
  | nil    : Escaped free []
  | bare   : c ≠ '\\' → free c → Escaped free cs → Escaped free (c :: cs)
  | escape : Escaped free cs → Escaped free ('\\' :: c :: cs)

def keptOf (line : List Char) : List Char :=
  let line := Text.trimStart line
  if continues line then line.dropLast else line

-- The lines of one logical line, before the lines `after`. All of them but the last are continued;
-- the last one is not, unless the text ends with it.
inductive Joined (after : List (List Char)) : List (List Char) → List Char → Prop
  | last : (continues (Text.trimStart line) → after = []) → Joined after [line] (keptOf line)
  | next : continues (Text.trimStart line) → Joined after more text →
      Joined after (line :: more) (keptOf line ++ text)

-- The logical lines of the lines from the one numbered `number` on. Each has the number of its
-- first line, and no line is left out but blank ones and comments.
inductive Parts : Nat → List (List Char) → List LogicalLine → Prop
  | nil     : Parts number [] []
  | ignored : isIgnored (Text.trimStart line) → Parts (number + 1) lines ls →
      Parts number (line :: lines) ls
  | entry   : ¬isIgnored (Text.trimStart first) → Joined after (first :: more) text →
      Parts (number + 1 + more.length) after ls →
      Parts number (first :: (more ++ after)) (⟨number, text⟩ :: ls)

-- The logical lines if `begun` is unfinished: it takes up the lines that continue it, unless the
-- text has ended.
inductive Resumed (begun : LogicalLine) (number : Nat) :
    List (List Char) → List LogicalLine → Prop
  | ended  : Resumed begun number [] [begun]
  | joined : Joined after more text → Parts (number + more.length) after ls →
      Resumed begun number (more ++ after) ({ begun with text := begun.text ++ text } :: ls)

-- A line with an entry that no other line continues.
structure EntryLine (line : List Char) : Prop where
  unbroken   : '\n' ∉ line
  notIgnored : ¬isIgnored (Text.trimStart line)
  finished   : ¬continues line

variable {c : Char} {cs ds line : List Char} {lines : List (List Char)} {free : Char → Prop}
variable {begun : LogicalLine} {ls : List LogicalLine} {number : Nat}

-- A carriage return belongs to a line, unless it stands right before the newline.
theorem linesFrom_append_newline (hn : '\n' ∉ line)
    (hr : (cs.reverse ++ line).getLast? ≠ some '\r') (rest : List Char) :
    Text.linesFrom cs (line ++ '\n' :: rest) = (cs.reverse ++ line) :: Text.lines rest := by
  induction line generalizing cs
  case nil =>
    rcases cs with _ | ⟨c, cs⟩
    · simp [Text.linesFrom, Text.lines]
    · have hc : c ≠ '\r' := by
        rintro rfl
        simp at hr
      simp [Text.linesFrom, Text.lines, hc]
  case cons c line hi =>
    have hc : c ≠ '\n' := (List.ne_of_not_mem_cons hn).symm
    have hr : ((c :: cs).reverse ++ line).getLast? ≠ some '\r' := by simpa using hr
    simpa [Text.linesFrom, hc] using hi (List.not_mem_of_not_mem_cons hn) hr

theorem lines_append_newline_of_getLast? (hn : '\n' ∉ line) (hr : line.getLast? ≠ some '\r')
    (rest : List Char) : Text.lines (line ++ '\n' :: rest) = line :: Text.lines rest := by
  have hr : (([] : List Char).reverse ++ line).getLast? ≠ some '\r' := hr
  exact linesFrom_append_newline hn hr rest

theorem lines_append_newline (hn : '\n' ∉ line) (hr : '\r' ∉ line) (rest : List Char) :
    Text.lines (line ++ '\n' :: rest) = line :: Text.lines rest :=
  lines_append_newline_of_getLast? hn (fun h => hr (List.mem_of_getLast? h)) rest

theorem linesFrom_of_notMem (hn : '\n' ∉ line) (hl : cs.reverse ++ line ≠ []) :
    Text.linesFrom cs line = [cs.reverse ++ line] := by
  induction line generalizing cs
  case nil => simpa [Text.linesFrom] using hl
  case cons c line hi =>
    have hc : c ≠ '\n' := (List.ne_of_not_mem_cons hn).symm
    have hl : (c :: cs).reverse ++ line ≠ [] := by simp
    simpa [Text.linesFrom, hc] using hi (List.not_mem_of_not_mem_cons hn) hl

theorem lines_of_notMem (hn : '\n' ∉ line) (hl : line ≠ []) : Text.lines line = [line] := by
  have hl : ([] : List Char).reverse ++ line ≠ [] := hl
  exact linesFrom_of_notMem hn hl

theorem continues_cons (h : c ≠ '\\') : continues (c :: cs) = continues cs := by
  simp only [continues, List.reverse_cons, List.takeWhile_append]
  split <;> simp_all

theorem continues_escape : continues ('\\' :: c :: cs) = continues cs := by
  have h : ('\\' :: c :: cs).reverse = cs.reverse ++ [c, '\\'] := by simp
  simp only [continues, h, List.takeWhile_append]
  by_cases hc : c = '\\'
  case pos =>
    subst hc
    split <;> simp_all
  case neg =>
    split <;> simp_all

theorem continues_append (h : ∀ c ∈ cs, c ≠ '\\') : continues (cs ++ ds) = continues ds := by
  induction cs
  case nil => rfl
  case cons c cs hi =>
    rw [List.forall_mem_cons] at h
    rw [List.cons_append, continues_cons h.1, hi h.2]

theorem continues_concat_backslash : continues (cs ++ ['\\']) = !continues cs := by
  simp only [continues, List.reverse_append, List.reverse_singleton, List.singleton_append,
    List.takeWhile_cons, beq_self_eq_true, if_true, List.length_cons]
  grind

-- Backslashes behind an even number of them are counted as if they stood alone.
theorem continues_append_of_not (h : continues cs = false) :
    continues (cs ++ ds) = continues ds := by
  simp only [continues, List.reverse_append, List.takeWhile_append] at h ⊢
  split_ifs with hd
  · rw [List.length_append, ← hd]
    grind
  · rfl

theorem continues_trimStart (line : List Char) :
    continues (Text.trimStart line) = continues line := by
  have hb : ∀ c ∈ line.takeWhile Text.isBlank, c ≠ '\\' := by
    intro c hc
    have hc := List.mem_takeWhile_imp hc
    rintro rfl
    exact absurd hc (by decide)
  rw [Text.trimStart, ← continues_append hb, List.takeWhile_append_dropWhile]

namespace Escaped

theorem append (hc : Escaped free cs) (hd : Escaped free ds) : Escaped free (cs ++ ds) := by
  induction hc
  case nil            => exact hd
  case bare hn hf _ h => exact .bare hn hf h
  case escape h       => exact .escape h

theorem continues_append (h : Escaped free cs) : continues (cs ++ ds) = continues ds := by
  induction h
  case nil           => rfl
  case bare hn _ _ h => rw [List.cons_append, continues_cons hn, h]
  case escape h      => rw [List.cons_append, List.cons_append, continues_escape, h]

theorem not_continues (h : Escaped free cs) : continues cs = false := by
  rw [← List.append_nil cs, h.continues_append]
  rfl

end Escaped

theorem EntryLine.logicalLines_eq (h : EntryLine line) :
    logicalLines line = [⟨1, Text.trimStart line⟩] := by
  have hl : line ≠ [] := by
    rintro rfl
    exact h.notIgnored rfl
  have hc : ¬continues (Text.trimStart line) := by
    rw [continues_trimStart]
    exact h.finished
  simp [logicalLines, lines_of_notMem h.unbroken hl, logicalLinesFrom, h.notIgnored, hc]

theorem Parts.single (hi : ¬isIgnored (Text.trimStart line))
    (he : continues (Text.trimStart line) → lines = []) (h : Parts (number + 1) lines ls) :
    Parts number (line :: lines) (⟨number, keptOf line⟩ :: ls) :=
  .entry hi (.last he) h

theorem Resumed.single (he : continues (Text.trimStart line) → lines = [])
    (h : Parts (number + 1) lines ls) :
    Resumed begun number (line :: lines) ({ begun with text := begun.text ++ keptOf line } :: ls) :=
  .joined (.last he) h

theorem Resumed.parts (hi : ¬isIgnored (Text.trimStart line))
    (hc : continues (Text.trimStart line))
    (h : Resumed ⟨number, keptOf line⟩ (number + 1) lines ls) :
    Parts number (line :: lines) ls := by
  cases h
  case ended        => exact .single hi (fun _ => rfl) .nil
  case joined hj hp => exact .entry hi (.next hc hj) hp

theorem Resumed.next (hc : continues (Text.trimStart line))
    (h : Resumed { begun with text := begun.text ++ keptOf line } (number + 1) lines ls) :
    Resumed begun number (line :: lines) ls := by
  cases h
  case ended => exact .single (fun _ => rfl) .nil
  case joined after more text ls hj hp =>
    simp only [← List.cons_append, List.append_assoc]
    refine .joined (.next hc hj) ?_
    rwa [List.length_cons, Nat.add_comm more.length, ← Nat.add_assoc]

-- An unfinished logical line is part of the state of the reading, so both are described at once.
theorem logicalLinesFrom_spec (lines : List (List Char)) (number : Nat) :
    Parts number lines (logicalLinesFrom number none lines) ∧
      ∀ begun, Resumed begun number lines (logicalLinesFrom number (some begun) lines) := by
  induction lines generalizing number
  case nil => exact ⟨.nil, fun _ => .ended⟩
  case cons line lines hi =>
    have ⟨parts, resumed⟩ := hi (number + 1)
    by_cases hc : continues (Text.trimStart line)
    case pos =>
      have hk : (Text.trimStart line).dropLast = keptOf line := by simp [keptOf, hc]
      constructor
      case left =>
        by_cases hg : isIgnored (Text.trimStart line)
        case pos => simpa [logicalLinesFrom, hg] using parts.ignored hg
        case neg => simpa [logicalLinesFrom, hg, hc, hk] using (resumed _).parts hg hc
      case right =>
        intro begun
        simpa [logicalLinesFrom, hc, hk] using (resumed _).next hc
    case neg =>
      have hk : Text.trimStart line = keptOf line := by simp [keptOf, hc]
      constructor
      case left =>
        by_cases hg : isIgnored (Text.trimStart line)
        case pos => simpa [logicalLinesFrom, hg] using parts.ignored hg
        case neg => simpa [logicalLinesFrom, hg, hc, ← hk] using parts.single hg (absurd · hc)
      case right =>
        intro begun
        simpa [logicalLinesFrom, hc, ← hk] using Resumed.single (absurd · hc) parts

theorem Parts.le_number (h : Parts number lines ls) : ∀ l ∈ ls, number ≤ l.number := by
  induction h
  case nil => nofun
  case ignored hi =>
    intro l hl
    exact Nat.le_of_succ_le (hi l hl)
  case entry hi =>
    intro l hl
    rcases List.mem_cons.mp hl with rfl | hl
    · exact Nat.le_refl _
    · have := hi l hl
      omega

theorem Parts.number_lt (h : Parts number lines ls) : ls.Pairwise (·.number < ·.number) := by
  induction h
  case nil             => exact .nil
  case ignored hi      => exact hi
  case entry hp hi =>
    refine .cons (fun l hl => ?_) hi
    have := hp.le_number l hl
    simp only
    omega

theorem parts_logicalLines (text : List Char) :
    Parts 1 (Text.lines text) (logicalLines text) :=
  (logicalLinesFrom_spec _ _).1

end ResourceEmbedding.Properties
