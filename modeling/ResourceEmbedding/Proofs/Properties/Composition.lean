import ResourceEmbedding.Proofs.KeyMap
import ResourceEmbedding.Proofs.Properties.Malformed

namespace ResourceEmbedding.Properties

-- A text that nothing behind it belongs to: all of its lines are ended, and the last one is not
-- continued.
structure Complete (text : List Char) : Prop where
  ended    : ∀ c ∈ text.getLast?, c = '\n'
  finished : ∀ line ∈ (Text.lines text).getLast?, ¬continues line

def LogicalLine.after (n : Nat) (l : LogicalLine) : LogicalLine :=
  { l with number := l.number + n }

def Fault.after (n : Nat) (f : Fault) : Fault :=
  { f with line := f.line + n }

variable {cs line : List Char} {as bs : List (List Char)} {n k : Nat}
variable {unfinished : Option LogicalLine} {s t : String} {fault : Fault}

-- A text whose lines are all ended leaves nothing to the text behind it.
theorem linesFrom_of_ended (hc : ∀ c ∈ cs.getLast?, c = '\n') (hl : cs = [] → line = []) :
    (Text.linesFrom line cs).length = cs.count '\n' ∧
      ∀ ds, Text.linesFrom line (cs ++ ds) = Text.linesFrom line cs ++ Text.lines ds := by
  induction cs generalizing line
  case nil =>
    rw [hl rfl]
    exact ⟨rfl, fun _ => rfl⟩
  case cons c cs hi =>
    have hs : ∀ c ∈ cs.getLast?, c = '\n' := fun d hd => hc d (List.mem_getLast?_cons hd)
    by_cases hn : c = '\n'
    case pos =>
      obtain ⟨hk, ha⟩ := @hi [] hs fun _ => rfl
      simp [Text.linesFrom, hn, hk, ha]
    case neg =>
      have hne : cs ≠ [] := by
        rintro rfl
        exact hn (hc c rfl)
      obtain ⟨hk, ha⟩ := @hi (c :: line) hs (absurd · hne)
      simp [Text.linesFrom, hn, hk, ha]

theorem Complete.lines_append (h : Complete cs) (ds : List Char) :
    Text.lines (cs ++ ds) = Text.lines cs ++ Text.lines ds :=
  (linesFrom_of_ended h.ended fun _ => rfl).2 ds

theorem Complete.length_lines (h : Complete cs) : (Text.lines cs).length = cs.count '\n' :=
  (linesFrom_of_ended h.ended fun _ => rfl).1

theorem logicalLinesFrom_append (hf : ∀ line ∈ as.getLast?, ¬continues line)
    (hu : as = [] → unfinished = none) :
    logicalLinesFrom n unfinished (as ++ bs) =
      logicalLinesFrom n unfinished as ++ logicalLinesFrom (n + as.length) none bs := by
  induction as generalizing n unfinished
  case nil =>
    rw [hu rfl]
    rfl
  case cons line as hi =>
    have hs : ∀ line ∈ as.getLast?, ¬continues line :=
      fun l hl => hf l (List.mem_getLast?_cons hl)
    have hn : n + 1 + as.length = n + (as.length + 1) := by omega
    simp only [List.cons_append, logicalLinesFrom, List.length_cons]
    split_ifs with hg hc
    · rw [hi hs fun _ => rfl, hn]
    · have hne : as ≠ [] := by
        rintro rfl
        exact hf line rfl (by rwa [continues_trimStart] at hc)
      rw [hi hs (absurd · hne), hn]
    · rw [hi hs fun _ => rfl, hn, List.cons_append]

theorem logicalLinesFrom_after (lines : List (List Char)) (n : Nat)
    (unfinished : Option LogicalLine) :
    logicalLinesFrom (n + k) (unfinished.map (·.after k)) lines =
      (logicalLinesFrom n unfinished lines).map (·.after k) := by
  induction lines generalizing n unfinished
  case nil => cases unfinished <;> rfl
  case cons line lines hi =>
    have hn : n + k + 1 = n + 1 + k := by omega
    have hb : (unfinished.map (·.after k)).getD ⟨n + k, []⟩ =
        (unfinished.getD ⟨n, []⟩).after k := by
      cases unfinished <;> rfl
    simp only [logicalLinesFrom, Option.isNone_map, hb, hn]
    generalize unfinished.getD ⟨n, []⟩ = begun
    split_ifs
    · exact hi (n + 1) none
    · exact hi (n + 1) (some ⟨begun.number, begun.text ++ (Text.trimStart line).dropLast⟩)
    · rw [List.map_cons]
      exact congrArg _ (hi (n + 1) none)

theorem Complete.logicalLines_append (h : Complete cs) (ds : List Char) :
    logicalLines (cs ++ ds) =
      logicalLines cs ++ (logicalLines ds).map (·.after (cs.count '\n')) := by
  rw [logicalLines, h.lines_append, logicalLinesFrom_append h.finished fun _ => rfl, h.length_lines]
  exact congrArg _ (logicalLinesFrom_after _ 1 none)

theorem readRaw_after (n : Nat) (raw : List Char) :
    readRaw (n + k) raw = (readRaw n raw).mapError (·.after k) := by
  rw [readRaw, readRaw]
  cases unescape raw <;> rfl

theorem readLine_after (l : LogicalLine) :
    readLine (l.after k) = (readLine l).mapError (·.after k) := by
  rw [readLine_eq, readLine_eq]
  simp only [LogicalLine.after, readRaw_after]
  cases readRaw l.number (splitEntry l.text).1
  case error => rfl
  case ok => cases readRaw l.number (splitEntry l.text).2 <;> rfl

theorem mapM_readLine_after (ls : List LogicalLine) :
    (ls.map (·.after k)).mapM readLine = (ls.mapM readLine).mapError (·.after k) := by
  rw [List.mapM_map, ← mapM_mapError]
  exact congrArg (ls.mapM ·) (funext readLine_after)

-- A text behind a complete one is read as if it stood alone, but for the numbers of its lines; the
-- fault of the first text, if it has one, is that of both, and the entries of the second one count
-- where both have a key.
theorem read_complete_append (h : Complete s.toList) (t : String) :
    (∀ fault, read s = .error fault → read (s ++ t) = .error fault) ∧
    ∀ entries, read s = .ok entries →
      (∀ fault, read t = .error fault →
        read (s ++ t) = .error (fault.after (s.toList.count '\n'))) ∧
      ∀ entries₂, read t = .ok entries₂ → ∃ all, read (s ++ t) = .ok all ∧
        ∀ key, all.get? key = (entries₂.get? key).or (entries.get? key) := by
  have hl : (logicalLines (s ++ t).toList).mapM readLine = do
      let pairs ← (logicalLines s.toList).mapM readLine
      let pairs₂ ← ((logicalLines t.toList).mapM readLine).mapError (·.after (s.toList.count '\n'))
      return pairs ++ pairs₂ := by
    rw [String.toList_append, h.logicalLines_append, List.mapM_append, mapM_readLine_after]
  constructor
  case left =>
    intro fault hf
    rw [read_error_iff] at hf ⊢
    rw [hl, hf]
    rfl
  case right =>
    intro entries he
    obtain ⟨pairs, hp, rfl⟩ := read_eq_ok_iff.mp he
    constructor
    case left =>
      intro fault hf
      rw [read_error_iff] at hf ⊢
      rw [hl, hp, hf]
      rfl
    case right =>
      intro entries₂ he₂
      obtain ⟨pairs₂, hp₂, rfl⟩ := read_eq_ok_iff.mp he₂
      refine ⟨.ofList (pairs ++ pairs₂), read_eq_ok_iff.mpr ⟨_, ?_, rfl⟩, fun key => ?_⟩
      · rw [hl, hp, hp₂]
        rfl
      · simp only [KeyMap.get?_ofList, List.reverse_append, List.lookup_append]

-- The first text ends in an even number of backslashes.
theorem read_complete_append_backslashes :
    let s := "a=1\\\r\n  2\nb=C:\\\\\n"
    Complete s.toList ∧ read (s ++ "c=\\u12\n") = .error ⟨4, "12"⟩ ∧
      ∃ all, read (s ++ "a=3\n") = .ok all ∧ all.get? "a" = some "3" ∧
        all.get? "b" = some "C:\\" := by
  intro s
  have hl : s.toList.getLast? = some '\n' := by decide +kernel
  have hb : (Text.lines s.toList).getLast? = some "b=C:\\\\".toList := by decide +kernel
  have hs : Complete s.toList := ⟨by simp [hl], by rw [hb]; simp; decide⟩
  have he : read s = .ok (.ofList [("a", "12"), ("b", "C:\\")]) :=
    read_eq_ok_iff.mpr ⟨_, by decide +kernel, rfl⟩
  have hf : read "c=\\u12\n" = .error ⟨1, "12"⟩ := read_error_iff.mpr (by decide +kernel)
  have he₂ : read "a=3\n" = .ok (.ofList [("a", "3")]) :=
    read_eq_ok_iff.mpr ⟨_, by decide +kernel, rfl⟩
  have hn : s.toList.count '\n' = 3 := by decide +kernel
  have hf := ((read_complete_append hs _).2 _ he).1 _ hf
  rw [hn] at hf
  refine ⟨hs, hf, ?_⟩
  have ⟨all, ha, hg⟩ := ((read_complete_append hs _).2 _ he).2 _ he₂
  exact ⟨all, ha, (hg "a").trans (by decide +kernel), (hg "b").trans (by decide +kernel)⟩

end ResourceEmbedding.Properties
