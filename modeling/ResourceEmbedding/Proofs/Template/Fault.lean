import ResourceEmbedding.Proofs.Staged
import ResourceEmbedding.Proofs.Template.Analysis

namespace ResourceEmbedding

namespace Template

-- What is wrong with the index in a body.
inductive BadIndex (body : List Char) : TemplateFault → Prop
  | missing {index : List Char} {format style : Option (List Char)}
    (hp : Parts body index format style) (hn : Text.trim index = []) : BadIndex body .missingIndex
  | malformed {index : List Char} {format style : Option (List Char)}
    (hp : Parts body index format style) (hd : ∃ c ∈ Text.trim index, ¬c.isDigit) :
    BadIndex body (.malformedIndex (.ofList (Text.trim index)))
  | excessive {index : List Char} {format style : Option (List Char)}
    (hp : Parts body index format style) (hn : Text.trim index ≠ [])
    (hd : ∀ c ∈ Text.trim index, c.isDigit) (hv : 10000 ≤ Text.decimalValue (Text.trim index)) :
    BadIndex body (.excessiveIndex (.ofList (Text.trim index)))

-- The brace at `i` is still open at the place `n`, and lies in no other.
structure IsOpen (cs : List Char) (i n : Nat) : Prop where
  lt     : i < n
  opens  : ActiveAt cs i '\x7b'
  outer  : depth cs i = 0
  inside : ∀ k, i < k → k ≤ n → 0 < depth cs k

-- The brace at the place `i` is at fault. The fault is named `past` bytes behind it, and shows as
-- soon as all before the place `stop` is read.
inductive FaultAt (cs : List Char) (i : Nat) : (past stop : Nat) → TemplateFault → Prop
  | unmatchedClose (hc : ActiveAt cs i '\x7d') (hd : depth cs i = 0) :
    FaultAt cs i 0 (i + 1) .unmatchedClose
  | unmatchedOpen (ho : IsOpen cs i cs.length) (hq : ¬QuotedAt cs cs.length) :
    FaultAt cs i 0 cs.length .unmatchedOpen
  | openQuote (ho : IsOpen cs i cs.length) (hq : QuotedAt cs cs.length) :
    FaultAt cs i 0 cs.length .openQuote
  | badIndex {j : Nat} {fault : TemplateFault} (hg : IsGroup cs i j)
    (hb : BadIndex (body cs i j) fault) : FaultAt cs i 1 (j + 1) fault

def bytesBefore (cs : List Char) (n : Nat) : Nat :=
  (String.ofList (cs.take n)).utf8ByteSize

variable {cs : List Char} {c : Char} {s t : Scan} {i j n past stop offset : Nat}
variable {fault : TemplateFault}

theorem readBody_eq_error (h : readBody cs = .error fault) : BadIndex cs fault := by
  have hp := parts_bodyParts cs
  rw [readBody, bind_eq_error] at h
  rcases h with h | ⟨_, _, h⟩
  case inr => cases h
  case inl =>
    rw [readIndex] at h
    split_ifs at h with hn hd hv
    · cases h
      exact .missing hp (List.isEmpty_iff.mp hn)
    · cases h
      exact .malformed hp (by simpa using hd)
    · cases h
      refine .excessive hp (by simpa using hn) (by simpa using hd) ?_
      rw [largestIndex] at hv
      omega

theorem IsGroup.isOpen (h : IsGroup cs i j) : IsOpen cs i j :=
  ⟨h.lt, h.opens, h.outer, h.inside⟩

theorem IsOpen.cases (h : IsOpen cs i (n + 1)) :
    i = n ∧ depth cs n = 0 ∨ IsOpen cs i n ∧ 0 < depth cs n := by
  rcases Nat.lt_or_eq_of_le (Nat.le_of_lt_succ h.lt) with hl | rfl
  · have hp := h.inside n hl (Nat.le_succ n)
    exact .inr ⟨⟨hl, h.opens, h.outer, fun k hk hn => h.inside k hk (by omega)⟩, hp⟩
  · exact .inl ⟨rfl, h.outer⟩

theorem bytesBefore_succ (hc : cs[n]? = some c) :
    bytesBefore cs (n + 1) = bytesBefore cs n + c.utf8Size := by
  rw [bytesBefore, List.take_add_one, hc, Option.toList_some, String.ofList_append,
    String.utf8ByteSize_append, ← String.singleton_eq_ofList, String.utf8ByteSize_singleton]
  rfl

-- What a scan knows of bytes at the place `n`: how many are read, and how many of them stood before
-- the brace that is open.
structure Placed (cs : List Char) (n : Nat) (s : Scan) : Prop where
  offset : s.offset = bytesBefore cs n
  opened : ∀ o i, s.opened = some o → IsOpen cs i n → o.offset = bytesBefore cs i

theorem Placed.start : Placed cs 0 .start where
  offset := rfl
  opened := nofun

theorem Placed.push (hp : Placed cs n s) (hr : Reached cs n s) (hc : cs[n]? = some c)
    (h : s.push c = .ok t) : Placed cs (n + 1) t := by
  have hs := hr.standing
  have ⟨result, he, hm⟩ := s.exists_effect c
  rw [hm, map_eq_ok] at h
  obtain ⟨⟨opened, found⟩, rfl, rfl⟩ := h
  have ho : s.offset + c.utf8Size = bytesBefore cs (n + 1) := by rw [hp.offset, bytesBefore_succ hc]
  refine ⟨ho, fun o i hi hn => ?_⟩
  cases he
  case outside | complete => cases hi
  case opening hs₀ _ =>
    cases hi
    have hd := (hs₀ ▸ hs).eq_zero
    rcases hn.cases with ⟨rfl, _⟩ | ⟨_, hp⟩
    · exact hp.offset
    · omega
  case inside ho _ _ | deeper ho _ | higher ho _ _ =>
    cases hi
    have hd := (ho ▸ hs).pos
    rcases hn.cases with ⟨_, hz⟩ | ⟨hn, _⟩
    · omega
    · have hb := hp.opened _ i ho hn
      exact hb

-- A scan that has not failed is where its text says.
theorem reached_of_foldlM (h : (cs.take n).foldlM Scan.push .start = .ok s) (hn : n ≤ cs.length) :
    Reached cs n s ∧ Placed cs n s := by
  induction n generalizing s
  case zero =>
    cases h
    exact ⟨.start, .start⟩
  case succ n hi =>
    have hc : cs[n]? = some cs[n] := List.getElem?_eq_getElem hn
    rw [foldlM_take_succ hc, bind_eq_ok] at h
    obtain ⟨t, ht, hp⟩ := h
    have ⟨hr, hb⟩ := hi ht (Nat.le_of_succ_le hn)
    refine ⟨?_, hb.push hr hc hp⟩
    rcases hr.push hc with ⟨u, hu, hr⟩ | ⟨e, he, _⟩
    · cases hp.symm.trans hu
      exact hr
    · cases hp.symm.trans he

-- Where no brace is open the template may end.
theorem exists_placeholders_take (h : (cs.take n).foldlM Scan.push .start = .ok s)
    (hn : n ≤ cs.length) (hi : i ≤ n) (hd : depth cs i = 0) :
    ∃ found, placeholders (cs.take i) = .ok found := by
  have ⟨t, ht⟩ := exists_foldlM_take h hi
  have hs := (reached_of_foldlM ht (Nat.le_trans hi hn)).1.standing
  cases ho : t.opened
  case none =>
    have hf : t.finish = .ok t.found.reverse := by rw [Scan.finish, ho]
    exact ⟨_, by rw [placeholders, bind_eq_ok]; exact ⟨t, ht, hf⟩⟩
  case some o => exact absurd hd (ho ▸ hs).pos.ne'

-- What is known of the brace at fault.
structure Faulty (cs : List Char) (stop offset : Nat) (fault : TemplateFault) (i past : Nat) :
    Prop where
  fault    : FaultAt cs i past stop fault
  offset   : offset = bytesBefore cs i + past
  accepted : ∃ found, placeholders (cs.take i) = .ok found

-- A character that shows a fault closes a group whose index is bad, or nothing at all.
theorem exists_faulty_of_push (hs : (cs.take n).foldlM Scan.push .start = .ok s)
    (hc : cs[n]? = some c) (hp : s.push c = .error (offset, fault)) :
    ∃ i past, Faulty cs (n + 1) offset fault i past := by
  have hn := Nat.le_of_lt (List.getElem?_eq_some_iff.mp hc).1
  have ⟨hr, hb⟩ := reached_of_foldlM hs hn
  have ⟨result, he, hm⟩ := s.exists_effect c
  rw [hm, map_eq_error] at hp
  subst hp
  cases he
  case faulty o ho hd hc₂ hf =>
    have ⟨i, hg, hi⟩ := (ho ▸ hr.standing).exists_group hd ((hr.meets_iff hc).mp hc₂)
    have hf : BadIndex (body cs i n) fault := readBody_eq_error (hi ▸ hf)
    have ha := exists_placeholders_take hs hn (Nat.le_of_lt hg.lt) hg.outer
    exact ⟨i, 1, .badIndex hg hf, by rw [hb.opened o i ho hg.isOpen], ha⟩
  case unmatched ho hc₂ =>
    have hd := (ho ▸ hr.standing).eq_zero
    have ha := exists_placeholders_take hs hn (Nat.le_refl n) hd
    exact ⟨n, 0, .unmatchedClose ((hr.meets_iff hc).mp hc₂) hd, hb.offset, ha⟩

-- The end of a text shows a fault where a brace is open.
theorem exists_faulty_of_finish (hs : cs.foldlM Scan.push .start = .ok s)
    (hf : s.finish = .error (offset, fault)) :
    ∃ i past, Faulty cs cs.length offset fault i past := by
  have hs : (cs.take cs.length).foldlM Scan.push .start = .ok s := by rwa [List.take_length]
  have ⟨hr, hb⟩ := reached_of_foldlM hs (Nat.le_refl _)
  have hst := hr.standing
  rw [Scan.finish] at hf
  cases ho : s.opened
  case none => simp [ho] at hf
  case some o =>
    rw [ho] at hst hf
    cases hst
    case inside i hi hop hz hin _ _ =>
      have hopen : IsOpen cs i cs.length := ⟨hi, hop, hz, hin⟩
      have ha := exists_placeholders_take hs (Nat.le_refl _) (Nat.le_of_lt hi) hz
      cases hf
      refine ⟨i, 0, ?_, hb.opened o i ho hopen, ha⟩
      split
      case isTrue hq  => exact .openQuote hopen (hr.quoted.mp hq)
      case isFalse hq => exact .unmatchedOpen hopen (mt hr.quoted.mpr hq)

-- The analysis fails at a brace before which there is no fault, and it fails in the same way on the
-- text up to the place where the fault shows.
theorem exists_faulty (h : placeholders cs = .error (offset, fault)) :
    ∃ stop i past, Faulty cs stop offset fault i past ∧
      placeholders (cs.take stop) = .error (offset, fault) := by
  rcases bind_eq_error.mp h with he | ⟨s, hs, hf⟩
  case inl =>
    obtain ⟨n, c, s, hc, hs, hp⟩ := exists_of_foldlM_eq_error he
    obtain ⟨i, past, hi⟩ := exists_faulty_of_push hs hc hp
    refine ⟨n + 1, i, past, hi, ?_⟩
    rw [placeholders, foldlM_take_succ hc, hs]
    exact bind_eq_error.mpr (.inl hp)
  case inr =>
    obtain ⟨i, past, hi⟩ := exists_faulty_of_finish hs hf
    exact ⟨cs.length, i, past, hi, by rwa [List.take_length]⟩

theorem FaultAt.active (h : FaultAt cs i past stop fault) : ∃ brace, ActiveAt cs i brace := by
  cases h
  case unmatchedClose hc _                 => exact ⟨_, hc⟩
  case unmatchedOpen ho _ | openQuote ho _ => exact ⟨_, ho.opens⟩
  case badIndex hg _                       => exact ⟨_, hg.opens⟩

theorem bytesBefore_lt (hc : cs[n]? = some c) :
    bytesBefore cs n < (String.ofList cs).utf8ByteSize := by
  have hs := bytesBefore_succ hc
  have hp := c.utf8Size_pos
  have hl : bytesBefore cs (n + 1) + (String.ofList (cs.drop (n + 1))).utf8ByteSize =
      (String.ofList cs).utf8ByteSize := by
    rw [bytesBefore, ← String.utf8ByteSize_append, ← String.ofList_append, List.take_append_drop]
  omega

end Template

open Template

-- A template that is not accepted is rejected for its first fault. The offset is that of a brace,
-- or that behind it for a bad index; what stands before the brace is accepted and ends outside
-- quotes, and the text up to the end of the faulty placeholder is rejected in the same way.
theorem error_names_first_fault {template : String} {e : TemplateError}
    (h : analyze template = .error e) :
    let upTo (n : Nat) : String := .ofList (template.toList.take n)
    e.template = template ∧
    ∃ i past stop, FaultAt template.toList i past stop e.fault ∧
      e.offset = (upTo i).utf8ByteSize + past ∧ (upTo i).utf8ByteSize < template.utf8ByteSize ∧
      (∃ shape, analyze (upTo i) = .ok shape) ∧ Even ((upTo i).toList.count '\'') ∧
      analyze (upTo stop) = .error ⟨upTo stop, e.offset, e.fault⟩ := by
  intro upTo
  rw [analyze] at h
  cases hp : placeholders template.toList
  case ok found => rw [hp] at h; cases h
  case error located =>
    rw [hp] at h
    cases h
    obtain ⟨stop, i, past, hi, hs⟩ := exists_faulty hp
    obtain ⟨brace, hb, hq⟩ := hi.fault.active
    have hl := bytesBefore_lt hb
    rw [String.ofList_toList] at hl
    obtain ⟨found, hf⟩ := hi.accepted
    have ha : analyze (upTo i) = .ok (.ofPlaceholders found) := by
      rw [analyze, String.toList_ofList, hf]
    have he : Even ((upTo i).toList.count '\'') := by
      rw [String.toList_ofList]
      exact not_not.mp hq
    have hr : analyze (upTo stop) = .error ⟨upTo stop, located.1, located.2⟩ := by
      rw [analyze, String.toList_ofList, hs]
    exact ⟨rfl, i, past, stop, hi.fault, hi.offset, hl, ⟨_, ha⟩, he, hr⟩

-- The first letter takes two bytes, and the last brace is never read.
theorem error_names_first_fault_bytes :
    let template := "é\x7bx\x7d\x7d"
    analyze template = .error ⟨template, 3, .malformedIndex "x"⟩ ∧
    ∃ i past stop, FaultAt template.toList i past stop (.malformedIndex "x") ∧
      3 = (String.ofList (template.toList.take i)).utf8ByteSize + past ∧
      ∃ shape, analyze (.ofList (template.toList.take i)) = .ok shape := by
  intro template
  have h : analyze template = .error ⟨template, 3, .malformedIndex "x"⟩ := by decide +kernel
  have ⟨_, i, past, stop, hf, ho, _, ha, _⟩ := error_names_first_fault h
  exact ⟨h, i, past, stop, hf, ho, ha⟩

end ResourceEmbedding
