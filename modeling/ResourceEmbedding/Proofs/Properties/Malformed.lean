import Mathlib.Order.Bounds.Basic
import ResourceEmbedding.Proofs.Properties.Line
import ResourceEmbedding.Proofs.Staged
import ResourceEmbedding.Properties.Basic

namespace ResourceEmbedding.Properties

variable {c : Char} {cs raw digits : List Char} {good : List Char → Prop} {l : LogicalLine}
variable {text : String} {fault : Fault} {n : Nat}

def IsHexDigit (c : Char) : Prop :=
  c.isDigit ∨ ('a' ≤ c ∧ c ≤ 'f') ∨ ('A' ≤ c ∧ c ≤ 'F')

instance : DecidablePred IsHexDigit :=
  fun _ => inferInstanceAs (Decidable (_ ∨ _))

def IsHexNumber (digits : List Char) : Prop :=
  digits.length = 4 ∧ ∀ d ∈ digits, IsHexDigit d

instance : DecidablePred IsHexNumber :=
  fun _ => inferInstanceAs (Decidable (_ ∧ _))

def IsSignedNumber (digits : List Char) : Prop :=
  digits.length = 4 ∧ digits.head? = some '+' ∧ ∀ d ∈ digits.tail, IsHexDigit d

def IsEscapeNumber (digits : List Char) : Prop :=
  IsHexNumber digits ∨ IsSignedNumber digits

-- Behind some escape by number, whose own backslash is not escaped, the next four characters, or
-- what there is of them, are not `good`.
def HasBadEscape (good : List Char → Prop) (raw : List Char) : Prop :=
  ∃ before after, raw = before ++ '\\' :: 'u' :: after ∧ ¬continues before ∧ ¬good (after.take 4)

def LogicalLine.IsBad (good : List Char → Prop) (l : LogicalLine) : Prop :=
  HasBadEscape good (splitEntry l.text).1 ∨ HasBadEscape good (splitEntry l.text).2

theorem hexValue?_isSome_iff : (Text.hexValue? c).isSome ↔ IsHexDigit c := by
  simp only [Text.hexValue?, IsHexDigit]
  split_ifs <;> simp_all

theorem hexFrom?_isSome_iff : (Text.hexFrom? n digits).isSome ↔ ∀ d ∈ digits, IsHexDigit d := by
  induction digits generalizing n
  case nil => simp [Text.hexFrom?]
  case cons d digits hi =>
    rw [Text.hexFrom?, List.forall_mem_cons, ← hexValue?_isSome_iff]
    cases Text.hexValue? d
    case none   => simp
    case some m => simpa using hi

theorem escapedUnit?_isSome_iff (h : digits.length = 4) :
    (escapedUnit? digits).isSome ↔ IsEscapeNumber digits := by
  obtain ⟨d, rest, rfl⟩ := List.exists_cons_of_length_eq_add_one h
  by_cases hd : d = '+'
  case pos =>
    have hp : ¬IsHexDigit '+' := by decide
    simp [escapedUnit?, IsEscapeNumber, IsHexNumber, IsSignedNumber, Text.hex?,
      hexFrom?_isSome_iff, hd, hp] at h ⊢
    exact fun _ => h
  case neg =>
    simp [escapedUnit?, IsEscapeNumber, IsHexNumber, IsSignedNumber, Text.hex?,
      hexFrom?_isSome_iff, hd] at h ⊢
    exact fun _ _ => h

theorem not_hasBadEscape_nil : ¬HasBadEscape good [] := by
  simp [HasBadEscape]

theorem not_hasBadEscape_lone : ¬HasBadEscape good ['\\'] := by
  simp [HasBadEscape, List.cons_eq_append_iff]

theorem hasBadEscape_cons (h : c ≠ '\\') :
    HasBadEscape good (c :: cs) ↔ HasBadEscape good cs := by
  constructor
  case mp =>
    rintro ⟨before, after, he, hn, hg⟩
    cases before
    case nil =>
      cases he
      exact absurd rfl h
    case cons b before =>
      cases he
      exact ⟨before, after, rfl, by rwa [continues_cons h] at hn, hg⟩
  case mpr =>
    rintro ⟨before, after, rfl, hn, hg⟩
    exact ⟨c :: before, after, rfl, by rwa [continues_cons h], hg⟩

-- An escape by number is bad, or there is a bad one behind it. The character that a backslash
-- escapes starts no escape, be it a backslash itself.
theorem hasBadEscape_escape :
    HasBadEscape good ('\\' :: c :: cs) ↔
      c = 'u' ∧ ¬good (cs.take 4) ∨ HasBadEscape good cs := by
  constructor
  case mp =>
    rintro ⟨_ | ⟨b, _ | ⟨d, before⟩⟩, after, he, hn, hg⟩
    case nil =>
      cases he
      exact .inl ⟨rfl, hg⟩
    case cons.nil =>
      cases he
      exact absurd (by decide) hn
    case cons.cons =>
      cases he
      exact .inr ⟨before, after, rfl, by rwa [continues_escape] at hn, hg⟩
  case mpr =>
    rintro (⟨rfl, hg⟩ | ⟨before, after, rfl, hn, hg⟩)
    · exact ⟨[], cs, rfl, by decide, hg⟩
    · exact ⟨'\\' :: c :: before, after, rfl, by rwa [continues_escape], hg⟩

theorem hasBadEscape_append (h : ∀ d ∈ digits, d ≠ '\\') :
    HasBadEscape good (digits ++ cs) ↔ HasBadEscape good cs := by
  induction digits
  case nil => rfl
  case cons d digits hi =>
    rw [List.forall_mem_cons] at h
    rw [List.cons_append, hasBadEscape_cons h.1, hi h.2]

theorem IsEscapeNumber.ne_backslash (h : IsEscapeNumber digits) : ∀ d ∈ digits, d ≠ '\\' := by
  have hb : ¬IsHexDigit '\\' := by decide
  rintro _ hd rfl
  rcases h with ⟨_, hx⟩ | ⟨_, hp, hx⟩
  · exact hb (hx _ hd)
  · cases digits
    case nil => cases hd
    case cons d digits =>
      cases hp
      cases hd
      case tail hd => exact hb (hx _ hd)

theorem unescapeFrom_error_iff (s : Unescaping) :
    (∃ digits, unescapeFrom s raw = .error digits) ↔ HasBadEscape IsEscapeNumber raw := by
  fun_induction unescapeFrom s raw
  case case1 => simp [not_hasBadEscape_nil]
  case case2 => simp [not_hasBadEscape_lone]
  case case3 s a b c d rest u hu hi =>
    have hn : IsEscapeNumber [a, b, c, d] := (escapedUnit?_isSome_iff rfl).mp (by simp [hu])
    have hr : HasBadEscape IsEscapeNumber (a :: b :: c :: d :: rest) ↔
      HasBadEscape IsEscapeNumber rest := hasBadEscape_append hn.ne_backslash
    rw [hi, hasBadEscape_escape, hr]
    simp [hn]
  case case4 s a b c d rest hu =>
    have hn : ¬IsEscapeNumber [a, b, c, d] := by
      rw [← escapedUnit?_isSome_iff rfl, hu]
      simp
    rw [hasBadEscape_escape]
    simp [hn]
  case case5 s short hs =>
    have hn : ¬IsEscapeNumber (short.take 4) := by
      intro hn
      have hl : (short.take 4).length = 4 := hn.elim (·.1) (·.1)
      match short with
      | [] | [_] | [_, _] | [_, _, _] => simp at hl
      | a :: b :: c :: d :: rest => exact hs a b c d rest rfl
    rw [hasBadEscape_escape]
    simp [hn]
  case case6 s c rest _ hc hi =>
    rw [hi, hasBadEscape_escape]
    simp [show c ≠ 'u' from hc]
  case case7 s c rest hn _ _ hb hi =>
    have hc : c ≠ '\\' := by
      intro hc
      rcases rest with _ | ⟨d, rest⟩
      · exact hn hc rfl
      · exact hb d rest hc rfl
    rw [hi, hasBadEscape_cons hc]

-- The text that a raw key or value on the line of this number stands for.
def readRaw (number : Nat) (raw : List Char) : Except Fault String :=
  match unescape raw with
  | .ok cs => .ok (.ofList cs)
  | .error digits => .error ⟨number, .ofList digits⟩

theorem readRaw_error_iff :
    (∃ fault, readRaw n raw = .error fault) ↔ HasBadEscape IsEscapeNumber raw := by
  rw [← unescapeFrom_error_iff .start, readRaw, unescape]
  cases unescapeFrom .start raw <;> simp

theorem line_of_readRaw_error (h : readRaw n raw = .error fault) : fault.line = n := by
  rw [readRaw] at h
  split at h
  · cases h
  · cases h
    rfl

theorem readLine_eq (l : LogicalLine) :
    readLine l = do
      let key ← readRaw l.number (splitEntry l.text).1
      let value ← readRaw l.number (splitEntry l.text).2
      return (key, value) :=
  rfl

theorem readLine_error_iff : (∃ fault, readLine l = .error fault) ↔ l.IsBad IsEscapeNumber := by
  rw [LogicalLine.IsBad, ← readRaw_error_iff (n := l.number), ← readRaw_error_iff (n := l.number),
    readLine_eq]
  cases readRaw l.number (splitEntry l.text).1
  case error => simp [bind, Except.bind]
  case ok =>
    cases readRaw l.number (splitEntry l.text).2 <;>
      simp [bind, Except.bind, pure, Except.pure]

theorem line_of_readLine_error (h : readLine l = .error fault) : fault.line = l.number := by
  rw [readLine_eq, bind_eq_error] at h
  rcases h with h | ⟨key, _, h⟩
  · exact line_of_readRaw_error h
  rcases bind_eq_error.mp h with h | ⟨value, _, h⟩
  · exact line_of_readRaw_error h
  · cases h

theorem read_error_iff :
    read text = .error fault ↔ (logicalLines text.toList).mapM readLine = .error fault := by
  rw [read, bind_eq_error]
  simp [pure, Except.pure]

theorem read_eq_ok_iff {entries : KeyMap String} :
    read text = .ok entries ↔
      ∃ pairs, (logicalLines text.toList).mapM readLine = .ok pairs ∧ .ofList pairs = entries := by
  rw [read, bind_eq_ok]
  simp only [pure_eq_ok]

theorem exists_fault_iff :
    (∃ fault, read text = .error fault) ↔
      ∃ l ∈ logicalLines text.toList, l.IsBad IsEscapeNumber := by
  simp only [read_error_iff, ← readLine_error_iff]
  constructor
  case mp =>
    intro ⟨fault, h⟩
    have ⟨l, hl, hf⟩ := exists_of_mapM_eq_error h
    exact ⟨l, hl, fault, hf⟩
  case mpr =>
    intro ⟨l, hl, fault, hf⟩
    cases hm : (logicalLines text.toList).mapM readLine
    case error fault => exact ⟨fault, rfl⟩
    case ok entries =>
      have ⟨_, _, ho⟩ := (mem_of_mapM_eq_ok hm).1 l hl
      cases hf.symm.trans ho

theorem isLeast_line (h : read text = .error fault) :
    IsLeast {n | ∃ l ∈ logicalLines text.toList, l.IsBad IsEscapeNumber ∧ l.number = n}
      fault.line := by
  have ⟨before, l, after, he, hb, hf⟩ := exists_first_of_mapM_eq_error (read_error_iff.mp h)
  have hn := line_of_readLine_error hf
  constructor
  case left => exact ⟨l, by simp [he], readLine_error_iff.mp ⟨fault, hf⟩, hn.symm⟩
  case right =>
    rintro _ ⟨l₂, hl, hd, rfl⟩
    -- Lines that come later have larger numbers, and those before can be read.
    have hs := (parts_logicalLines text.toList).number_lt
    rw [he, List.pairwise_append, List.pairwise_cons] at hs
    rw [he, List.mem_append, List.mem_cons] at hl
    rw [hn]
    rcases hl with hl | rfl | hl
    · have ⟨_, ho⟩ := hb l₂ hl
      have ⟨_, hd⟩ := readLine_error_iff.mpr hd
      cases hd.symm.trans ho
    · exact Nat.le_refl _
    · exact Nat.le_of_lt (hs.2.1.1 l₂ hl)

-- A text cannot be read if and only if some raw key or value has an escape by number behind which
-- there are neither four hexadecimal digits nor a plus sign and three of them. The fault is on the
-- first such logical line, and names the number of its first line.
theorem read_fails_at_first_bad_escape (text : String) :
    ((∃ fault, read text = .error fault) ↔
      ∃ l ∈ logicalLines text.toList, l.IsBad IsEscapeNumber) ∧
    (∀ fault, read text = .error fault →
      IsLeast {n | ∃ l ∈ logicalLines text.toList, l.IsBad IsEscapeNumber ∧ l.number = n}
        fault.line) ∧
    Parts 1 (Text.lines text.toList) (logicalLines text.toList) :=
  ⟨exists_fault_iff, fun _ => isLeast_line, parts_logicalLines _⟩

-- The value that cannot be read stands on two lines, behind a comment and another entry.
theorem read_fails_at_first_bad_escape_continued :
    let text := "# codes\nok=\\u00e9\nbad=\\u12\\\n  g4\nworse=\\u\n"
    ∃ fault, read text = .error fault ∧
      IsLeast {n | ∃ l ∈ logicalLines text.toList, l.IsBad IsEscapeNumber ∧ l.number = n} 3 := by
  intro text
  let lineOf : Except Fault (KeyMap String) → Nat
    | .error fault => fault.line
    | .ok _ => 0
  have hl : lineOf (read text) = 3 := by decide +kernel
  cases hr : read text
  case error fault =>
    have h := (read_fails_at_first_bad_escape text).2.1 fault hr
    have hl : fault.line = 3 := by rwa [hr] at hl
    exact ⟨fault, rfl, by rwa [hl] at h⟩
  case ok entries =>
    rw [hr] at hl
    cases hl

-- A sign in place of the first digit is read, although there are not four digits.
theorem signed_escape_is_read :
    let text := "k=\\u+041\n"
    (∃ l ∈ logicalLines text.toList, l.IsBad IsHexNumber) ∧
      ∃ entries, read text = .ok entries ∧ entries.get? "k" = some "A" := by
  intro text
  constructor
  case left =>
    have hl : ⟨1, "k=\\u+041".toList⟩ ∈ logicalLines text.toList := by decide +kernel
    have hs : (splitEntry "k=\\u+041".toList).2 = '\\' :: 'u' :: "+041".toList := by decide +kernel
    have hp : ¬IsHexDigit '+' := by decide
    exact ⟨_, hl, .inr ⟨[], "+041".toList, hs, by decide, fun h => hp (h.2 '+' (by simp))⟩⟩
  case right =>
    have hk : (read text).toOption.bind (·.get? "k") = some "A" := by decide +kernel
    cases hr : read text
    case error fault => rw [hr] at hk; cases hk
    case ok entries  => exact ⟨entries, rfl, by rwa [hr] at hk⟩

end ResourceEmbedding.Properties
