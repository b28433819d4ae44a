import Mathlib.Data.List.TakeWhile
import ResourceEmbedding.Json.Printer
import ResourceEmbedding.Json.Reader

namespace ResourceEmbedding

theorem Text.decimalValue_toDigits (n : Nat) : decimalValue (Nat.toDigits 10 n) = n := by
  have h : Nat.ofDigitChars 10 (Nat.toDigits 10 n) 0 = n := Nat.ofDigitChars_ten_toDigits
  simp only [Nat.ofDigitChars, Nat.mul_comm 10] at h
  exact h

namespace Json

-- Values whose numbers are integers. Other numbers are kept as they are written, so their texts
-- need not be texts of numbers.
inductive Integral : Json → Prop
  | null : Integral .null
  | bool (b : Bool) : Integral (.bool b)
  | number (n : Int) : Integral (.number n)
  | string (s : String) : Integral (.string s)
  | array {items : List Json} : (∀ x ∈ items, Integral x) → Integral (.array items)
  | object {fields : List (String × Json)} :
    (∀ e ∈ fields, Integral e.2) → Integral (.object fields)

variable {j x : Json} {items : List Json} {fields : List (String × Json)} {name : String}
variable {cs lead rest : List Char} {fuel depth : Nat} {indented : Bool}

def gap (indented : Bool) (depth : Nat) : List Char :=
  if indented then '\n' :: List.replicate (2 * depth) ' ' else []

theorem toList_newLine (out : String) :
    (newLine indented depth out).toList = out.toList ++ gap indented depth := by
  cases indented <;> simp [newLine, gap]

theorem skipBlanks_append (h : skipBlanks lead = []) (cs : List Char) :
    skipBlanks (lead ++ cs) = skipBlanks cs := by
  rw [skipBlanks, List.dropWhile_append, ← skipBlanks, h]
  rfl

theorem skipBlanks_cons {c : Char} (h : c ∉ [' ', '\n', '\r', '\t', ']']) :
    skipBlanks (c :: cs) = c :: cs := by
  refine List.dropWhile_cons_of_neg ?_
  simp_all

theorem skipBlanks_gap (indented : Bool) (depth : Nat) : skipBlanks (gap indented depth) = [] := by
  refine List.dropWhile_eq_nil_iff.mpr fun c hc => ?_
  cases indented
  case false => contradiction
  case true =>
    rcases List.mem_cons.mp hc with rfl | hc
    case inl => rfl
    case inr => rw [List.eq_of_mem_replicate hc]; rfl

def Ends (rest : List Char) : Prop :=
  ∀ c ∈ rest.head?, isNumberChar c = false

theorem ends_append (hb : skipBlanks lead = []) (h : Ends rest) : Ends (lead ++ rest) := by
  cases lead
  case nil => exact h
  case cons c lead =>
    have hc := List.dropWhile_eq_nil_iff.mp hb c List.mem_cons_self
    intro d hd
    cases hd
    simp only [Bool.or_eq_true, beq_iff_eq] at hc
    rcases hc with ((rfl | rfl) | rfl) | rfl <;> rfl

theorem ends_cons {c : Char} (h : isNumberChar c = false) : Ends (c :: rest) :=
  fun _ hc => by cases hc; exact h

section Strings

-- A control character is written in four digits, and those are read.
theorem hexDigits_control : ∀ n < 0x20, (if n < 0x10 then ['0'] else []) ++ Text.hexDigits n =
    [(n / 0x10).digitChar, (n % 0x10).digitChar] := by
  decide

theorem hex?_control : ∀ n < 0x20,
    Text.hex? ['0', '0', (n / 0x10).digitChar, (n % 0x10).digitChar] = some n := by
  decide

theorem readString_control {c : Char} (h : c.toNat < 0x20) (done rest : List Char) :
    readString done (['\\', 'u', '0', '0', (c.toNat / 0x10).digitChar,
      (c.toNat % 0x10).digitChar] ++ rest) = readString (c :: done) rest := by
  have hs : (c.toNat < 0xD800 || 0xDFFF < c.toNat) = true := by simp; omega
  simp only [List.cons_append, List.nil_append]
  rw [readString, hex?_control _ h, Option.bind_eq_bind, Option.bind_some, if_pos hs,
    Char.ofNat_toNat]

theorem readString_escapeChar (c : Char) (done rest : List Char) :
    readString done (escapeChar c ++ rest) = readString (c :: done) rest := by
  unfold escapeChar
  split
  case h_8 quote backslash _ _ _ _ _ =>
    split
    case isTrue h =>
      rw [← readString_control (by omega), ← hexDigits_control _ (by omega), if_pos h]
      rfl
    case isFalse h =>
      split
      case isTrue hl =>
        rw [← readString_control hl, ← hexDigits_control _ hl, if_neg h]
        rfl
      case isFalse hl =>
        rw [List.singleton_append, readString]
        · rw [if_neg hl]
        -- What is left says that no earlier case of the reader applies.
        case x_1 => exact quote
        all_goals exact fun _ _ => by intros; exact backslash ‹_›
  all_goals rfl

theorem readString_flatMap (cs done rest : List Char) :
    readString done (cs.flatMap escapeChar ++ '"' :: rest) =
      some (.ofList (done.reverse ++ cs), rest) := by
  induction cs generalizing done
  case nil => simp [readString]
  case cons c cs hi =>
    rw [List.flatMap_cons, List.append_assoc, readString_escapeChar, hi]
    simp

theorem toList_literal (s : String) :
    (literal s).toList = '"' :: s.toList.flatMap escapeChar ++ ['"'] :=
  String.toList_ofList

theorem readString_literal (s : String) (rest : List Char) :
    readString [] (s.toList.flatMap escapeChar ++ '"' :: rest) = some (s, rest) := by
  simp [readString_flatMap]

end Strings

section Numbers

theorem isNumberChar_of_mem_toDigits {n : Nat} {c : Char} (h : c ∈ Nat.toDigits 10 n) :
    c.isDigit ∧ isNumberChar c := by
  have hd : c.isDigit := Nat.isDigit_of_mem_toDigits (by decide) (by decide) h
  exact ⟨hd, by simp [isNumberChar, hd]⟩

theorem all_isDigit_toDigits (n : Nat) : (Nat.toDigits 10 n).all Char.isDigit :=
  List.all_eq_true.mpr fun _ h => (isNumberChar_of_mem_toDigits h).1

theorem numberOfToken?_toDigits (n : Nat) :
    numberOfToken? (Nat.toDigits 10 n) = some (.number n) := by
  have ha := all_isDigit_toDigits n
  rw [numberOfToken?.eq_def]
  split
  case h_1 he => exact absurd he Nat.toDigits_ne_nil
  case h_2 he => rw [he] at ha; contradiction
  case h_3 he => rw [he] at ha; contradiction
  case h_4 => rw [if_pos ha, Text.decimalValue_toDigits]

theorem numberOfToken?_neg_toDigits (n : Nat) :
    numberOfToken? ('-' :: Nat.toDigits 10 (n + 1)) = some (.number (.negSucc n)) := by
  have ha := all_isDigit_toDigits (n + 1)
  have hv := Text.decimalValue_toDigits (n + 1)
  rw [numberOfToken?.eq_def]
  split
  case h_1 he => contradiction
  case h_2 he => exact absurd (List.tail_eq_of_cons_eq he) Nat.toDigits_ne_nil
  case h_3 he =>
    rw [← List.tail_eq_of_cons_eq he, hv, ha]
    rfl
  case h_4 he => exact absurd rfl (he _)

theorem toList_toString_ofNat (n : Nat) :
    (toString (Int.ofNat n)).toList = Nat.toDigits 10 n :=
  Nat.toList_repr

theorem toList_toString_negSucc (n : Nat) :
    (toString (Int.negSucc n)).toList = '-' :: Nat.toDigits 10 (n + 1) := by
  simp [toString, Int.repr]

theorem numberOfToken?_toString (n : Int) :
    numberOfToken? (toString n).toList = some (.number n) := by
  cases n
  case ofNat n   => rw [toList_toString_ofNat, numberOfToken?_toDigits]; rfl
  case negSucc n => rw [toList_toString_negSucc, numberOfToken?_neg_toDigits]

theorem isNumberChar_of_mem_toString {n : Int} {c : Char} (h : c ∈ (toString n).toList) :
    isNumberChar c := by
  cases n
  case ofNat n =>
    rw [toList_toString_ofNat] at h
    exact (isNumberChar_of_mem_toDigits h).2
  case negSucc n =>
    rw [toList_toString_negSucc] at h
    rcases List.mem_cons.mp h with rfl | h
    case inl => rfl
    case inr => exact (isNumberChar_of_mem_toDigits h).2

theorem toList_toString_ne_nil (n : Int) : (toString n).toList ≠ [] := by
  cases n
  case ofNat n   => rw [toList_toString_ofNat]; exact Nat.toDigits_ne_nil
  case negSucc n => rw [toList_toString_negSucc]; exact nofun

end Numbers

section Values

-- The text `cs` reads as `j` wherever it stands, unless a character of a number follows. It begins
-- with no blank, and not like the end of an array. Each step of reading is over a text that is
-- shorter by a character, so its length is fuel enough.
structure Reads (j : Json) (cs : List Char) : Prop where
  opens : ∀ rest, skipBlanks (cs ++ rest) = cs ++ rest ∧ ∀ tail, cs ++ rest ≠ ']' :: tail
  read  : ∀ {fuel rest}, cs.length ≤ fuel → Ends rest → readValue fuel (cs ++ rest) = some (j, rest)

theorem Reads.of_cons {c : Char} (hc : c ∉ [' ', '\n', '\r', '\t', ']'])
    (h : ∀ {fuel rest}, cs.length ≤ fuel → Ends rest →
      readValue (fuel + 1) (c :: cs ++ rest) = some (j, rest)) : Reads j (c :: cs) where
  opens rest := by
    have hb : c ≠ ']' := by rintro rfl; simp at hc
    exact ⟨skipBlanks_cons hc, fun _ he => hb (List.head_eq_of_cons_eq he)⟩
  read {fuel rest} hl hr := by
    cases fuel
    case zero   => simp at hl
    case succ n => exact h (Nat.le_of_succ_le_succ hl) hr

theorem reads_null : Reads .null "null".toList :=
  .of_cons (by decide) fun _ _ => rfl

theorem reads_bool (b : Bool) : Reads (.bool b) (if b then "true" else "false").toList := by
  cases b
  case false => exact .of_cons (by decide) fun _ _ => rfl
  case true  => exact .of_cons (by decide) fun _ _ => rfl

theorem reads_string (s : String) : Reads (.string s) (literal s).toList := by
  rw [toList_literal, List.cons_append]
  refine .of_cons (by decide) fun {_ rest} _ _ => ?_
  have hb : skipBlanks ('"' :: (s.toList.flatMap escapeChar ++ '"' :: rest)) =
    '"' :: (s.toList.flatMap escapeChar ++ '"' :: rest) := rfl
  simp only [List.cons_append, List.append_assoc, List.nil_append]
  rw [readValue, hb]
  simp only [readString_literal, Option.map_some]

theorem span_of_ends (h : Ends rest) :
    rest.takeWhile isNumberChar = [] ∧ rest.dropWhile isNumberChar = rest := by
  cases rest
  case nil => exact ⟨rfl, rfl⟩
  case cons c rest => simp [h c rfl]

theorem reads_number (n : Int) : Reads (.number n) (toString n).toList := by
  have ⟨c, token, ht⟩ := List.exists_cons_of_ne_nil (toList_toString_ne_nil n)
  have ha : ∀ d ∈ c :: token, isNumberChar d := fun d hd => isNumberChar_of_mem_toString (ht ▸ hd)
  have hc : isNumberChar c := ha c List.mem_cons_self
  have hm : c ∉ [' ', '\n', '\r', '\t', ']'] := by
    intro hm
    simp only [List.mem_cons, List.not_mem_nil, or_false] at hm
    rcases hm with rfl | rfl | rfl | rfl | rfl <;> contradiction
  rw [ht]
  refine .of_cons hm fun {_ rest} _ hr => ?_
  have ⟨taken, dropped⟩ := span_of_ends hr
  rw [readValue, List.cons_append, skipBlanks_cons hm, ← List.cons_append]
  split
  case h_7 =>
    rw [List.takeWhile_append_of_pos ha, List.dropWhile_append_of_pos ha, taken, dropped,
      List.append_nil, ← ht, numberOfToken?_toString, Option.map_some]
  all_goals exact absurd (List.head_eq_of_cons_eq ‹_› ▸ hc) (by decide)

end Values

section Arrays

variable {token closing : List Char} {done : List Json}

theorem Reads.read_append (h : Reads j cs) (hb : skipBlanks lead = []) (hl : cs.length ≤ fuel)
    (hr : Ends rest) : readValue fuel (lead ++ (cs ++ rest)) = some (j, rest) := by
  have hs : readValue fuel (lead ++ (cs ++ rest)) = readValue fuel (cs ++ rest) := by
    cases fuel
    case zero   => rfl
    case succ n => rw [readValue, readValue, skipBlanks_append hb]
  rw [hs, h.read hl hr]

theorem readItems_next (h : Reads x token) (hb : skipBlanks lead = []) (hl : token.length ≤ fuel) :
    readItems (fuel + 1) done (lead ++ (token ++ ',' :: rest)) =
      readItems fuel (x :: done) rest := by
  rw [readItems, h.read_append hb hl (ends_cons rfl)]
  rfl

theorem readItems_last (h : Reads x token) (hb : skipBlanks lead = []) (hl : token.length ≤ fuel)
    (hc : skipBlanks closing = []) :
    readItems (fuel + 1) done (lead ++ (token ++ (closing ++ ']' :: rest))) =
      some (.array (x :: done).reverse, rest) := by
  have hs : skipBlanks (closing ++ ']' :: rest) = ']' :: rest := skipBlanks_append hc _
  rw [readItems, h.read_append hb hl (ends_append hc (ends_cons rfl)), Option.bind_eq_bind,
    Option.bind_some]
  simp only [hs]

-- The text `cs` reads as further items, from the end of an item to that of the last one.
def ReadsItems (items : List Json) (cs : List Char) : Prop :=
  ∀ {x token lead closing done fuel rest}, Reads x token → skipBlanks lead = [] →
    skipBlanks closing = [] → token.length + cs.length < fuel →
    readItems fuel done (lead ++ (token ++ (cs ++ (closing ++ ']' :: rest)))) =
      some (.array (done.reverse ++ x :: items), rest)

theorem readsItems_nil : ReadsItems [] [] := by
  intro x token lead closing done fuel rest hx hb hc hl
  obtain ⟨fuel, rfl⟩ := Nat.exists_eq_add_one_of_ne_zero (Nat.ne_zero_of_lt hl)
  rw [List.nil_append, readItems_last hx hb (Nat.le_of_lt_succ hl) hc, List.reverse_cons]

theorem ReadsItems.cons (h : ReadsItems items cs) (hx : Reads x token) (hb : skipBlanks lead = []) :
    ReadsItems (x :: items) (',' :: (lead ++ (token ++ cs))) := by
  intro y token₂ lead₂ closing done fuel rest hy hb₂ hc hl
  obtain ⟨fuel, rfl⟩ := Nat.exists_eq_add_one_of_ne_zero (Nat.ne_zero_of_lt hl)
  simp only [List.length_cons, List.length_append] at hl
  simp only [List.cons_append, List.append_assoc]
  rw [readItems_next hy hb₂ (by omega), h hx hb hc (by omega), List.reverse_cons, List.append_assoc,
    List.singleton_append]

theorem ReadsItems.array (h : ReadsItems items cs) (hx : Reads x token) (hb : skipBlanks lead = [])
    (hc : skipBlanks closing = []) :
    Reads (.array (x :: items)) ('[' :: (lead ++ (token ++ (cs ++ (closing ++ [']']))))) := by
  refine .of_cons (by decide) fun {fuel rest} hl _ => ?_
  have ⟨opens, notEnd⟩ := hx.opens (cs ++ (closing ++ ']' :: rest))
  simp only [List.length_append, List.length_singleton] at hl
  simp only [List.cons_append, List.append_assoc, List.nil_append]
  rw [readValue, skipBlanks_cons (by decide)]
  simp only [skipBlanks_append hb, opens]
  exact @h x token [] closing [] fuel rest hx rfl hc (by omega)

end Arrays

section Objects

variable {token between closing : List Char} {done : List (String × Json)}

def fieldText (name : String) (between token : List Char) : List Char :=
  (literal name).toList ++ ':' :: (between ++ token)

theorem fieldText_append : fieldText name between token ++ rest =
    '"' :: (name.toList.flatMap escapeChar ++ '"' :: ':' :: (between ++ (token ++ rest))) := by
  simp [fieldText, toList_literal]

theorem skipBlanks_fieldText (hb : skipBlanks lead = []) :
    skipBlanks (lead ++ (fieldText name between token ++ rest)) =
      fieldText name between token ++ rest := by
  rw [skipBlanks_append hb, fieldText_append, skipBlanks_cons (by decide)]

theorem skipBlanks_colon : skipBlanks (':' :: cs) = ':' :: cs :=
  skipBlanks_cons (by decide)

theorem readFields_next (h : Reads x token) (hb : skipBlanks lead = [])
    (ht : skipBlanks between = []) (hl : token.length ≤ fuel) :
    readFields (fuel + 1) done (lead ++ (fieldText name between token ++ ',' :: rest)) =
      readFields fuel ((name, x) :: done) rest := by
  have hv : readValue fuel (between ++ (token ++ ',' :: rest)) = some (x, ',' :: rest) :=
    h.read_append ht hl (ends_cons rfl)
  rw [readFields, skipBlanks_fieldText hb, fieldText_append]
  simp only [readString_literal, skipBlanks_colon, hv, Option.bind_eq_bind, Option.bind_some]
  rfl

theorem readFields_last (h : Reads x token) (hb : skipBlanks lead = [])
    (ht : skipBlanks between = []) (hl : token.length ≤ fuel) (hc : skipBlanks closing = []) :
    readFields (fuel + 1) done
      (lead ++ (fieldText name between token ++ (closing ++ '\x7d' :: rest))) =
      some (.object ((name, x) :: done).reverse, rest) := by
  have hs : skipBlanks (closing ++ '\x7d' :: rest) = '\x7d' :: rest := skipBlanks_append hc _
  have hv : readValue fuel (between ++ (token ++ (closing ++ '\x7d' :: rest))) =
    some (x, closing ++ '\x7d' :: rest) := h.read_append ht hl (ends_append hc (ends_cons rfl))
  rw [readFields, skipBlanks_fieldText hb, fieldText_append]
  simp only [readString_literal, skipBlanks_colon, hv, hs, Option.bind_eq_bind, Option.bind_some]

-- The text `cs` reads as further fields, from the end of a field to that of the last one.
def ReadsFields (fields : List (String × Json)) (cs : List Char) : Prop :=
  ∀ {x name between token lead closing done fuel rest}, Reads x token → skipBlanks lead = [] →
    skipBlanks between = [] → skipBlanks closing = [] → token.length + cs.length < fuel →
    readFields fuel done
      (lead ++ (fieldText name between token ++ (cs ++ (closing ++ '\x7d' :: rest)))) =
      some (.object (done.reverse ++ (name, x) :: fields), rest)

theorem readsFields_nil : ReadsFields [] [] := by
  intro x name between token lead closing done fuel rest hx hb ht hc hl
  obtain ⟨fuel, rfl⟩ := Nat.exists_eq_add_one_of_ne_zero (Nat.ne_zero_of_lt hl)
  rw [List.nil_append, readFields_last hx hb ht (Nat.le_of_lt_succ hl) hc, List.reverse_cons]

theorem ReadsFields.cons (h : ReadsFields fields cs) (hx : Reads x token)
    (hb : skipBlanks lead = []) (ht : skipBlanks between = []) :
    ReadsFields ((name, x) :: fields) (',' :: (lead ++ (fieldText name between token ++ cs))) := by
  intro y name₂ between₂ token₂ lead₂ closing done fuel rest hy hb₂ ht₂ hc hl
  obtain ⟨fuel, rfl⟩ := Nat.exists_eq_add_one_of_ne_zero (Nat.ne_zero_of_lt hl)
  have hs : token.length ≤ (fieldText name between token).length := by simp [fieldText]; omega
  simp only [List.length_cons, List.length_append] at hl
  simp only [List.cons_append, List.append_assoc]
  rw [readFields_next hy hb₂ ht₂ (by omega), h hx hb ht hc (by omega), List.reverse_cons,
    List.append_assoc, List.singleton_append]

theorem ReadsFields.object (h : ReadsFields fields cs) (hx : Reads x token)
    (hb : skipBlanks lead = []) (ht : skipBlanks between = []) (hc : skipBlanks closing = []) :
    Reads (.object ((name, x) :: fields))
      ('\x7b' :: (lead ++ (fieldText name between token ++ (cs ++ (closing ++ ['\x7d']))))) := by
  refine .of_cons (by decide) fun {fuel rest} hl _ => ?_
  have hs : token.length ≤ (fieldText name between token).length := by simp [fieldText]; omega
  have hf := @h x name between token [] closing [] fuel rest hx rfl ht hc
  simp only [List.length_append, List.length_singleton] at hl
  simp only [List.cons_append, List.append_assoc, List.nil_append]
  rw [readValue, skipBlanks_cons (by decide)]
  simp only [skipBlanks_fieldText hb]
  rw [List.nil_append, fieldText_append] at hf
  rw [fieldText_append]
  exact hf (by omega)

end Objects

section Writing

-- What is written for a value reads as this value.
def Printed (j : Json) : Prop :=
  ∀ indented depth out, ∃ cs, (write indented depth out j).toList = out.toList ++ cs ∧ Reads j cs

-- The text of an item is what the writer appends for it, so the texts of all are found from the
-- first item on, each behind what is written so far.
theorem exists_writeItems (h : ∀ x ∈ items, Printed x) (indented : Bool) (depth : Nat)
    (out : String) :
    ∃ cs, (writeItems indented depth out items).toList = out.toList ++ cs ∧
      ReadsItems items cs := by
  induction items generalizing out
  case nil => exact ⟨[], by simp [writeItems], readsItems_nil⟩
  case cons x items hi =>
    have ⟨hx, hs⟩ := List.forall_mem_cons.mp h
    have ⟨token, ht, hr⟩ := hx indented depth (newLine indented depth (out.push ','))
    have ⟨cs, hc, hrs⟩ := hi hs (write indented depth (newLine indented depth (out.push ',')) x)
    refine ⟨_, ?_, hrs.cons hr (skipBlanks_gap indented depth)⟩
    rw [writeItems, hc, ht, toList_newLine, String.toList_push]
    simp

theorem printed_array (h : ∀ x ∈ items, Printed x) : Printed (.array items) := by
  intro indented depth out
  cases items
  case nil => exact ⟨_, String.toList_append, .of_cons (by decide) fun _ _ => rfl⟩
  case cons x items =>
    have ⟨hx, hs⟩ := List.forall_mem_cons.mp h
    have ⟨token, ht, hr⟩ := hx indented (depth + 1) (newLine indented (depth + 1) (out.push '['))
    have ⟨cs, hc, hrs⟩ := exists_writeItems hs indented (depth + 1)
      (write indented (depth + 1) (newLine indented (depth + 1) (out.push '[')) x)
    refine ⟨_, ?_, hrs.array hr (skipBlanks_gap indented (depth + 1))
      (skipBlanks_gap indented depth)⟩
    rw [write, String.toList_push, toList_newLine, hc, ht, toList_newLine, String.toList_push]
    simp

def space (indented : Bool) : List Char :=
  if indented then [' '] else []

theorem skipBlanks_space (indented : Bool) : skipBlanks (space indented) = [] := by
  cases indented <;> rfl

def writeLabel (indented : Bool) (depth : Nat) (out name : String) : String :=
  newLine indented depth out ++ literal name ++ (if indented then ": " else ":")

theorem toList_writeLabel (out : String) :
    (writeLabel indented depth out name).toList ++ cs =
      out.toList ++ (gap indented depth ++ fieldText name (space indented) cs) := by
  cases indented <;> simp [writeLabel, toList_newLine, fieldText, space]

theorem exists_writeFields (h : ∀ e ∈ fields, Printed e.2) (indented : Bool) (depth : Nat)
    (out : String) :
    ∃ cs, (writeFields indented depth out fields).toList = out.toList ++ cs ∧
      ReadsFields fields cs := by
  induction fields generalizing out
  case nil => exact ⟨[], by simp [writeFields], readsFields_nil⟩
  case cons e fields hi =>
    have ⟨hx, hs⟩ := List.forall_mem_cons.mp h
    have ⟨token, ht, hr⟩ := hx indented depth (writeLabel indented depth (out.push ',') e.1)
    have ⟨cs, hc, hrs⟩ :=
      hi hs (write indented depth (writeLabel indented depth (out.push ',') e.1) e.2)
    refine ⟨_, ?_, hrs.cons hr (skipBlanks_gap indented depth) (skipBlanks_space indented)⟩
    rw [writeFields, ← writeLabel, hc, ht, toList_writeLabel, String.toList_push]
    simp

theorem printed_object (h : ∀ e ∈ fields, Printed e.2) : Printed (.object fields) := by
  intro indented depth out
  cases fields
  case nil => exact ⟨_, String.toList_append, .of_cons (by decide) fun _ _ => rfl⟩
  case cons e fields =>
    have ⟨hx, hs⟩ := List.forall_mem_cons.mp h
    have ⟨token, ht, hr⟩ :=
      hx indented (depth + 1) (writeLabel indented (depth + 1) (out.push '\x7b') e.1)
    have ⟨cs, hc, hrs⟩ := exists_writeFields hs indented (depth + 1)
      (write indented (depth + 1) (writeLabel indented (depth + 1) (out.push '\x7b') e.1) e.2)
    refine ⟨_, ?_, hrs.object hr (skipBlanks_gap indented (depth + 1)) (skipBlanks_space indented)
      (skipBlanks_gap indented depth)⟩
    rw [write, ← writeLabel, String.toList_push, toList_newLine, hc, ht, toList_writeLabel,
      String.toList_push]
    simp

theorem Integral.printed (h : j.Integral) : Printed j := by
  induction h
  case null               => exact fun _ _ _ => ⟨_, String.toList_append, reads_null⟩
  case bool b             => exact fun _ _ _ => ⟨_, String.toList_append, reads_bool b⟩
  case number n           => exact fun _ _ _ => ⟨_, String.toList_append, reads_number n⟩
  case string s           => exact fun _ _ _ => ⟨_, String.toList_append, reads_string s⟩
  case array items _ hi   => exact printed_array hi
  case object fields _ hi => exact printed_object hi

-- The text of a value reads as the value, on one line and indented.
theorem Integral.read?_write (h : j.Integral) (indented : Bool) :
    read? (j.write indented 0 "") = some j := by
  have ⟨cs, hc, hr⟩ := h.printed indented 0 ""
  have hv := @hr.read (cs.length + 1) [] (Nat.le_succ _) nofun
  rw [List.append_nil] at hv
  rw [String.toList_empty, List.nil_append] at hc
  rw [read?, hc]
  simp only [hv, Option.bind_eq_bind, Option.bind_some]
  rfl

end Writing

end Json

end ResourceEmbedding
