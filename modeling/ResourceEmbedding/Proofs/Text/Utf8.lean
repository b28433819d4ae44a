import ResourceEmbedding.Text.Utf8
import Mathlib.Data.List.Basic
import Mathlib.Tactic

namespace ResourceEmbedding

theorem toNat_valid (c : Char) : c.toNat < 0xD800 ∨ 0xDFFF < c.toNat ∧ c.toNat < 0x110000 :=
  c.valid

theorem toNat_ofNat {n : Nat} (h : n < 0xD800 ∨ 0xDFFF < n ∧ n < 0x110000) :
    (Char.ofNat n).toNat = n := by
  have hv : n.isValidChar := h
  rw [Char.ofNat, dif_pos hv]
  rfl

theorem ofNat_eq_iff {n : Nat} {c : Char} (h : n < 0xD800 ∨ 0xDFFF < n ∧ n < 0x110000) :
    Char.ofNat n = c ↔ c.toNat = n := by
  constructor
  case mp  => exact (· ▸ toNat_ofNat h)
  case mpr => exact (· ▸ Char.ofNat_toNat c)

namespace Utf8

variable {a b d e : UInt8} {bytes tail : List UInt8} {c : Char} {cs ds : List Char}

theorem isContinuation_iff : isContinuation b ↔ 0x80 ≤ b.toNat ∧ b.toNat ≤ 0xBF := by
  simp [isContinuation, UInt8.le_iff_toNat_le]

theorem isSecond_iff : isSecond a b ↔
    (0x80 ≤ b.toNat ∧ b.toNat ≤ 0xBF) ∧
    (a.toNat = 0xE0 → 0xA0 ≤ b.toNat) ∧ (a.toNat = 0xED → b.toNat ≤ 0x9F) ∧
    (a.toNat = 0xF0 → 0x90 ≤ b.toNat) ∧ (a.toNat = 0xF4 → b.toNat ≤ 0x8F) := by
  simp only [isSecond, ← UInt8.toNat_inj]
  split_ifs <;> simp_all [isContinuation, UInt8.le_iff_toNat_le] <;> omega

theorem exists_isSecond (a : UInt8) : ∃ b, isSecond a b := by
  simp only [isSecond_iff]
  by_cases h : a.toNat = 0xE0 ∨ a.toNat = 0xF0
  case pos => exact ⟨0xA0, by simp; omega⟩
  case neg => exact ⟨0x80, by simp; omega⟩

-- The four shapes of a character's bytes. Overlong forms and surrogates are ruled out by the second
-- byte alone, so each shape comes down to the ranges of its bytes and the value they spell.

theorem ofChar_eq_one : ofChar c = [a] ↔ a.toNat < 0x80 ∧ c.toNat = a.toNat := by
  have := a.toNat_lt
  simp only [ofChar]
  split_ifs <;> simp [← UInt8.toNat_inj] <;> omega

theorem ofChar_eq_two : ofChar c = [a, b] ↔
    (0xC2 ≤ a.toNat ∧ a.toNat < 0xE0) ∧ isContinuation b ∧
      c.toNat = a.toNat % 0x20 * 0x40 + b.toNat % 0x40 := by
  have := a.toNat_lt
  have := b.toNat_lt
  simp only [ofChar, isContinuation_iff]
  split_ifs <;> simp [← UInt8.toNat_inj] <;> omega

theorem ofChar_eq_three : ofChar c = [a, b, d] ↔
    (0xE0 ≤ a.toNat ∧ a.toNat < 0xF0) ∧ isSecond a b ∧ isContinuation d ∧
      c.toNat = (a.toNat % 0x10 * 0x40 + b.toNat % 0x40) * 0x40 + d.toNat % 0x40 := by
  have := a.toNat_lt
  have := b.toNat_lt
  have := d.toNat_lt
  have := toNat_valid c
  simp only [ofChar, isContinuation_iff, isSecond_iff]
  split_ifs <;> simp [← UInt8.toNat_inj] <;> omega

theorem ofChar_eq_four : ofChar c = [a, b, d, e] ↔
    (0xF0 ≤ a.toNat ∧ a.toNat ≤ 0xF4) ∧ isSecond a b ∧ isContinuation d ∧ isContinuation e ∧
      c.toNat = ((a.toNat % 0x08 * 0x40 + b.toNat % 0x40) * 0x40 + d.toNat % 0x40) * 0x40 +
        e.toNat % 0x40 := by
  have := a.toNat_lt
  have := b.toNat_lt
  have := d.toNat_lt
  have := e.toNat_lt
  have := toNat_valid c
  simp only [ofChar, isContinuation_iff, isSecond_iff]
  split_ifs <;> simp [← UInt8.toNat_inj] <;> omega

theorem ofChar_cases (c : Char) :
    (∃ a, ofChar c = [a]) ∨ (∃ a b, ofChar c = [a, b]) ∨ (∃ a b d, ofChar c = [a, b, d]) ∨
      ∃ a b d e, ofChar c = [a, b, d, e] := by
  simp only [ofChar]
  split_ifs <;> simp

theorem ofChar_ne_nil (c : Char) : ofChar c ≠ [] := by
  intro h
  have := ofChar_cases c
  simp [h] at this

theorem exists_ofChar_two (ha : 0xC2 ≤ a.toNat ∧ a.toNat < 0xE0) (hb : isContinuation b) :
    ∃ c, ofChar c = [a, b] := by
  refine ⟨.ofNat (a.toNat % 0x20 * 0x40 + b.toNat % 0x40), ofChar_eq_two.mpr ⟨ha, hb, ?_⟩⟩
  exact toNat_ofNat (by omega)

theorem exists_ofChar_three (ha : 0xE0 ≤ a.toNat ∧ a.toNat < 0xF0) (hb : isSecond a b)
    (hd : isContinuation d) : ∃ c, ofChar c = [a, b, d] := by
  have hs := isSecond_iff.mp hb
  refine ⟨.ofNat ((a.toNat % 0x10 * 0x40 + b.toNat % 0x40) * 0x40 + d.toNat % 0x40),
    ofChar_eq_three.mpr ⟨ha, hb, hd, ?_⟩⟩
  exact toNat_ofNat (by omega)

theorem exists_ofChar_four (ha : 0xF0 ≤ a.toNat ∧ a.toNat ≤ 0xF4) (hb : isSecond a b)
    (hd : isContinuation d) (he : isContinuation e) : ∃ c, ofChar c = [a, b, d, e] := by
  have hs := isSecond_iff.mp hb
  refine ⟨.ofNat (((a.toNat % 0x08 * 0x40 + b.toNat % 0x40) * 0x40 + d.toNat % 0x40) * 0x40 +
    e.toNat % 0x40), ofChar_eq_four.mpr ⟨ha, hb, hd, he, ?_⟩⟩
  exact toNat_ofNat (by omega)

theorem ofChar_inj {c d : Char} (h : ofChar c = ofChar d) : c = d := by
  apply Char.ext
  apply UInt32.toNat_inj.mp
  change c.toNat = d.toNat
  rcases ofChar_cases d with ⟨_, hd⟩ | ⟨_, _, hd⟩ | ⟨_, _, _, hd⟩ | ⟨_, _, _, _, hd⟩
  · rw [(ofChar_eq_one.mp (h.trans hd)).2, (ofChar_eq_one.mp hd).2]
  · rw [(ofChar_eq_two.mp (h.trans hd)).2.2, (ofChar_eq_two.mp hd).2.2]
  · rw [(ofChar_eq_three.mp (h.trans hd)).2.2.2, (ofChar_eq_three.mp hd).2.2.2]
  · rw [(ofChar_eq_four.mp (h.trans hd)).2.2.2.2, (ofChar_eq_four.mp hd).2.2.2.2]

def width (a : UInt8) : Nat :=
  if a.toNat < 0x80 then 1 else if a.toNat < 0xE0 then 2 else if a.toNat < 0xF0 then 3 else 4

theorem length_ofChar (h : ofChar c = a :: bytes) : (ofChar c).length = width a := by
  rcases ofChar_cases c with ⟨x, hc⟩ | ⟨x, _, hc⟩ | ⟨x, _, _, hc⟩ | ⟨x, _, _, _, hc⟩ <;>
    have hx : x = a := by simp_all
  · have := ofChar_eq_one.mp hc
    simp [hc, width, ← hx, this.1]
  · have := ofChar_eq_two.mp hc
    simp only [hc, width, ← hx, List.length_cons, List.length_nil]
    split_ifs <;> omega
  · have := ofChar_eq_three.mp hc
    simp only [hc, width, ← hx, List.length_cons, List.length_nil]
    split_ifs <;> omega
  · have := ofChar_eq_four.mp hc
    simp only [hc, width, ← hx, List.length_cons, List.length_nil]
    split_ifs <;> omega

-- No character's bytes start another's: the first byte tells how many there are.
theorem ofChar_prefix_free {c d : Char} (h : ofChar c <+: ofChar d) : c = d := by
  cases hc : ofChar c
  case nil => exact absurd hc (ofChar_ne_nil c)
  case cons a bytes =>
    have ⟨rest, hd⟩ : a :: bytes <+: ofChar d := hc ▸ h
    have hl := (length_ofChar hc).trans (length_ofChar hd.symm).symm
    exact ofChar_inj (h.eq_of_length hl)

def Beginning (bytes : List UInt8) : Prop :=
  ∃ c, bytes <+: ofChar c ∧ bytes ≠ ofChar c

theorem Beginning.nil : Beginning [] :=
  ⟨'a', List.nil_prefix, (ofChar_ne_nil 'a').symm⟩

theorem Beginning.one_iff : Beginning [a] ↔ 0xC2 ≤ a.toNat ∧ a.toNat ≤ 0xF4 := by
  constructor
  case mp =>
    intro ⟨c, hp, hn⟩
    rcases ofChar_cases c with ⟨_, h⟩ | ⟨_, _, h⟩ | ⟨_, _, _, h⟩ | ⟨_, _, _, _, h⟩ <;>
      rw [h] at hp hn <;> simp [List.cons_prefix_cons] at hp hn <;> subst hp
    case inl => contradiction
    all_goals
      simp only [ofChar_eq_two, ofChar_eq_three, ofChar_eq_four] at h
      omega
  case mpr =>
    intro h
    have ⟨b, hb⟩ := exists_isSecond a
    have ht : isContinuation 0x80 := by decide
    rcases (by omega : a.toNat < 0xE0 ∨ (0xE0 ≤ a.toNat ∧ a.toNat < 0xF0) ∨ 0xF0 ≤ a.toNat)
      with h₁ | h₁ | h₁
    · have ⟨c, hc⟩ := exists_ofChar_two ⟨h.1, h₁⟩ ht
      exact ⟨c, by simp [hc], by simp [hc]⟩
    · have ⟨c, hc⟩ := exists_ofChar_three h₁ hb ht
      exact ⟨c, by simp [hc], by simp [hc]⟩
    · have ⟨c, hc⟩ := exists_ofChar_four ⟨h₁, h.2⟩ hb ht ht
      exact ⟨c, by simp [hc], by simp [hc]⟩

theorem Beginning.two_iff :
    Beginning [a, b] ↔ (0xE0 ≤ a.toNat ∧ a.toNat ≤ 0xF4) ∧ isSecond a b := by
  constructor
  case mp =>
    intro ⟨c, hp, hn⟩
    rcases ofChar_cases c with ⟨_, h⟩ | ⟨_, _, h⟩ | ⟨_, _, _, h⟩ | ⟨_, _, _, _, h⟩ <;>
      rw [h] at hp hn <;> simp [List.cons_prefix_cons] at hp hn <;> have ⟨ha, hb⟩ := hp <;>
      subst ha hb
    case inr.inl => simp at hn
    all_goals
      simp only [ofChar_eq_three, ofChar_eq_four] at h
      exact ⟨by omega, h.2.1⟩
  case mpr =>
    intro ⟨h, hb⟩
    have ht : isContinuation 0x80 := by decide
    by_cases h₁ : a.toNat < 0xF0
    case pos =>
      have ⟨c, hc⟩ := exists_ofChar_three ⟨h.1, h₁⟩ hb ht
      exact ⟨c, by simp [hc], by simp [hc]⟩
    case neg =>
      have ⟨c, hc⟩ := exists_ofChar_four ⟨by omega, h.2⟩ hb ht ht
      exact ⟨c, by simp [hc], by simp [hc]⟩

theorem Beginning.three_iff :
    Beginning [a, b, d] ↔
      (0xF0 ≤ a.toNat ∧ a.toNat ≤ 0xF4) ∧ isSecond a b ∧ isContinuation d := by
  constructor
  case mp =>
    intro ⟨c, hp, hn⟩
    rcases ofChar_cases c with ⟨_, h⟩ | ⟨_, _, h⟩ | ⟨_, _, _, h⟩ | ⟨_, _, _, _, h⟩ <;>
      rw [h] at hp hn <;> simp [List.cons_prefix_cons] at hp hn
    case inr.inr.inl => simp [hp] at hn
    case inr.inr.inr =>
      have ⟨ha, hb, hd⟩ := hp
      subst ha hb hd
      have h := ofChar_eq_four.mp h
      exact ⟨h.1, h.2.1, h.2.2.1⟩
  case mpr =>
    intro ⟨h, hb, hd⟩
    have ht : isContinuation 0x80 := by decide
    have ⟨c, hc⟩ := exists_ofChar_four h hb hd ht
    exact ⟨c, by simp [hc], by simp [hc]⟩

theorem Beginning.length_lt (h : Beginning bytes) : bytes.length < 4 := by
  have ⟨c, hp, hn⟩ := h
  have hl := lt_of_le_of_ne hp.length_le (fun he => hn (hp.eq_of_length he))
  rcases ofChar_cases c with ⟨_, h⟩ | ⟨_, _, h⟩ | ⟨_, _, _, h⟩ | ⟨_, _, _, _, h⟩ <;>
    simp only [h, List.length_cons, List.length_nil] at hl <;> omega

-- `judge` sees one byte more than a beginning: it knows the character that is complete with it ...
theorem judge_eq_char (h : Beginning bytes) :
    judge (bytes ++ [b]) = .char c ↔ ofChar c = bytes ++ [b] := by
  match bytes, h, h.length_lt with
  | [], _, _ =>
    have hv := @ofNat_eq_iff b.toNat c (.inl (by have := b.toNat_lt; omega))
    simp only [List.nil_append, judge, ofChar_eq_one, UInt8.lt_iff_toNat_lt]
    split_ifs <;> simp_all
  | [a], h, _ =>
    have ha := Beginning.one_iff.mp h
    have hv := @ofNat_eq_iff (a.toNat % 0x20 * 0x40 + b.toNat % 0x40) c (.inl (by omega))
    have hs (h : a.toNat < 0xE0) : isSecond a b ↔ isContinuation b := by
      simp only [isSecond_iff, isContinuation_iff]
      omega
    simp only [List.cons_append, List.nil_append, judge, extend, ofChar_eq_two,
      UInt8.lt_iff_toNat_lt]
    by_cases h₁ : a.toNat < 0xE0
    case pos => split_ifs <;> simp_all
    case neg => simp [h₁]; split_ifs <;> simp
  | [a, d], h, _ =>
    have ⟨ha, hs⟩ := Beginning.two_iff.mp h
    have hr := isSecond_iff.mp hs
    have hv (h : a.toNat < 0xF0) := @ofNat_eq_iff
      ((a.toNat % 0x10 * 0x40 + d.toNat % 0x40) * 0x40 + b.toNat % 0x40) c (by omega)
    simp only [List.cons_append, List.nil_append, judge, extend, ofChar_eq_three,
      UInt8.lt_iff_toNat_lt]
    split_ifs <;> simp_all
  | [a, d, e], h, _ =>
    have ⟨ha, hs, he⟩ := Beginning.three_iff.mp h
    have hr := isSecond_iff.mp hs
    have hv := @ofNat_eq_iff (((a.toNat % 0x08 * 0x40 + d.toNat % 0x40) * 0x40 +
      e.toNat % 0x40) * 0x40 + b.toNat % 0x40) c (by omega)
    simp only [List.cons_append, List.nil_append, judge, extend, ofChar_eq_four]
    split_ifs <;> simp_all

-- ... and knows whether a character may still come of it.
theorem judge_eq_more (h : Beginning bytes) :
    judge (bytes ++ [b]) = .more ↔ Beginning (bytes ++ [b]) := by
  match bytes, h, h.length_lt with
  | [], _, _ =>
    simp only [List.nil_append, judge, Beginning.one_iff, UInt8.lt_iff_toNat_lt]
    split_ifs <;> simp_all [UInt8.le_iff_toNat_le]
    omega
  | [a], h, _ =>
    have ha := Beginning.one_iff.mp h
    simp only [List.cons_append, List.nil_append, judge, Beginning.two_iff, UInt8.lt_iff_toNat_lt]
    split_ifs <;> simp_all
  | [a, d], h, _ =>
    have ⟨ha, hs⟩ := Beginning.two_iff.mp h
    simp only [List.cons_append, List.nil_append, judge, Beginning.three_iff,
      UInt8.lt_iff_toNat_lt]
    split_ifs <;> simp_all
  | [a, d, e], h, _ =>
    have hn : ¬Beginning [a, d, e, b] := fun h => by simpa using h.length_lt
    simp only [List.cons_append, List.nil_append, judge, hn]
    split_ifs <;> simp

def Stuck (tail : List UInt8) : Prop :=
  ∀ c, ¬ofChar c <+: tail

theorem Stuck.nil : Stuck [] :=
  fun c h => ofChar_ne_nil c (List.prefix_nil.mp h)

theorem Beginning.stuck (h : Beginning bytes) : Stuck bytes := by
  intro c hc
  have ⟨d, hp, hn⟩ := h
  have he := ofChar_prefix_free (hc.trans hp)
  exact hn (hp.eq_of_length_le (he ▸ hc.length_le))

-- No character starts here, whatever bytes follow.
def Broken (tail : List UInt8) : Prop :=
  ∀ more, Stuck (tail ++ more)

theorem Broken.stuck (h : Broken tail) : Stuck tail :=
  List.append_nil tail ▸ h []

theorem Broken.ne_nil (h : Broken tail) : tail ≠ [] := by
  rintro rfl
  exact h (ofChar 'a') 'a' (List.prefix_refl _)

theorem Broken.append (h : Broken tail) (more : List UInt8) : Broken (tail ++ more) :=
  fun _ => List.append_assoc .. ▸ h _

theorem Beginning.not_broken (h : Beginning tail) : ¬Broken tail := by
  intro hb
  have ⟨c, ⟨more, hp⟩, _⟩ := h
  exact hb more c (hp ▸ List.prefix_refl _)

-- Once a byte does not fit, none of the bytes behind it mends that.
theorem broken_of_bad (h : Beginning bytes) (hb : judge (bytes ++ [b]) = .bad) :
    Broken (bytes ++ [b]) := by
  intro more c hc
  have hn : ofChar c ≠ bytes ++ [b] := by
    intro he
    have := (judge_eq_char h).mpr he
    simp_all
  cases List.prefix_or_prefix_of_prefix hc (List.prefix_append ..)
  case inl hp =>
    cases List.prefix_concat_iff.mp hp
    case inl he => exact hn he
    case inr hp => exact h.stuck c hp
  case inr hp =>
    have := (judge_eq_more h).mpr ⟨c, hp, hn.symm⟩
    simp_all

-- Two readings of the same bytes agree: where one cannot go on the other does not reach further.
theorem prefix_of_stuck (ht : Stuck tail) (h : ds.flatMap ofChar <+: cs.flatMap ofChar ++ tail) :
    ds <+: cs := by
  induction ds generalizing cs
  case nil => exact List.nil_prefix
  case cons d ds hi =>
    rw [List.flatMap_cons] at h
    have hd := (List.prefix_append ..).trans h
    cases cs
    case nil => exact absurd hd (ht d)
    case cons c cs =>
      rw [List.flatMap_cons, List.append_assoc] at h hd
      have he : d = c := by
        cases List.prefix_or_prefix_of_prefix hd (List.prefix_append ..)
        case inl hp => exact ofChar_prefix_free hp
        case inr hp => exact (ofChar_prefix_free hp).symm
      subst he
      exact List.cons_prefix_cons.mpr ⟨rfl, hi ((List.prefix_append_right_inj _).mp h)⟩

namespace Reading

variable {r r₁ r₂ r₃ : Reading} {bytes₁ bytes₂ : List UInt8} {cs₁ cs₂ : List Char}

-- From `r₁` to `r₂` the reading takes `bytes` and finds the characters `cs` in them.
structure Reads (r₁ r₂ : Reading) (bytes : List UInt8) (cs : List Char) : Prop where
  chars   : r₂.chars = cs.reverse ++ r₁.chars
  bytes   : r₁.pending ++ bytes = cs.flatMap ofChar ++ r₂.pending
  offset  : r₂.offset = r₁.offset + (cs.flatMap ofChar).length
  pending : Beginning r₂.pending

theorem Reads.refl (h : Beginning r.pending) : Reads r r [] [] where
  chars   := rfl
  bytes   := by simp
  offset  := rfl
  pending := h

theorem Reads.trans (h₁ : Reads r₁ r₂ bytes₁ cs₁) (h₂ : Reads r₂ r₃ bytes₂ cs₂) :
    Reads r₁ r₃ (bytes₁ ++ bytes₂) (cs₁ ++ cs₂) where
  chars   := by simp [h₂.chars, h₁.chars]
  bytes   := by rw [← List.append_assoc, h₁.bytes, List.append_assoc, h₂.bytes]; simp
  offset  := by simp [h₂.offset, h₁.offset, Nat.add_assoc]
  pending := h₂.pending

theorem push_ok (hp : Beginning r₁.pending) (h : r₁.push b = .ok r₂) :
    ∃ cs, Reads r₁ r₂ [b] cs := by
  simp only [push] at h
  split at h <;> simp at h <;> subst h
  case h_1 hj => exact ⟨[], rfl, by simp, rfl, (judge_eq_more hp).mp hj⟩
  case h_2 c hj =>
    have hc := (judge_eq_char hp).mp hj
    exact ⟨[c], by simp, by simp [hc], by simp [hc], .nil⟩

theorem push_error {f : Fault} (hp : Beginning r.pending) (h : r.push b = .error f) :
    f.offset = r.offset ∧ Broken (r.pending ++ [b]) := by
  simp only [push] at h
  split at h <;> simp at h
  case h_3 hj => exact ⟨h ▸ rfl, broken_of_bad hp hj⟩

theorem pushAll_cons (r : Reading) (b : UInt8) (bytes : List UInt8) :
    r.pushAll (b :: bytes) = (r.push b).bind (·.pushAll bytes) := by
  simp [pushAll, bind]

theorem pushAll_ok (hp : Beginning r₁.pending) (h : r₁.pushAll bytes = .ok r₂) :
    ∃ cs, Reads r₁ r₂ bytes cs := by
  induction bytes generalizing r₁
  case nil =>
    cases h
    exact ⟨[], .refl hp⟩
  case cons b bytes hi =>
    rw [pushAll_cons] at h
    cases hb : r₁.push b <;> rw [hb] at h
    case error => contradiction
    case ok r =>
      have ⟨_, h₁⟩ := push_ok hp hb
      have ⟨_, h₂⟩ := hi h₁.pending h
      exact ⟨_, h₁.trans h₂⟩

-- A fault lies where the bytes stop being characters, whatever bytes follow.
theorem pushAll_error {f : Fault} (hp : Beginning r.pending) (h : r.pushAll bytes = .error f) :
    ∃ (cs : List Char) (tail : List UInt8), r.pending ++ bytes = cs.flatMap ofChar ++ tail ∧
      Broken tail ∧ f.offset = r.offset + (cs.flatMap ofChar).length := by
  induction bytes generalizing r
  case nil => contradiction
  case cons b bytes hi =>
    rw [pushAll_cons] at h
    cases hb : r.push b <;> rw [hb] at h
    case error =>
      cases h
      have ⟨ho, hs⟩ := push_error hp hb
      exact ⟨[], r.pending ++ [b] ++ bytes, by simp, hs.append bytes, by simp [ho]⟩
    case ok r₁ =>
      have ⟨cs₁, h₁⟩ := push_ok hp hb
      have ⟨cs₂, tail, he, hs, ho⟩ := hi h₁.pending h
      refine ⟨cs₁ ++ cs₂, tail, ?_, hs, by simp [ho, h₁.offset, Nat.add_assoc]⟩
      have := h₁.bytes
      simp_all [List.append_cons r.pending b bytes]

-- Only the end of the text leaves the length of a fault open.
theorem isSome_length_of_pushAll {f : Fault} (h : r.pushAll bytes = .error f) :
    f.length.isSome := by
  induction bytes generalizing r
  case nil => contradiction
  case cons b bytes hi =>
    rw [pushAll_cons] at h
    cases hb : r.push b <;> rw [hb] at h
    case ok r₁ => exact hi h
    case error =>
      cases h
      simp only [push] at hb
      split at hb <;> cases hb
      rfl

end Reading

-- A text is read in one way only, and not beyond where it is stuck.
theorem eq_of_stuck (ht : Stuck tail) (h : cs.flatMap ofChar ++ tail = ds.flatMap ofChar) :
    cs = ds ∧ tail = [] := by
  obtain ⟨more, rfl⟩ : ds <+: cs := prefix_of_stuck ht (by rw [h])
  have ⟨hm, ht⟩ : more.flatMap ofChar = [] ∧ tail = [] := by simpa using h
  cases more
  case nil => exact ⟨List.append_nil _, ht⟩
  case cons c more =>
    rw [List.flatMap_cons] at hm
    exact absurd (List.append_eq_nil_iff.mp hm).1 (ofChar_ne_nil c)

theorem decode_flatMap_ofChar (cs : List Char) : decode (cs.flatMap ofChar) = .ok cs := by
  rw [decode]
  cases hr : Reading.start.pushAll (cs.flatMap ofChar)
  case ok r =>
    have ⟨ds, hr⟩ := Reading.pushAll_ok .nil hr
    have ⟨hc, hp⟩ := eq_of_stuck hr.pending.stuck hr.bytes.symm
    have hc : r.chars.reverse = cs := by simp [hr.chars, hc, Reading.start]
    simp [bind, Except.bind, Reading.finish, hp, hc]
  case error f =>
    have ⟨ds, tail, hb, hs, _⟩ := Reading.pushAll_error .nil hr
    exact absurd (eq_of_stuck hs.stuck hb.symm).2 hs.ne_nil

-- The whole characters are those of a reading that may go on.
theorem wholeLength_eq (bytes : List UInt8) :
    wholeLength bytes = (Reading.start.pushAll bytes).map (·.offset) := by
  rw [wholeLength, decode]
  cases hr : Reading.start.pushAll bytes
  case error f => simp [bind, Except.bind, Except.map, Reading.isSome_length_of_pushAll hr]
  case ok r =>
    have ⟨cs, hs⟩ := Reading.pushAll_ok .nil hr
    by_cases hp : r.pending = []
    case neg => simp [bind, Except.bind, Except.map, Reading.finish, hp]
    case pos =>
      have hl : bytes.length = r.offset := by
        have hb := hs.bytes
        have ho := hs.offset
        simp_all [Reading.start]
      simp [bind, Except.bind, Except.map, Reading.finish, hp, hl]

theorem wholeLength_ok {n : Nat} (h : wholeLength bytes = .ok n) :
    ∃ (cs : List Char) (tail : List UInt8), bytes = cs.flatMap ofChar ++ tail ∧
      n = (cs.flatMap ofChar).length ∧ Beginning tail := by
  rw [wholeLength_eq] at h
  cases hr : Reading.start.pushAll bytes <;> rw [hr] at h <;> cases h
  case ok r =>
    have ⟨cs, hs⟩ := Reading.pushAll_ok .nil hr
    exact ⟨cs, r.pending, hs.bytes, hs.offset.trans (Nat.zero_add _), hs.pending⟩

theorem wholeLength_error {f : Fault} (h : wholeLength bytes = .error f) :
    ∃ (cs : List Char) (tail : List UInt8), bytes = cs.flatMap ofChar ++ tail ∧
      f.offset = (cs.flatMap ofChar).length ∧ Broken tail := by
  rw [wholeLength_eq] at h
  cases hr : Reading.start.pushAll bytes <;> rw [hr] at h <;> cases h
  case error =>
    have ⟨cs, tail, hb, hs, ho⟩ := Reading.pushAll_error .nil hr
    exact ⟨cs, tail, hb, ho.trans (Nat.zero_add _), hs⟩

theorem decode_take_wholeLength {n : Nat} (h : wholeLength bytes = .ok n) :
    ∃ cs, decode (bytes.take n) = .ok cs ∧ bytes = cs.flatMap ofChar ++ bytes.drop n ∧
      n = (cs.flatMap ofChar).length ∧ Beginning (bytes.drop n) := by
  have ⟨cs, tail, hb, hn, ht⟩ := wholeLength_ok h
  have hd : bytes.drop n = tail := by rw [hb, hn, List.drop_left]
  refine ⟨cs, ?_, hd ▸ hb, hn, hd ▸ ht⟩
  rw [hb, hn, List.take_left]
  exact decode_flatMap_ofChar cs

end Utf8
end ResourceEmbedding
