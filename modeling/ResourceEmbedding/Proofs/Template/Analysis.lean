import Mathlib.Data.List.Forall2
import ResourceEmbedding.Proofs.Template.Body
import ResourceEmbedding.Proofs.Template.Nesting

namespace ResourceEmbedding

namespace Template

namespace Scan

-- `c` is the brace `brace` outside quotes.
def Meets (s : Scan) (c brace : Char) : Prop :=
  s.quoted = false ∧ c = brace

-- What one character does to the placeholder that is read and to those that are complete.
inductive Effect (s : Scan) (c : Char) : Except Located (Option Opened × List Placeholder) → Prop
  | outside (ho : s.opened = none) (hn₁ : ¬s.Meets c '\x7b') (hn₂ : ¬s.Meets c '\x7d') :
    Effect s c (.ok (none, s.found))
  | inside {o : Opened} (ho : s.opened = some o) (hn₁ : ¬s.Meets c '\x7b')
    (hn₂ : ¬s.Meets c '\x7d') : Effect s c (.ok (some { o with body := c :: o.body }, s.found))
  | opening (ho : s.opened = none) (hm : s.Meets c '\x7b') :
    Effect s c (.ok (some ⟨s.offset, 0, []⟩, s.found))
  | deeper {o : Opened} (ho : s.opened = some o) (hm : s.Meets c '\x7b') :
    Effect s c (.ok (some { o with depth := o.depth + 1, body := c :: o.body }, s.found))
  | higher {o : Opened} {depth : Nat} (ho : s.opened = some o) (hd : o.depth = depth + 1)
    (hm : s.Meets c '\x7d') : Effect s c (.ok (some { o with depth, body := c :: o.body }, s.found))
  | complete {o : Opened} {p : Placeholder} (ho : s.opened = some o) (hd : o.depth = 0)
    (hm : s.Meets c '\x7d') (hr : readBody o.body.reverse = .ok p) :
    Effect s c (.ok (none, p :: s.found))
  | faulty {o : Opened} {fault : TemplateFault} (ho : s.opened = some o) (hd : o.depth = 0)
    (hm : s.Meets c '\x7d') (hr : readBody o.body.reverse = .error fault) :
    Effect s c (.error (o.offset + 1, fault))
  | unmatched (ho : s.opened = none) (hm : s.Meets c '\x7d') :
    Effect s c (.error (s.offset, .unmatchedClose))

theorem exists_effect (s : Scan) (c : Char) :
    ∃ result, Effect s c result ∧ s.push c = result.map fun (opened, found) =>
      ⟨s.offset + c.utf8Size, s.quoted != (c == '\''), opened, found⟩ := by
  by_cases hm₁ : s.Meets c '\x7b'
  case pos =>
    have ⟨hq, hc⟩ := hm₁
    cases ho : s.opened
    case none   => exact ⟨_, .opening ho hm₁, by simp [push, ho, pushOutside, hq, hc]; rfl⟩
    case some o => exact ⟨_, .deeper ho hm₁, by simp [push, ho, pushInside, hq, hc]; rfl⟩
  by_cases hm₂ : s.Meets c '\x7d'
  case pos =>
    have ⟨hq, hc⟩ := hm₂
    cases ho : s.opened
    case none => exact ⟨_, .unmatched ho hm₂, by simp [push, ho, pushOutside, hq, hc]; rfl⟩
    case some o =>
      cases hd : o.depth
      case succ => exact ⟨_, .higher ho hd hm₂, by simp [push, ho, pushInside, hq, hc, hd]; rfl⟩
      case zero =>
        cases hr : readBody o.body.reverse
        case ok =>
          refine ⟨_, .complete ho hd hm₂ hr, ?_⟩
          simp [push, ho, pushInside, hq, hc, hd, hr]
          rfl
        case error =>
          refine ⟨_, .faulty ho hd hm₂ hr, ?_⟩
          simp [push, ho, pushInside, hq, hc, hd, hr]
          rfl
  case neg =>
    cases ho : s.opened
    case none =>
      refine ⟨_, .outside ho hm₁ hm₂, ?_⟩
      have hs : s.pushOutside c = .ok s := by
        cases hq : s.quoted <;> simp_all [pushOutside, Meets]
      simp [push, ho, hs]
      rfl
    case some o =>
      refine ⟨_, .inside ho hm₁ hm₂, ?_⟩
      have hs : s.pushInside o c =
          .ok { s with opened := some { o with body := c :: o.body } } := by
        cases hq : s.quoted <;> simp_all [pushInside, Meets]
      simp [push, ho, hs]
      rfl

end Scan

variable {cs : List Char} {c : Char} {s : Scan} {n : Nat}

-- A scan that knows whether it is in quotes meets the active braces.
theorem meets_iff_activeAt {brace : Char} (hq : s.quoted ↔ QuotedAt cs n) (hc : cs[n]? = some c) :
    s.Meets c brace ↔ ActiveAt cs n brace := by
  rw [Scan.Meets, ActiveAt, hc, Option.some_inj, ← hq, Bool.not_eq_true]
  exact And.comm

theorem quoted_iff_quotedAt_succ (hq : s.quoted ↔ QuotedAt cs n) (hc : cs[n]? = some c) :
    (s.quoted != (c == '\'')) ↔ QuotedAt cs (n + 1) := by
  rw [quotedAt_succ hc, ← hq]
  cases s.quoted <;> simp

-- Where the place `n` is among the groups.
inductive Standing (cs : List Char) (n : Nat) : Option Opened → Prop
  | outside (hd : depth cs n = 0) : Standing cs n none
  | inside {o : Opened} {i : Nat} (hi : i < n) (ho : ActiveAt cs i '\x7b') (hz : depth cs i = 0)
    (hp : ∀ k, i < k → k ≤ n → 0 < depth cs k) (hd : depth cs n = o.depth + 1)
    (hb : o.body.reverse = body cs i n) : Standing cs n (some o)

-- These are the placeholders that all groups before the place `n` describe.
def Found (cs : List Char) (n : Nat) (found : List Placeholder) : Prop :=
  ∃ groups, Groups cs n groups ∧
    List.Forall₂ (fun g p => Describes (body cs g.1 g.2) p) groups found

-- What a scan knows at the place `n`.
structure Reached (cs : List Char) (n : Nat) (s : Scan) : Prop where
  quoted   : s.quoted ↔ QuotedAt cs n
  nonneg   : ∀ i ≤ n, 0 ≤ depth cs i
  standing : Standing cs n s.opened
  found    : Found cs n s.found.reverse

structure WellFormed (cs : List Char) : Prop where
  balanced : Balanced cs
  indexed  : ∀ i j, IsGroup cs i j → HasIndex (body cs i j)

theorem Found.skip {found : List Placeholder} (h : Found cs n found) (hn : ∀ i, ¬IsGroup cs i n) :
    Found cs (n + 1) found := by
  have ⟨groups, hg, hf⟩ := h
  exact ⟨groups, hg.skip hn, hf⟩

theorem Found.push {found : List Placeholder} {p : Placeholder} {i : Nat} (h : Found cs n found)
    (hg : IsGroup cs i n) (hp : Describes (body cs i n) p) : Found cs (n + 1) (found ++ [p]) := by
  have ⟨groups, hg₂, hf⟩ := h
  exact ⟨_, hg₂.push hg, List.rel_append hf (.cons hp .nil)⟩

theorem Standing.pos {o : Opened} (h : Standing cs n (some o)) : 0 < depth cs n := by
  cases h
  case inside hi _ _ hp _ _ => exact hp n hi (Nat.le_refl n)

theorem Standing.eq_zero (h : Standing cs n none) : depth cs n = 0 := by
  cases h
  case outside hd => exact hd

theorem Standing.nonneg {opened : Option Opened} (h : Standing cs n opened) : 0 ≤ depth cs n := by
  cases opened
  case none   => exact Int.le_of_eq h.eq_zero.symm
  case some o => exact Int.le_of_lt h.pos

theorem Standing.opening (hd : depth cs n = 0) (hm : ActiveAt cs n '\x7b') (offset : Nat) :
    Standing cs (n + 1) (some ⟨offset, 0, []⟩) := by
  have hn : depth cs (n + 1) = 1 := by rw [depth_opening hm, hd]; rfl
  refine .inside (Nat.lt_succ_self n) hm hd ?_ hn body_self.symm
  intro k _ _
  have : k = n + 1 := by omega
  simp [this, hn]

theorem Standing.inner {o : Opened} {d : Nat} (h : Standing cs n (some o)) (hc : cs[n]? = some c)
    (hd : depth cs (n + 1) + o.depth = depth cs n + d) :
    Standing cs (n + 1) (some { o with depth := d, body := c :: o.body }) := by
  cases h
  case inside i hi ho hz hp hn hb =>
    have hd : depth cs (n + 1) = d + 1 := by omega
    refine .inside (by omega) ho hz ?_ hd (by rw [List.reverse_cons, hb, body_succ hi hc])
    intro k hk hkn
    cases Nat.lt_or_eq_of_le hkn
    case inl hkn => exact hp k hk (by omega)
    case inr hkn =>
      rw [hkn, hd]
      omega

-- What is found at the end of a template belongs to groups that all have an index.
theorem Found.hasIndex {found : List Placeholder} {i j : Nat} (h : Found cs cs.length found)
    (hg : IsGroup cs i j) : HasIndex (body cs i j) := by
  have ⟨groups, hgs, hf⟩ := h
  have hm := (hgs.mem_iff i j).mpr ⟨hg, hg.lt_length⟩
  have hf := hf.imp fun g p hp => And.intro hp.hasIndex hp
  exact ((List.forall₂_and_left _ _).mp hf).1 (i, j) hm

-- The brace behind the body of a placeholder that has no other brace open ends a group.
theorem Standing.exists_group {o : Opened} (h : Standing cs n (some o)) (hd : o.depth = 0)
    (hc : ActiveAt cs n '\x7d') : ∃ i, IsGroup cs i n ∧ body cs i n = o.body.reverse := by
  cases h
  case inside i hi ho hz hp hn hb =>
    refine ⟨i, ⟨hi, ho, hz, hp, hc, ?_⟩, hb.symm⟩
    rw [depth_closing hc]
    omega

theorem Reached.start : Reached cs 0 .start where
  quoted   := by simp [Scan.start, QuotedAt]
  nonneg   := by simp [depth]
  standing := .outside rfl
  found    := ⟨[], .nil, .nil⟩

theorem Reached.meets_iff {brace : Char} (h : Reached cs n s) (hc : cs[n]? = some c) :
    s.Meets c brace ↔ ActiveAt cs n brace :=
  meets_iff_activeAt h.quoted hc

-- Behind a character that shows no fault it is left to say which placeholder is read, if any, and
-- which are complete.
theorem Reached.next {opened : Option Opened} {found : List Placeholder} (h : Reached cs n s)
    (hc : cs[n]? = some c) (hs : Standing cs (n + 1) opened) (hf : Found cs (n + 1) found.reverse) :
    Reached cs (n + 1) ⟨s.offset + c.utf8Size, s.quoted != (c == '\''), opened, found⟩ where
  standing := hs
  found    := hf
  quoted   := quoted_iff_quotedAt_succ h.quoted hc
  nonneg   := by
    intro i hi
    cases Nat.lt_or_eq_of_le hi
    case inl hi => exact h.nonneg i (by omega)
    case inr hi => exact hi ▸ hs.nonneg

-- One character leads to the next place, unless it shows a fault.
theorem Reached.push (h : Reached cs n s) (hc : cs[n]? = some c) :
    (∃ s₂, s.push c = .ok s₂ ∧ Reached cs (n + 1) s₂) ∨
      ∃ e, s.push c = .error e ∧ ¬WellFormed cs := by
  have hm {brace : Char} : s.Meets c brace → ActiveAt cs n brace := (h.meets_iff hc).mp
  have hn {brace : Char} : ¬s.Meets c brace → ¬ActiveAt cs n brace := mt (h.meets_iff hc).mpr
  have hs := h.standing
  have ⟨result, he, hp⟩ := s.exists_effect c
  rw [hp]
  -- Of the effects, only that of a closing brace on a placeholder without open braces ends a group.
  cases he
  case outside ho hn₁ hn₂ =>
    have hd : depth cs (n + 1) = 0 := (depth_passive (hn hn₁) (hn hn₂)).trans (ho ▸ hs).eq_zero
    have hf := h.found.skip fun i hg => hn hn₂ hg.closes
    exact .inl ⟨_, rfl, h.next hc (.outside hd) hf⟩
  case inside o ho hn₁ hn₂ =>
    have hd : depth cs (n + 1) + o.depth = depth cs n + o.depth := by
      rw [depth_passive (hn hn₁) (hn hn₂)]
    have hf := h.found.skip fun i hg => hn hn₂ hg.closes
    exact .inl ⟨_, rfl, h.next hc ((ho ▸ hs).inner hc hd) hf⟩
  case opening ho hm₁ =>
    have hs := Standing.opening (ho ▸ hs).eq_zero (hm hm₁) s.offset
    exact .inl ⟨_, rfl, h.next hc hs (h.found.skip fun i => not_isGroup (hm hm₁))⟩
  case deeper o ho hm₁ =>
    have hd : depth cs (n + 1) + o.depth = depth cs n + (o.depth + 1 : Nat) := by
      rw [depth_opening (hm hm₁)]
      omega
    have hf := h.found.skip fun i => not_isGroup (hm hm₁)
    exact .inl ⟨_, rfl, h.next hc ((ho ▸ hs).inner hc hd) hf⟩
  case higher o d ho ho₂ hm₂ =>
    have hd : depth cs (n + 1) + o.depth = depth cs n + d := by
      rw [depth_closing (hm hm₂)]
      omega
    have hs := (ho ▸ hs).inner hc hd
    exact .inl ⟨_, rfl, h.next hc hs (h.found.skip fun i hg => hs.pos.ne' hg.after)⟩
  case complete o p ho hd hm₂ hr =>
    have ⟨i, hg, hb⟩ := (ho ▸ hs).exists_group hd (hm hm₂)
    have hp : Describes (body cs i n) p := hb ▸ readBody_eq_ok_iff.mp hr
    have hf : Found cs (n + 1) (p :: s.found).reverse := by
      rw [List.reverse_cons]
      exact h.found.push hg hp
    exact .inl ⟨_, rfl, h.next hc (.outside hg.after) hf⟩
  case faulty o fault ho hd hm₂ hr =>
    have ⟨i, hg, hb⟩ := (ho ▸ hs).exists_group hd (hm hm₂)
    refine .inr ⟨_, rfl, fun hw => ?_⟩
    have ⟨p, hp⟩ := (hw.indexed i n hg).describes
    rw [hb, ← readBody_eq_ok_iff, hr] at hp
    cases hp
  case unmatched ho hm₂ =>
    have hl := (List.getElem?_eq_some_iff.mp hc).1
    have hd : depth cs n = 0 := (ho ▸ hs).eq_zero
    refine .inr ⟨_, rfl, fun hw => ?_⟩
    have := hw.balanced.nonneg (n + 1) hl
    rw [depth_closing (hm hm₂), hd] at this
    omega

theorem Reached.foldlM (h : Reached cs n s) (hn : n ≤ cs.length) :
    (∃ s₂, (cs.drop n).foldlM Scan.push s = .ok s₂ ∧ Reached cs cs.length s₂) ∨
      ∃ e, (cs.drop n).foldlM Scan.push s = .error e ∧ ¬WellFormed cs := by
  generalize hr : cs.drop n = rest
  induction rest generalizing n s
  case nil =>
    have : n = cs.length := Nat.le_antisymm hn (List.drop_eq_nil_iff.mp hr)
    exact .inl ⟨s, rfl, this ▸ h⟩
  case cons c rest hi =>
    have hl : n < cs.length := by
      have := congrArg List.length hr
      simp at this
      omega
    rw [List.drop_eq_getElem_cons hl, List.cons.injEq] at hr
    have hc : cs[n]? = some c := by rw [List.getElem?_eq_getElem hl, hr.1]
    rw [List.foldlM_cons]
    rcases h.push hc with ⟨s₂, hp, h₂⟩ | ⟨e, hp, hw⟩
    · rw [hp]
      exact hi h₂ hl hr.2
    · rw [hp]
      exact .inr ⟨e, rfl, hw⟩

theorem Reached.finish (h : Reached cs cs.length s) :
    (∃ found, s.finish = .ok found ∧ WellFormed cs ∧ Found cs cs.length found) ∨
      ∃ e, s.finish = .error e ∧ ¬WellFormed cs := by
  have hs := h.standing
  cases ho : s.opened
  case none =>
    have hw : WellFormed cs := ⟨⟨h.nonneg, (ho ▸ hs).eq_zero⟩, fun _ _ => h.found.hasIndex⟩
    exact .inl ⟨_, by rw [Scan.finish, ho], hw, h.found⟩
  case some o =>
    refine .inr ⟨_, by rw [Scan.finish, ho], fun hw => ?_⟩
    exact (ho ▸ hs).pos.ne' hw.balanced.closed

theorem placeholders_cases (cs : List Char) :
    (∃ found, placeholders cs = .ok found ∧ WellFormed cs ∧ Found cs cs.length found) ∨
      ∃ e, placeholders cs = .error e ∧ ¬WellFormed cs := by
  have h := @Reached.start cs
  rcases h.foldlM (Nat.zero_le _) with ⟨s, hs, h⟩ | ⟨e, hs, hw⟩
  · rw [List.drop_zero] at hs
    rw [placeholders, hs]
    exact h.finish
  · rw [List.drop_zero] at hs
    rw [placeholders, hs]
    exact .inr ⟨e, rfl, hw⟩

end Template

open Template

-- A template is accepted exactly if its braces are balanced and each group has an index, and then
-- its placeholders are those that its groups describe.
theorem analyze_ok_iff_wellFormed (template : String) :
    ((∃ shape, analyze template = .ok shape) ↔ WellFormed template.toList) ∧
    ∀ shape, analyze template = .ok shape →
      ∃ groups : List (Nat × Nat), groups.Pairwise (·.2 < ·.1) ∧
        (∀ i j, (i, j) ∈ groups ↔ IsGroup template.toList i j) ∧
        List.Forall₂ (fun g p => Describes (body template.toList g.1 g.2) p) groups
          shape.placeholders := by
  rcases placeholders_cases template.toList with ⟨found, hp, hw, hf⟩ | ⟨e, hp, hw⟩
  · have ha : analyze template = .ok (.ofPlaceholders found) := by rw [analyze, hp]
    refine ⟨iff_of_true ⟨_, ha⟩ hw, ?_⟩
    intro shape hs
    rw [ha] at hs
    cases hs
    have ⟨groups, hg, hd⟩ := hf
    refine ⟨groups, hg.ordered, fun i j => ?_, hd⟩
    rw [hg.mem_iff, and_iff_left_of_imp IsGroup.lt_length]
  · have ha : analyze template = .error ⟨template, e.1, e.2⟩ := by rw [analyze, hp]
    have hn (shape : Shape) : analyze template ≠ .ok shape := by
      intro hs
      cases ha.symm.trans hs
    exact ⟨iff_of_false (fun ⟨shape, hs⟩ => hn shape hs) hw, fun shape hs => absurd hs (hn shape)⟩

-- A brace in quotes, and a placeholder in the style of another.
theorem analyze_ok_iff_wellFormed_nested :
    let template := "'\x7b' \x7b0,choice,1<\x7b1\x7d\x7d"
    let p : Placeholder := ⟨0, .number, some "choice", some "1<\x7b1\x7d"⟩
    analyze template = .ok ⟨[.number], [p]⟩ ∧ WellFormed template.toList ∧
      ∃ i j, IsGroup template.toList i j ∧ Describes (body template.toList i j) p := by
  intro template p
  have ha : analyze template = .ok ⟨[.number], [p]⟩ := by decide +kernel
  have ⟨groups, _, hm, hd⟩ := (analyze_ok_iff_wellFormed template).2 _ ha
  refine ⟨ha, (analyze_ok_iff_wellFormed template).1.mp ⟨_, ha⟩, ?_⟩
  have ⟨(i, j), _, hd, _, hg⟩ := List.forall₂_cons_right_iff.mp hd
  exact ⟨i, j, (hm i j).mp (hg ▸ List.mem_cons_self), hd⟩

end ResourceEmbedding
