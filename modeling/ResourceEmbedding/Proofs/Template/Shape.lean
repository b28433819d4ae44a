import Mathlib.Data.List.Induction
import ResourceEmbedding.Template.Analysis

namespace ResourceEmbedding

namespace Shape

variable {p q : Placeholder} {ps : List Placeholder} {kind : ArgumentKind} {n i : Nat}

def Decides (p : Placeholder) (ps : List Placeholder) : Prop :=
  p.kind.isTyped ∧ ∃ before after, ps = before ++ p :: after ∧
    ∀ q ∈ after, q.index = p.index → ¬q.kind.isTyped

theorem Decides.mem (h : Decides p ps) : p ∈ ps := by
  have ⟨_, before, after, he, _⟩ := h
  simp [he]

-- A placeholder that comes last decides the kind of its argument, or leaves it as it is decided.
theorem decides_concat :
    Decides p (ps ++ [q]) ↔
      q.kind.isTyped ∧ p = q ∨ Decides p ps ∧ (q.index = p.index → ¬q.kind.isTyped) := by
  constructor
  case mp =>
    intro ⟨ht, before, after, he, ha⟩
    rcases List.eq_nil_or_concat after with rfl | ⟨after, r, rfl⟩
    · obtain ⟨rfl, hq⟩ := List.append_inj' he rfl
      cases hq
      exact .inl ⟨ht, rfl⟩
    · rw [List.concat_eq_append, ← List.cons_append, ← List.append_assoc] at he
      obtain ⟨rfl, hr⟩ := List.append_inj' he rfl
      cases hr
      simp only [List.concat_eq_append, List.forall_mem_append, List.forall_mem_singleton] at ha
      exact .inr ⟨⟨ht, before, after, rfl, ha.1⟩, ha.2⟩
  case mpr =>
    rintro (⟨ht, rfl⟩ | ⟨⟨ht, before, after, rfl, ha⟩, hq⟩)
    · exact ⟨ht, ps, [], rfl, nofun⟩
    · refine ⟨ht, before, after ++ [q], by simp, ?_⟩
      simpa only [List.forall_mem_append, List.forall_mem_singleton] using ⟨ha, hq⟩

theorem exists_decides (hp : p ∈ ps) (ht : p.kind.isTyped) :
    ∃ q, Decides q ps ∧ q.index = p.index := by
  induction ps using List.reverseRecOn
  case nil => cases hp
  case append_singleton ps r hi =>
    by_cases hr : r.index = p.index ∧ r.kind.isTyped
    case pos => exact ⟨r, decides_concat.mpr (.inl ⟨hr.2, rfl⟩), hr.1⟩
    case neg =>
      have hp : p ∈ ps := by
        rcases List.mem_append.mp hp with hp | hp
        · exact hp
        · cases List.mem_singleton.mp hp
          exact absurd ⟨rfl, ht⟩ hr
      have ⟨q, hd, hq⟩ := hi hp
      exact ⟨q, decides_concat.mpr (.inr ⟨hd, fun he ht => hr ⟨he.trans hq, ht⟩⟩), hq⟩

theorem arity_concat : arity (ps ++ [p]) = max (arity ps) (p.index + 1) := by
  simp [arity]

theorem index_lt_arity (h : p ∈ ps) : p.index < arity ps := by
  induction ps using List.reverseRecOn
  case nil => cases h
  case append_singleton ps q hi =>
    rw [arity_concat]
    rcases List.mem_append.mp h with h | h
    · have := hi h
      omega
    · cases List.mem_singleton.mp h
      omega

theorem length_foldl_note {arguments : List ArgumentKind} :
    (ps.foldl note arguments).length = arguments.length := by
  induction ps generalizing arguments
  case nil => rfl
  case cons p ps hi =>
    rw [List.foldl_cons, hi, note]
    split <;> simp

-- The invariant of the reading of the placeholders: the typed arguments are the decided ones.
theorem getElem?_foldl_note (hk : kind.isTyped) (hn : ∀ p ∈ ps, p.index < n) :
    (ps.foldl note (.replicate n .text))[i]? = some kind ↔
      ∃ p, Decides p ps ∧ p.index = i ∧ p.kind = kind := by
  induction ps using List.reverseRecOn
  case nil =>
    have ht : kind ≠ .text := by simpa [ArgumentKind.isTyped] using hk
    simp [Decides, List.getElem?_replicate, ht.symm]
  case append_singleton ps q hi =>
    rw [List.forall_mem_append, List.forall_mem_singleton] at hn
    have hi := hi hn.1
    have hl : q.index < (ps.foldl note (.replicate n .text)).length := by
      rw [length_foldl_note, List.length_replicate]
      exact hn.2
    rw [List.foldl_append, List.foldl_cons, List.foldl_nil, note]
    simp only [decides_concat]
    by_cases hq : q.kind.isTyped
    case neg => simp [hq, hi]
    case pos =>
      by_cases he : q.index = i
      case pos =>
        subst he
        simp [hq, hl]
        grind
      case neg =>
        simp [hq, he, hi]
        grind

theorem getElem?_ofPlaceholders (hk : kind.isTyped) :
    (ofPlaceholders ps).arguments[i]? = some kind ↔
      ∃ p, Decides p ps ∧ p.index = i ∧ p.kind = kind :=
  getElem?_foldl_note hk fun _ => index_lt_arity

theorem mem_ofPlaceholders (hk : kind.isTyped) :
    kind ∈ (ofPlaceholders ps).arguments ↔ ∃ p, Decides p ps ∧ p.kind = kind := by
  simp only [List.mem_iff_getElem?, getElem?_ofPlaceholders hk]
  grind

theorem needsLocale_ofPlaceholders :
    (ofPlaceholders ps).needsLocale ↔ ∃ p ∈ ps, p.kind.isTyped := by
  rw [needsLocale, List.any_eq_true]
  constructor
  case mp =>
    intro ⟨kind, hm, hk⟩
    have ⟨p, hd, hp⟩ := (mem_ofPlaceholders hk).mp hm
    exact ⟨p, hd.mem, hd.1⟩
  case mpr =>
    intro ⟨p, hp, ht⟩
    have ⟨q, hd, _⟩ := exists_decides hp ht
    exact ⟨q.kind, (mem_ofPlaceholders hd.1).mpr ⟨q, hd, rfl⟩, hd.1⟩

theorem needsTimeZone_ofPlaceholders :
    (ofPlaceholders ps).needsTimeZone ↔ ∃ p, Decides p ps ∧ p.kind = .date := by
  rw [needsTimeZone, List.contains_iff_mem, mem_ofPlaceholders rfl]

-- Where no argument is both a number and a date, no date is overruled.
theorem exists_decides_date (hp : p ∈ ps) (hd : p.kind = .date)
    (hn : ∀ q ∈ ps, q.index = p.index → q.kind ≠ .number) :
    ∃ q, Decides q ps ∧ q.kind = .date := by
  have ⟨q, hq, hi⟩ := exists_decides hp (by rw [hd]; rfl)
  have ht := hq.1
  have hn := hn q hq.mem hi
  refine ⟨q, hq, ?_⟩
  cases hk : q.kind
  case text   => simp [hk, ArgumentKind.isTyped] at ht
  case number => exact absurd hk hn
  case date   => rfl

end Shape

open Shape

variable {template : String} {shape : Shape}

theorem eq_ofPlaceholders_of_analyze (h : analyze template = .ok shape) :
    shape = .ofPlaceholders shape.placeholders := by
  rw [analyze] at h
  split at h
  · cases h
    rfl
  · cases h

-- The rendering of a template depends on the locale if one of its placeholders is typed. It depends
-- on the time zone if a date decides the kind of an argument: that is, if a placeholder is a date,
-- unless dates are overruled by numbers for the same argument.
theorem needs_of_placeholders (h : analyze template = .ok shape) :
    (shape.needsLocale ↔ ∃ p ∈ shape.placeholders, p.kind.isTyped) ∧
    (shape.needsTimeZone ↔ ∃ p, Decides p shape.placeholders ∧ p.kind = .date) ∧
    ((∀ p ∈ shape.placeholders, ∀ q ∈ shape.placeholders,
        q.index = p.index → p.kind = .date → q.kind ≠ .number) →
      (shape.needsTimeZone ↔ ∃ p ∈ shape.placeholders, p.kind = .date)) := by
  have hs := eq_ofPlaceholders_of_analyze h
  have hl : shape.needsLocale ↔ ∃ p ∈ shape.placeholders, p.kind.isTyped := by
    rw [hs]
    exact needsLocale_ofPlaceholders
  have hz : shape.needsTimeZone ↔ ∃ p, Decides p shape.placeholders ∧ p.kind = .date := by
    rw [hs]
    exact needsTimeZone_ofPlaceholders
  refine ⟨hl, hz, fun hn => ?_⟩
  rw [hz]
  constructor
  case mp =>
    intro ⟨p, hd, hk⟩
    exact ⟨p, hd.mem, hk⟩
  case mpr =>
    intro ⟨p, hp, hk⟩
    exact exists_decides_date hp hk fun q hq hi => hn p hp q hq hi hk

-- The time takes the place of the date for the same argument; a text takes that of no number.
theorem needs_of_placeholders_repeated :
    let template := "\x7b1,date\x7d \x7b0,number\x7d \x7b1,time,short\x7d \x7b0\x7d"
    ∃ shape, analyze template = .ok shape ∧ shape.needsLocale ∧
      (∃ p, Decides p shape.placeholders ∧ p.kind = .date) ∧
      (shape.needsTimeZone ↔ ∃ p ∈ shape.placeholders, p.kind = .date) := by
  intro template
  let shape : Shape := ⟨[.number, .date],
    [⟨1, .date, some "date", none⟩, ⟨0, .number, some "number", none⟩,
      ⟨1, .date, some "time", some "short"⟩, ⟨0, .text, none, none⟩]⟩
  have ha : analyze template = .ok shape := by decide +kernel
  have ⟨hl, hz, hn⟩ := needs_of_placeholders ha
  exact ⟨shape, ha, hl.mpr ⟨_, List.mem_cons_self, rfl⟩, hz.mp rfl, hn (by decide)⟩

-- A date that a number overrules is still rendered, but not taken into account.
theorem overruled_date_is_missed :
    let template := "\x7b0,date\x7d \x7b0,number\x7d"
    ∃ shape, analyze template = .ok shape ∧ (∃ p ∈ shape.placeholders, p.kind = .date) ∧
      shape.needsTimeZone = false := by
  intro template
  let shape : Shape :=
    ⟨[.number], [⟨0, .date, some "date", none⟩, ⟨0, .number, some "number", none⟩]⟩
  have ha : analyze template = .ok shape := by decide +kernel
  exact ⟨shape, ha, ⟨_, List.mem_cons_self, rfl⟩, rfl⟩

end ResourceEmbedding
