import Mathlib.Logic.Relation
import Mathlib.Order.MinMax
import ResourceEmbedding.Proofs.Template.Analysis
import ResourceEmbedding.Proofs.Template.Shape

namespace ResourceEmbedding

namespace Shape

variable {p q : Placeholder} {ps qs : List Placeholder} {i n : Nat}

def typedAt (ps : List Placeholder) (i : Nat) : List Placeholder :=
  ps.filter fun p => p.index == i && p.kind.isTyped

-- The kind of the last typed placeholder of the argument `i`, or text if there is none.
def kindAt (ps : List Placeholder) (i : Nat) : ArgumentKind :=
  ((typedAt ps i).getLast?.map (·.kind)).getD .text

theorem typedAt_concat_of_typed (hq : q.kind.isTyped) :
    typedAt (ps ++ [q]) q.index = typedAt ps q.index ++ [q] := by
  simp [typedAt, List.filter_append, hq]

theorem typedAt_concat_of_not (h : q.index = i → ¬q.kind.isTyped) :
    typedAt (ps ++ [q]) i = typedAt ps i := by
  simpa [typedAt, List.filter_append] using h

theorem decides_iff : Decides p ps ↔ (typedAt ps p.index).getLast? = some p := by
  induction ps using List.reverseRecOn
  case nil => simp [Decides, typedAt]
  case append_singleton ps q hi =>
    rw [decides_concat, hi]
    by_cases h : q.index = p.index ∧ q.kind.isTyped
    case pos =>
      rw [← h.1, typedAt_concat_of_typed h.2, List.getLast?_concat]
      grind
    case neg =>
      have h (he : q.index = p.index) : ¬q.kind.isTyped := fun ht => h ⟨he, ht⟩
      rw [typedAt_concat_of_not h]
      grind

theorem decides_of_getLast? (h : (typedAt ps i).getLast? = some p) : Decides p ps ∧ p.index = i := by
  have hm := List.mem_of_getLast? h
  have hi : p.index = i := by
    simp only [typedAt, List.mem_filter, Bool.and_eq_true, beq_iff_eq] at hm
    exact hm.2.1
  exact ⟨decides_iff.mpr (hi ▸ h), hi⟩

theorem length_ofPlaceholders : (ofPlaceholders ps).arguments.length = arity ps := by
  rw [ofPlaceholders, length_foldl_note, List.length_replicate]

theorem getElem?_arguments (hi : i < arity ps) :
    (ofPlaceholders ps).arguments[i]? = some (kindAt ps i) := by
  rw [← length_ofPlaceholders] at hi
  generalize hk : (ofPlaceholders ps).arguments[i] = kind
  have hk : (ofPlaceholders ps).arguments[i]? = some kind := hk ▸ List.getElem?_eq_getElem hi
  rw [hk, kindAt]
  cases hl : (typedAt ps i).getLast?
  case some p =>
    obtain ⟨hd, hp⟩ := decides_of_getLast? hl
    exact hk.symm.trans ((getElem?_ofPlaceholders hd.1).mpr ⟨p, hd, hp, rfl⟩)
  case none =>
    by_contra ht
    have ht : kind.isTyped := by simpa [ArgumentKind.isTyped] using ht
    obtain ⟨p, hd, hp, _⟩ := (getElem?_ofPlaceholders ht).mp hk
    rw [← hp, decides_iff.mp hd] at hl
    cases hl

-- As many arguments are there as the largest index demands.
theorem lt_arity_iff : n < arity ps ↔ ∃ p ∈ ps, n ≤ p.index := by
  induction ps using List.reverseRecOn
  case nil => simp [arity]
  case append_singleton ps q hi =>
    rw [arity_concat, lt_max_iff, hi]
    simp only [List.mem_append, List.mem_singleton, or_and_right, exists_or, exists_eq_left,
      Nat.lt_succ_iff]

theorem arity_cases (ps : List Placeholder) :
    ps = [] ∧ arity ps = 0 ∨ ∃ p ∈ ps, arity ps = p.index + 1 ∧ ∀ q ∈ ps, q.index ≤ p.index := by
  cases hn : arity ps
  case zero =>
    refine .inl ⟨List.eq_nil_iff_forall_not_mem.mpr fun p hp => ?_, rfl⟩
    exact absurd (hn ▸ index_lt_arity hp) (Nat.not_lt_zero _)
  case succ n =>
    have ⟨p, hp, hl⟩ := lt_arity_iff.mp (hn ▸ Nat.lt_succ_self n : n < arity ps)
    have hb {q : Placeholder} (hq : q ∈ ps) : q.index ≤ n := by
      have := index_lt_arity hq
      omega
    have he : p.index = n := Nat.le_antisymm (hb hp) hl
    exact .inr ⟨p, hp, by rw [he], fun q hq => he ▸ hb hq⟩

-- A placeholder that is not typed is left out, or neighbours for different arguments change places.
inductive Rearranges : List Placeholder → List Placeholder → Prop
  | remove (before after : List Placeholder) {p : Placeholder} (hp : ¬p.kind.isTyped) :
    Rearranges (before ++ p :: after) (before ++ after)
  | swap (before after : List Placeholder) {p q : Placeholder} (hn : p.index ≠ q.index) :
    Rearranges (before ++ p :: q :: after) (before ++ q :: p :: after)

theorem Rearranges.subset (h : Rearranges ps qs) : qs ⊆ ps := by
  cases h
  case remove => simp
  case swap   => grind

theorem Rearranges.typedAt_eq (h : Rearranges ps qs) (i : Nat) : typedAt qs i = typedAt ps i := by
  cases h
  case remove hp => simp [typedAt, hp]
  case swap hn =>
    simp only [typedAt, List.filter_append, List.filter_cons]
    grind

theorem arity_le_of_subset (h : qs ⊆ ps) : arity qs ≤ arity ps := by
  by_contra hl
  have ⟨q, hq, hi⟩ := lt_arity_iff.mp (Nat.lt_of_not_le hl)
  exact absurd (index_lt_arity (h hq)) (Nat.not_lt.mpr hi)

theorem kept_of_rearranged (h : Relation.ReflTransGen Rearranges ps qs) :
    qs ⊆ ps ∧ ∀ i, typedAt qs i = typedAt ps i := by
  induction h
  case refl => exact ⟨List.Subset.refl ps, fun _ => rfl⟩
  case tail hr hi =>
    have ⟨hs, ht⟩ := hi
    exact ⟨List.Subset.trans hr.subset hs, fun i => (hr.typedAt_eq i).trans (ht i)⟩

theorem getElem?_rearranged (h : Relation.ReflTransGen Rearranges ps qs) {kind : ArgumentKind}
    (hk : (ofPlaceholders qs).arguments[i]? = some kind) :
    (ofPlaceholders ps).arguments[i]? = some kind := by
  have ⟨hs, ht⟩ := kept_of_rearranged h
  have hi : i < arity qs := length_ofPlaceholders ▸ (List.getElem?_eq_some_iff.mp hk).1
  rw [getElem?_arguments hi, kindAt, ht i] at hk
  rw [getElem?_arguments (hi.trans_le (arity_le_of_subset hs)), kindAt, hk]

end Shape

open Shape Template

variable {template : String} {shape : Shape}

theorem Template.Describes.index_lt {body : List Char} {p : Placeholder} (h : Describes body p) :
    p.index < 10000 := by
  cases h
  case intro hi _ _ => exact hi.small

theorem index_lt_of_analyze (h : analyze template = .ok shape) :
    ∀ p ∈ shape.placeholders, p.index < 10000 := by
  rcases Template.placeholders_cases template.toList with ⟨found, hp, _, groups, _, hd⟩ | ⟨_, hp, _⟩
  · rw [analyze, hp] at h
    cases h
    have hd := hd.flip.imp fun _ _ hd => And.intro hd.index_lt hd
    exact ((List.forall₂_and_left _ _).mp hd).1
  · rw [analyze, hp] at h
    cases h

-- An accepted template has as many arguments as its largest index demands, at most ten thousand.
-- The last typed placeholder of an argument decides its kind; without one it is a text. So nothing
-- but the order of the typed placeholders of an argument matters to its kind.
theorem kinds_of_last_typed (h : analyze template = .ok shape) :
    (shape.placeholders = [] ∧ shape.arguments.length = 0 ∨
      ∃ p ∈ shape.placeholders, shape.arguments.length = p.index + 1 ∧
        ∀ q ∈ shape.placeholders, q.index ≤ p.index) ∧
    shape.arguments.length ≤ 10000 ∧
    (∀ i < shape.arguments.length, shape.arguments[i]? = some (kindAt shape.placeholders i)) ∧
    ∀ template₂ shape₂, analyze template₂ = .ok shape₂ →
      Relation.ReflTransGen Rearranges shape.placeholders shape₂.placeholders →
      ∀ (i : Nat) kind, shape₂.arguments[i]? = some kind → shape.arguments[i]? = some kind := by
  have hs := eq_ofPlaceholders_of_analyze h
  have hl : shape.arguments.length = arity shape.placeholders := by
    rw [hs]
    exact length_ofPlaceholders
  refine ⟨?length, ?bound, ?kinds, ?rearranged⟩
  case length => simpa only [hl] using arity_cases shape.placeholders
  case bound =>
    by_contra hb
    have ⟨p, hp, hi⟩ := lt_arity_iff.mp (hl ▸ Nat.lt_of_not_le hb)
    exact absurd (index_lt_of_analyze h p hp) (Nat.not_lt.mpr hi)
  case kinds =>
    intro i hi
    rw [hs]
    exact getElem?_arguments (hl ▸ hi)
  case rearranged =>
    intro template₂ shape₂ h₂ hr i kind hk
    rw [eq_ofPlaceholders_of_analyze h₂] at hk
    rw [hs]
    exact getElem?_rearranged hr hk

-- A number behind a date for the same argument, an index that is left out, and a text behind both.
theorem kinds_of_last_typed_mixed :
    let template := "\x7b2,date\x7d \x7b0,time\x7d \x7b2,number\x7d \x7b3\x7d \x7b2\x7d"
    let template₂ := "\x7b0,time\x7d \x7b2,date\x7d \x7b2,number\x7d"
    ∃ shape shape₂, analyze template = .ok shape ∧ analyze template₂ = .ok shape₂ ∧
      Relation.ReflTransGen Rearranges shape.placeholders shape₂.placeholders ∧
      shape.arguments = [.date, .text, .number, .text] ∧
      (∃ p ∈ shape.placeholders, shape.arguments.length = p.index + 1 ∧
        ∀ q ∈ shape.placeholders, q.index ≤ p.index) ∧
      shape.arguments[2]? = some (kindAt shape.placeholders 2) ∧
      ∀ (i : Nat) kind, shape₂.arguments[i]? = some kind → shape.arguments[i]? = some kind := by
  intro template template₂
  let date : Placeholder := ⟨2, .date, some "date", none⟩
  let time : Placeholder := ⟨0, .date, some "time", none⟩
  let number : Placeholder := ⟨2, .number, some "number", none⟩
  let text (index : Nat) : Placeholder := ⟨index, .text, none, none⟩
  let shape : Shape :=
    ⟨[.date, .text, .number, .text], [date, time, number, text 3, text 2]⟩
  let shape₂ : Shape := ⟨[.date, .text, .number], [time, date, number]⟩
  have h : analyze template = .ok shape := by decide +kernel
  have h₂ : analyze template₂ = .ok shape₂ := by decide +kernel
  have hr : Relation.ReflTransGen Rearranges shape.placeholders shape₂.placeholders := by
    refine .head (.remove [date, time, number, text 3] [] (by decide)) ?_
    refine .head (.remove [date, time, number] [] (by decide)) ?_
    exact .single (.swap [] [number] (by decide))
  have ⟨hl, _, hk, hm⟩ := kinds_of_last_typed h
  exact ⟨shape, shape₂, h, h₂, hr, rfl, hl.resolve_left (by simp [shape]), hk 2 (by decide),
    hm template₂ shape₂ h₂ hr⟩

end ResourceEmbedding
