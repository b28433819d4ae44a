import Mathlib.Order.Bounds.Basic
import ResourceEmbedding.Proofs.Symbol.Identifier

namespace ResourceEmbedding

namespace IdentifierRules

variable {rules : IdentifierRules} {raw word : List Char} {c : Char} {i : Nat}

def allows (rules : IdentifierRules) (i : Nat) (c : Char) : Bool :=
  if i = 0 then rules.isStart c else rules.isContinue c

-- `word` is `raw` with each illegal character replaced, and `k` fillers behind it.
structure Sanitized (rules : IdentifierRules) (raw word : List Char) (k : Nat) : Prop where
  length   : word.length = max 1 raw.length + k
  replaced : ∀ i c, raw[i]? = some c → word[i]? = some (if rules.allows i c then c else '_')
  empty    : raw = [] → word[0]? = some '_'
  fillers  : ∀ i, max 1 raw.length ≤ i → i < word.length → word[i]? = some '_'
  least    : IsLeast
    {n | String.ofList (word.take (max 1 raw.length) ++ List.replicate n '_') ∉ rules.reserved} k

theorem length_legalize (rules : IdentifierRules) (raw : List Char) :
    (rules.legalize raw).length = max 1 raw.length := by
  cases raw
  case nil  => rfl
  case cons => simp [legalize]

theorem getElem?_legalize (h : raw[i]? = some c) :
    (rules.legalize raw)[i]? = some (if rules.allows i c then c else filler) := by
  cases raw
  case nil => cases h
  case cons d rest =>
    cases i
    case zero =>
      cases h
      rfl
    case succ i =>
      rw [List.getElem?_cons_succ] at h
      simp [legalize, allows, h]

-- Each character of a legalized text is legal or a filler, and what is illegal becomes a filler.
theorem legalize_legalize (rules : IdentifierRules) (raw : List Char) :
    rules.legalize (rules.legalize raw) = rules.legalize raw := by
  cases raw
  case nil => simp [legalize]
  case cons c rest =>
    simp only [legalize, List.map_map, List.cons.injEq]
    refine ⟨by split <;> simp_all, List.map_congr_left fun d _ => ?_⟩
    simp only [Function.comp_apply]
    split <;> simp_all

-- Fillers change nothing in front of them, and stay as they are.
theorem legalize_append_replicate (hn : word ≠ []) (n : Nat) :
    rules.legalize (word ++ List.replicate n filler) =
      rules.legalize word ++ List.replicate n filler := by
  obtain ⟨c, rest, rfl⟩ := List.exists_cons_of_ne_nil hn
  simp [legalize]

theorem legalize_ne_nil (rules : IdentifierRules) (raw : List Char) : rules.legalize raw ≠ [] := by
  cases raw <;> simp [legalize]

theorem legalize_sanitizeChars (rules : IdentifierRules) (raw : List Char) :
    rules.legalize (rules.sanitizeChars raw) = rules.sanitizeChars raw := by
  rw [sanitizeChars, unreserve, legalize_append_replicate (legalize_ne_nil rules raw),
    legalize_legalize]

theorem sanitizeChars_sanitizeChars (rules : IdentifierRules) (raw : List Char) :
    rules.sanitizeChars (rules.sanitizeChars raw) = rules.sanitizeChars raw := by
  have hr : ¬rules.isReserved (rules.sanitizeChars raw) := (fills_unreserve rules _).not_isReserved
  rw [sanitizeChars, legalize_sanitizeChars, unreserve_of_not_isReserved hr]

theorem isLeast_fillersNeeded (rules : IdentifierRules) (word : List Char) :
    IsLeast {n | String.ofList (word ++ List.replicate n filler) ∉ rules.reserved}
      (rules.fillersNeeded word) := by
  have ⟨hn, hl⟩ := fillersNeeded_spec rules word
  refine ⟨mt isReserved_iff.mpr hn, fun n hr => ?_⟩
  by_contra hlt
  exact hr (isReserved_iff.mp (hl n (Nat.lt_of_not_le hlt)))

theorem sanitized_sanitizeChars (rules : IdentifierRules) (raw : List Char) :
    rules.Sanitized raw (rules.sanitizeChars raw) (rules.fillersNeeded (rules.legalize raw)) := by
  let front := rules.legalize raw
  let k := rules.fillersNeeded front
  have hw : rules.sanitizeChars raw = front ++ List.replicate k filler := rfl
  have hl : front.length = max 1 raw.length := length_legalize rules raw
  rw [hw]
  constructor
  case length => rw [List.length_append, List.length_replicate, hl]
  case replaced =>
    intro i c h
    have hi : i < front.length := by
      have := (List.getElem?_eq_some_iff.mp h).1
      omega
    rw [List.getElem?_append_left hi]
    exact getElem?_legalize h
  case empty =>
    rintro rfl
    rfl
  case fillers =>
    intro i hi hlt
    rw [List.length_append, List.length_replicate] at hlt
    rw [List.getElem?_append_right (hl ▸ hi), List.getElem?_replicate_of_lt (by omega)]
    rfl
  case least =>
    rw [List.take_left' hl]
    exact isLeast_fillersNeeded rules front

end IdentifierRules

-- Under any rules, sanitizing replaces the characters that are illegal at their places, appends the
-- fewest fillers that make the word no reserved one, and does nothing when it is done again.
theorem sanitize_sanitized_and_idempotent (rules : IdentifierRules) (s : String) :
    (∃ k, rules.Sanitized s.toList (rules.sanitize s).toList k) ∧
    rules.sanitize (rules.sanitize s) = rules.sanitize s := by
  simp only [IdentifierRules.sanitize, String.toList_ofList]
  constructor
  case left  => exact ⟨_, IdentifierRules.sanitized_sanitizeChars rules s.toList⟩
  case right => rw [IdentifierRules.sanitizeChars_sanitizeChars]

-- Rules that reject the filler and reserve a run of it.
example :
    let rules : IdentifierRules := ⟨"letters", Char.isAlpha, Char.isAlpha, ["a", "a_"]⟩
    rules.sanitize "a" = "a__" ∧ rules.sanitize "a_" = "a__" ∧ rules.sanitize "a4_b" = "a__b" := by
  decide +kernel

end ResourceEmbedding
