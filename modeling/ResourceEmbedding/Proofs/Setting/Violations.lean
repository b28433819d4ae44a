import ResourceEmbedding.Proofs.Occurrences
import ResourceEmbedding.Proofs.Setting.Schema

namespace ResourceEmbedding

namespace Schema

variable {schema : Schema} {seen : Seen} {settings others before : List Setting} {s : Setting}
variable {v : Violation} {key value : String} {n : Nat}

def uses (settings : List Setting) (key : String) : Nat :=
  (settings.map (·.key)).count key

-- What is wrong with a setting behind those in `before`.
inductive Shows (schema : Schema) (before : List Setting) (s : Setting) : Violation → Prop
  | unknown : schema.find? s.key = none → uses before s.key = 0 →
    Shows schema before s (.unknown s.key)
  | duplicate {d : Declaration} : schema.find? s.key = some d → uses before s.key = 1 →
    Shows schema before s (.duplicate s.key)
  | invalid {d : Declaration} : schema.find? s.key = some d → ¬d.check.accepts s.value →
    Shows schema before s (.invalid s.key s.value)

-- Of violations with the positions of the settings that show them, the one that is told first.
def Precedes (p q : Nat × Violation) : Prop :=
  p.1 < q.1 ∨ p.1 = q.1 ∧ ∃ key value, p.2 = .duplicate key ∧ q.2 = .invalid key value

-- The violations are those that some setting shows, each once, in their order.
def Tells (schema : Schema) (settings : List Setting) (violations : List Violation) : Prop :=
  ∃ placed : List (Nat × Violation), violations = placed.map (·.2) ∧ placed.Pairwise Precedes ∧
    ∀ n v, (n, v) ∈ placed ↔
      ∃ before s behind, settings = before ++ s :: behind ∧ before.length = n ∧
        schema.Shows before s v

def occasions (schema : Schema) (settings : List Setting) : Violation → Nat
  | .unknown key => if schema.find? key = none ∧ 1 ≤ uses settings key then 1 else 0
  | .duplicate key => if (schema.find? key).isSome ∧ 2 ≤ uses settings key then 1 else 0
  | .invalid key value =>
    if (schema.find? key).any (!·.check.accepts value) then settings.count ⟨key, value⟩ else 0

-- What is wrong with a setting behind others, in the order in which it is told.
def shown (schema : Schema) (o : List Setting × Setting) : List Violation :=
  match schema.find? o.2.key with
  | none => if uses o.1 o.2.key = 0 then [.unknown o.2.key] else []
  | some d => (if uses o.1 o.2.key = 1 then [.duplicate o.2.key] else []) ++
    (if d.check.accepts o.2.value then [] else [.invalid o.2.key o.2.value])

theorem shows_unknown_iff :
    schema.Shows before s (.unknown key) ↔
      schema.find? key = none ∧ s.key = key ∧ uses before key = 0 := by
  constructor
  case mp =>
    intro h
    cases h
    case unknown hf hu => exact ⟨hf, rfl, hu⟩
  case mpr =>
    rintro ⟨hf, rfl, hu⟩
    exact .unknown hf hu

theorem shows_duplicate_iff :
    schema.Shows before s (.duplicate key) ↔
      (schema.find? key).isSome ∧ s.key = key ∧ uses before key = 1 := by
  rw [Option.isSome_iff_exists]
  constructor
  case mp =>
    intro h
    cases h
    case duplicate hf hu => exact ⟨⟨_, hf⟩, rfl, hu⟩
  case mpr =>
    rintro ⟨⟨d, hf⟩, rfl, hu⟩
    exact .duplicate hf hu

theorem shows_invalid_iff :
    schema.Shows before s (.invalid key value) ↔
      (schema.find? key).any (!·.check.accepts value) ∧ s = ⟨key, value⟩ := by
  simp only [Option.any_eq_true, Bool.not_eq_true']
  constructor
  case mp =>
    intro h
    cases h
    case invalid hf ha => exact ⟨⟨_, hf, by simpa using ha⟩, rfl⟩
  case mpr =>
    rintro ⟨⟨d, hf, ha⟩, rfl⟩
    exact .invalid hf (by simpa using ha)

theorem mem_shown_iff {o : List Setting × Setting} :
    v ∈ schema.shown o ↔ schema.Shows o.1 o.2 v := by
  obtain ⟨before, s⟩ := o
  cases hf : schema.find? s.key
  case none =>
    simp only [shown, hf]
    constructor
    case mp =>
      intro hv
      split at hv
      case isTrue hu => exact List.mem_singleton.mp hv ▸ .unknown hf hu
      case isFalse   => cases hv
    case mpr =>
      intro hs
      cases hs
      case unknown hu     => simp [hu]
      case duplicate hd _ => simp [hf] at hd
      case invalid hd _   => simp [hf] at hd
  case some d =>
    simp only [shown, hf, List.mem_append]
    constructor
    case mp =>
      intro hv
      cases hv
      case inl hv =>
        split at hv
        case isTrue hu => exact List.mem_singleton.mp hv ▸ .duplicate hf hu
        case isFalse   => cases hv
      case inr hv =>
        split at hv
        case isTrue     => cases hv
        case isFalse ha => exact List.mem_singleton.mp hv ▸ .invalid hf ha
    case mpr =>
      intro hs
      cases hs
      case unknown hn _   => simp [hf] at hn
      case duplicate hu   => simp [hu]
      case invalid hd ha  =>
        cases hf.symm.trans hd
        simp [ha]

theorem pairwise_shown (o : List Setting × Setting) :
    (schema.shown o).Pairwise fun v w =>
      ∃ key value, v = .duplicate key ∧ w = .invalid key value := by
  rw [shown]
  split
  case h_1 => split <;> simp
  case h_2 => split <;> split <;> simp

theorem nodup_shown (o : List Setting × Setting) : (schema.shown o).Nodup := by
  refine (pairwise_shown o).imp ?_
  rintro v w ⟨key, value, rfl, rfl⟩
  exact Violation.noConfusion

-- What was met in the settings of `before`.
structure Seen.Meets (schema : Schema) (seen : Seen) (before : List Setting) : Prop where
  unknown  : ∀ key, key ∈ seen.unknown ↔ schema.find? key = none ∧ 1 ≤ uses before key
  declared : ∀ key, key ∈ seen.declared ↔ (schema.find? key).isSome ∧ 1 ≤ uses before key
  repeated : ∀ key, key ∈ seen.repeated ↔ (schema.find? key).isSome ∧ 2 ≤ uses before key

theorem Seen.Meets.nil (schema : Schema) : Seen.Meets schema {} [] := by
  constructor <;> simp [uses]

theorem uses_append_singleton (before : List Setting) (s : Setting) (key : String) :
    uses (before ++ [s]) key = uses before key + if s.key = key then 1 else 0 := by
  simp [uses, List.count_singleton]

-- A setting shows what it shows behind the settings that were met, …
theorem judge_shows (h : seen.Meets schema before) (s : Setting) :
    (schema.judge seen s).1 = schema.shown (before, s) := by
  rw [judge, shown]
  cases hf : schema.find? s.key
  case none =>
    have hu := h.unknown s.key
    simp only [hf, true_and] at hu
    by_cases hn : uses before s.key = 0
    case pos => simp [hu, hn]
    case neg => simp [hu, hn, Nat.one_le_iff_ne_zero]
  case some d =>
    have hd := h.declared s.key
    have hr := h.repeated s.key
    simp only [hf, Option.isSome_some, true_and] at hd hr
    simp only [hd, hr]
    split
    case isTrue hn =>
      have hn : uses before s.key ≠ 1 := by omega
      simp [hn]
    case isFalse =>
      split
      case isTrue hn =>
        have hn : uses before s.key = 1 := by omega
        simp [hn]
      case isFalse hn =>
        have hn : uses before s.key ≠ 1 := by omega
        simp [hn]

-- … and is met itself.
theorem Seen.Meets.judge (h : seen.Meets schema before) (s : Setting) :
    (schema.judge seen s).2.Meets schema (before ++ [s]) := by
  have ⟨hu, hd, hr⟩ := h
  rw [Schema.judge]
  cases hf : schema.find? s.key
  case none =>
    simp only
    split <;> constructor <;> intro key <;> rw [uses_append_singleton] <;> grind
  case some d =>
    simp only
    split
    case isTrue => constructor <;> intro key <;> rw [uses_append_singleton] <;> grind
    case isFalse =>
      split <;> constructor <;> intro key <;> rw [uses_append_singleton] <;> grind

theorem violationsFrom_eq (h : seen.Meets schema before) :
    schema.violationsFrom seen settings =
      (occurrencesFrom before settings).flatMap schema.shown := by
  induction settings generalizing seen before
  case nil => rfl
  case cons s settings hi =>
    rw [occurrencesFrom, List.flatMap_cons, ← judge_shows h, ← hi (h.judge s)]
    rfl

-- A key comes behind `n` of its uses at one place, if it is used more often than that.
theorem countP_uses (settings : List Setting) (key : String) (n : Nat) :
    (occurrences settings).countP (fun o => o.2.key = key ∧ uses o.1 key = n) =
      if n < uses settings key then 1 else 0 := by
  have hm : occurrences (settings.map Setting.key) =
      (occurrences settings).map fun o => (o.1.map Setting.key, o.2.key) :=
    occurrencesFrom_map Setting.key [] settings
  rw [uses, ← countP_occurrences, hm, List.countP_map]
  rfl

theorem countP_setting (settings : List Setting) (s : Setting) :
    (occurrences settings).countP (fun o => o.2 = s) = settings.count s := by
  conv_rhs => rw [← map_snd_occurrencesFrom [] settings, List.count_eq_countP, List.countP_map]
  rfl

theorem count_flatMap_shown {occs : List (List Setting × Setting)}
    {p : List Setting × Setting → Bool} (hp : ∀ o, schema.Shows o.1 o.2 v ↔ p o) :
    (occs.flatMap schema.shown).count v = occs.countP p := by
  induction occs
  case nil => rfl
  case cons o occs hi =>
    have ho : (schema.shown o).count v = if p o then 1 else 0 := by
      rw [(nodup_shown o).count]
      exact if_congr (mem_shown_iff.trans (hp o)) rfl rfl
    rw [List.flatMap_cons, List.count_append, hi, ho, List.countP_cons, Nat.add_comm]

theorem count_violationsFrom (settings : List Setting) (v : Violation) :
    (schema.violationsFrom {} settings).count v = schema.occasions settings v := by
  rw [violationsFrom_eq (.nil schema), ← occurrences]
  cases v
  case unknown key =>
    rw [occasions, count_flatMap_shown (p := fun o => schema.find? key = none ∧ o.2.key = key ∧
      uses o.1 key = 0) (by simp [shows_unknown_iff])]
    by_cases hf : schema.find? key = none
    case pos =>
      simp only [hf, true_and]
      exact countP_uses settings key 0
    case neg => simp [hf]
  case duplicate key =>
    rw [occasions, count_flatMap_shown (p := fun o => (schema.find? key).isSome ∧ o.2.key = key ∧
      uses o.1 key = 1) (by simp [shows_duplicate_iff])]
    by_cases hf : (schema.find? key).isSome
    case pos =>
      simp only [hf, true_and]
      exact countP_uses settings key 1
    case neg => simp [hf]
  case invalid key value =>
    rw [occasions, count_flatMap_shown (p := fun o => (schema.find? key).any
      (!·.check.accepts value) ∧ o.2 = ⟨key, value⟩) (by simp [shows_invalid_iff])]
    by_cases hf : (schema.find? key).any (!·.check.accepts value)
    case pos => simpa [hf] using countP_setting settings ⟨key, value⟩
    case neg => simp [hf]

-- The violations that `shown` lists for each setting are in their order.
theorem tells_violationsFrom (settings : List Setting) :
    schema.Tells settings (schema.violationsFrom {} settings) := by
  refine ⟨(occurrences settings).flatMap fun o => (schema.shown o).map (o.1.length, ·),
    ?told, ?order, ?members⟩
  case told =>
    rw [violationsFrom_eq (.nil schema), List.map_flatMap]
    simp [occurrences]
  case order =>
    refine List.pairwise_flatMap.mpr ⟨fun o _ => ?_, ?_⟩
    case refine_1 =>
      refine List.pairwise_map.mpr ((pairwise_shown o).imp fun hv => ?_)
      exact .inr ⟨rfl, hv⟩
    case refine_2 =>
      refine (pairwise_length_occurrencesFrom [] settings).imp fun {o p} hl x hx y hy => ?_
      obtain ⟨_, _, rfl⟩ := List.mem_map.mp hx
      obtain ⟨_, _, rfl⟩ := List.mem_map.mp hy
      exact .inl hl
  case members =>
    intro n v
    simp only [List.mem_flatMap, List.mem_map, Prod.mk.injEq, mem_shown_iff, Prod.exists,
      mem_occurrences]
    constructor
    case mp =>
      rintro ⟨before, s, ⟨behind, hs⟩, _, hv, hn, rfl⟩
      exact ⟨before, s, behind, hs, hn, hv⟩
    case mpr =>
      rintro ⟨before, s, behind, hs, hn, hv⟩
      exact ⟨before, s, ⟨behind, hs⟩, v, hv, hn, rfl⟩

theorem occasions_perm (h : settings.Perm others) (v : Violation) :
    schema.occasions settings v = schema.occasions others v := by
  have hu (key : String) : uses settings key = uses others key := (h.map _).count_eq key
  cases v
  case unknown key       => rw [occasions, occasions, hu]
  case duplicate key     => rw [occasions, occasions, hu]
  case invalid key value => rw [occasions, occasions, h.count_eq]

def told : Except Rejection Unit → List Violation
  | .ok () => []
  | .error r => r.violations

theorem told_validate (hc : schema.checked) (settings : List Setting) :
    told (schema.validate settings) = schema.violationsFrom {} settings := by
  rw [validate, violations, if_pos hc]
  split
  case h_1 h => rw [h, told]
  case h_2   => rfl

theorem validate_eq_ok_iff (hc : schema.checked) :
    schema.validate settings = .ok () ↔
      (∀ s ∈ settings, schema.Admits s) ∧ (settings.map (·.key)).Nodup := by
  rw [← check_eq_ok_iff hc, check, mapError_eq_ok]

-- Settings pass if each has a declared key and an accepted value, and no key comes twice.
-- Otherwise the violations are those that are there, in the order of the settings that show them,
-- each undeclared key and each repeated one once and each value as often as it comes; so the order
-- of the settings does not matter to which violations there are, and how often.
theorem violations_exactly_told (hc : schema.checked) (settings : List Setting) :
    (schema.validate settings = .ok () ↔
      (∀ s ∈ settings, schema.Admits s) ∧ (settings.map (·.key)).Nodup) ∧
    schema.Tells settings (told (schema.validate settings)) ∧
    (∀ v, (told (schema.validate settings)).count v = schema.occasions settings v) ∧
    ∀ others, settings.Perm others →
      (told (schema.validate settings)).Perm (told (schema.validate others)) := by
  simp only [told_validate hc]
  refine ⟨validate_eq_ok_iff hc, tells_violationsFrom settings, count_violationsFrom settings, ?_⟩
  intro others hp
  refine List.perm_iff_count.mpr fun v => ?_
  rw [count_violationsFrom, count_violationsFrom, occasions_perm hp]

-- Undeclared, repeated and rejected settings among each other, a key of each kind more than once.
theorem violations_exactly_told_mixed :
    let schema : Schema := ⟨"embed", [⟨"binary", "raw bytes", .boolean⟩,
      ⟨"even", "an even number of characters", .satisfying fun s => s.length % 2 == 0⟩], true⟩
    let settings : List Setting := [⟨"colour", "red"⟩, ⟨"binary", "maybe"⟩, ⟨"colour", "blue"⟩,
      ⟨"even", "xy"⟩, ⟨"binary", "maybe"⟩, ⟨"even", "x"⟩, ⟨"binary", "true"⟩, ⟨"colour", "red"⟩]
    schema.checked ∧
    told (schema.validate settings) = [.unknown "colour", .invalid "binary" "maybe",
      .duplicate "binary", .invalid "binary" "maybe", .duplicate "even", .invalid "even" "x"] ∧
    schema.Tells settings (told (schema.validate settings)) ∧
    (told (schema.validate settings)).count (.invalid "binary" "maybe") = 2 ∧
    (told (schema.validate settings)).Perm (told (schema.validate settings.reverse)) := by
  intro schema settings
  have ⟨_, ht, hc, hp⟩ := violations_exactly_told (show schema.checked from rfl) settings
  exact ⟨rfl, by decide +kernel, ht, hc _ ▸ by decide +kernel, hp _ settings.reverse_perm.symm⟩

end Schema

end ResourceEmbedding
