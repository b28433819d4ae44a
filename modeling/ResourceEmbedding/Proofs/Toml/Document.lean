import ResourceEmbedding.Proofs.Staged
import ResourceEmbedding.Proofs.Toml.Table
import ResourceEmbedding.Toml.Document

namespace ResourceEmbedding.Toml

namespace Scan

variable {α β : Type} {step step₁ step₂ : Scan α} {f : α → Scan β} {a : α}
variable {p : α → Prop} {q : β → Prop}

-- Whatever a scanner makes of a text satisfies `p`.
def Makes (step : Scan α) (p : α → Prop) : Prop :=
  ∀ cs a rest, step.run cs = some (a, rest) → p a

theorem makes_pure (h : p a) : Makes (pure a) p := by
  rintro cs _ rest ⟨⟩
  exact h

theorem makes_failure : Makes failure p :=
  nofun

theorem Makes.bind (hs : Makes step p) (h : ∀ a, p a → Makes (f a) q) : Makes (step >>= f) q := by
  intro cs b rest hr
  obtain ⟨⟨a, more⟩, ha, hr⟩ := Option.bind_eq_some_iff.mp hr
  exact h a (hs cs a more ha) more b rest hr

theorem makes_bind (h : ∀ a, Makes (f a) q) : Makes (step >>= f) q := by
  intro cs b rest hr
  obtain ⟨⟨a, more⟩, _, hr⟩ := Option.bind_eq_some_iff.mp hr
  exact h a more b rest hr

theorem Makes.orElse (h₁ : Makes step₁ p) (h₂ : Makes step₂ p) : Makes (step₁ <|> step₂) p := by
  intro cs a rest hr
  have hr : (step₁.run cs).or (step₂.run cs) = some (a, rest) := by
    rwa [Option.or_eq_orElse]
  cases Option.or_eq_some_iff.mp hr
  case inl hr => exact h₁ cs a rest hr
  case inr hr => exact h₂ cs a rest hr.2

theorem Makes.optional? (h : Makes step p) : Makes (optional? step) fun a? => ∀ a ∈ a?, p a :=
  .orElse (h.bind fun _ ha => makes_pure (by simpa using ha)) (makes_pure nofun)

theorem Makes.repeatUpTo (h : Makes step p) (bound : Nat) :
    Makes (repeatUpTo step bound) fun as => ∀ a ∈ as, p a := by
  induction bound
  case zero => exact makes_pure nofun
  case succ bound hi =>
    refine h.optional?.bind fun a? ha => ?_
    cases a?
    case none   => exact makes_pure nofun
    case some a =>
      exact hi.bind fun as hs => makes_pure (List.forall_mem_cons.mpr ⟨ha a rfl, hs⟩)

theorem Makes.many (h : Makes step p) : Makes (many step) fun as => ∀ a ∈ as, p a :=
  makes_bind fun _ => h.repeatUpTo _

theorem Makes.separated {separator : Char} (h : Makes step p) :
    Makes (separated separator step) fun as => ∀ a ∈ as, p a := by
  refine h.optional?.bind fun a? ha => ?_
  cases a?
  case none   => exact makes_pure nofun
  case some a =>
    have hs := (makes_bind fun _ => h : Makes (do exactly [separator]; step) p).many
    exact hs.bind fun as hs => makes_pure (List.forall_mem_cons.mpr ⟨ha a rfl, hs⟩)

theorem keyed_inRange {n : Int} : Makes (inRange n) Keyed := by
  rw [inRange]
  split
  · exact makes_pure .integer
  · exact makes_failure

theorem keyed_basedInteger {letter : Char} {base : Nat} :
    Makes (basedInteger letter base) Keyed :=
  makes_bind fun _ => makes_bind fun _ => keyed_inRange

theorem keyed_integer : Makes integer Keyed :=
  .orElse keyed_basedInteger <| .orElse keyed_basedInteger <|
    .orElse keyed_basedInteger <| makes_bind fun _ => makes_bind fun _ => keyed_inRange

theorem keyed_decimal : Makes decimal Keyed := by
  refine makes_bind fun _ => makes_bind fun _ => makes_bind fun _ => makes_bind fun _ => ?_
  dsimp only
  split
  case isTrue  => exact nofun
  case isFalse =>
    split
    · exact makes_failure
    · exact makes_pure .float

theorem keyed_specialNumber : Makes specialNumber Keyed :=
  makes_bind fun _ => .orElse (makes_bind fun _ => makes_pure .float)
    (makes_bind fun _ => makes_pure .float)

theorem keyed_datetime : Makes datetime Keyed := by
  refine .orElse (makes_bind fun _ => makes_bind fun time => ?_)
    (makes_bind fun _ => makes_pure .datetime)
  cases time <;> exact makes_pure .datetime

theorem keyed_boolean : Makes boolean Keyed :=
  .orElse (makes_bind fun _ => makes_pure .boolean) (makes_bind fun _ => makes_pure .boolean)

theorem keyed_scalar : Makes scalar Keyed :=
  .orElse (makes_bind fun _ => makes_pure .string) <| .orElse keyed_boolean <|
    .orElse keyed_datetime <| .orElse keyed_decimal <| .orElse keyed_specialNumber keyed_integer

theorem Makes.arrayOf {item : Scan Toml} (h : Makes item Keyed) : Makes (arrayOf item) Keyed := by
  refine makes_bind fun _ => Makes.bind (.separated (p := Keyed) ?items) fun items hi => ?_
  case items => exact makes_bind fun _ => h.bind fun _ hx => makes_bind fun _ => makes_pure hx
  have hc : Makes (do trivia; exactly [']']; return .array items) Keyed :=
    makes_bind fun _ => makes_bind fun _ => makes_pure (.array hi)
  dsimp only
  split
  case isTrue  => exact makes_bind fun _ => hc
  case isFalse => exact hc

theorem Makes.assignment {value : Scan Toml} {p : Toml → Prop} (h : Makes value p) :
    Makes (assignment value) fun pair => p pair.2 :=
  makes_bind fun _ => makes_bind fun _ => makes_bind fun _ => h.bind fun _ hx => makes_pure hx

theorem Makes.inlineTableOf {value : Scan Toml} (h : Makes value Keyed) :
    Makes (inlineTableOf value) Keyed := by
  refine makes_bind fun _ => Makes.bind (.separated (p := (·.2.Keyed)) ?pairs) fun pairs hp => ?_
  case pairs => exact h.assignment.bind fun _ hx => makes_bind fun _ => makes_pure hx
  refine makes_bind fun _ => makes_bind fun _ => ?_
  split
  case h_1 entries he =>
    have ha : ∀ pair ∈ pairs, ∀ draft draft₂ : TableDraft, draft.Keyed →
        draft.assign [] pair.1 pair.2 = some draft₂ → draft₂.Keyed :=
      fun pair hm _ _ h ha => h.assign (hp pair hm) ha
    exact makes_pure (foldlM_keeps ha TableDraft.keyed_nil he).finish
  case h_2 => exact makes_failure

theorem keyed_value (depth : Nat) : Makes (value depth) Keyed := by
  induction depth
  case zero          => exact keyed_scalar
  case succ depth hi => exact .orElse keyed_scalar <| .orElse hi.arrayOf hi.inlineTableOf

end Scan

def Line.Keyed : Line → Prop
  | assignment _ value => value.Keyed
  | blank | header _ | arrayHeader _ => True

namespace Scan

theorem keyed_header : Makes header Line.Keyed :=
  makes_bind fun _ => makes_bind fun _ => makes_bind fun _ => makes_pure trivial

theorem keyed_arrayHeader : Makes arrayHeader Line.Keyed :=
  makes_bind fun _ => makes_bind fun _ => makes_bind fun _ => makes_pure trivial

theorem keyed_line : Makes line Line.Keyed := by
  refine makes_bind fun _ => makes_bind fun _ => ?_
  dsimp only
  split
  case isTrue  => exact nofun
  case isFalse =>
    refine Makes.bind (p := Line.Keyed) ?content fun _ h => makes_bind fun _ => makes_pure h
    have ha := (keyed_value (nestingLimit - 1)).assignment
    exact .orElse keyed_arrayHeader <| .orElse keyed_header <|
      .orElse (ha.bind fun _ h => makes_pure h) (makes_pure trivial)

theorem keyed_document : Makes document fun lines => ∀ line ∈ lines, line.Keyed :=
  keyed_line.many.bind fun _ h => makes_bind fun _ => makes_bind fun _ => makes_pure h

end Scan

theorem keyed_push {p p₂ : Progress} {line : Line} (hl : line.Keyed) (h : p.tables.Keyed)
    (hp : p.push line = some p₂) : p₂.tables.Keyed := by
  cases line
  case blank =>
    cases hp
    exact h
  case assignment key value =>
    obtain ⟨tables, ha, ⟨⟩⟩ := Option.bind_eq_some_iff.mp hp
    exact h.assign hl ha
  case header path =>
    obtain ⟨tables, ho, ⟨⟩⟩ := Option.bind_eq_some_iff.mp hp
    exact h.openTable ho
  case arrayHeader path =>
    obtain ⟨tables, ho, ⟨⟩⟩ := Option.bind_eq_some_iff.mp hp
    exact h.openArrayItem ho

theorem keyed_of_read? {text : String} {document : List (String × Toml)}
    (h : read? text = some document) : (Toml.table document).Keyed := by
  have ⟨⟨lines, rest⟩, hd, h⟩ := Option.bind_eq_some_iff.mp h
  obtain ⟨p, hp, ⟨⟩⟩ := Option.bind_eq_some_iff.mp h
  have hl := Scan.keyed_document _ lines rest hd
  have hs : ∀ line ∈ lines, ∀ p p₂ : Progress, p.tables.Keyed → p.push line = some p₂ →
      p₂.tables.Keyed :=
    fun line hm _ _ => keyed_push (hl line hm)
  exact (foldlM_keeps hs TableDraft.keyed_nil hp).finish

end ResourceEmbedding.Toml
