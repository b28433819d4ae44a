import ResourceEmbedding.Generation.Outcome
import ResourceEmbedding.Proofs.Json.Form

namespace ResourceEmbedding

open Json

variable {fields : List (String × Json)}

instance : IntegralForm ArgumentKind := integralForm_ofNames

instance : IntegralForm OutcomeStatus := integralForm_ofNames

instance : IntegralForm Severity := integralForm_ofNames

theorem ArgumentKind.recovers (kind : ArgumentKind) : Recovers kind :=
  .ofNames (by cases kind <;> decide) (by decide)

theorem OutcomeStatus.recovers (status : OutcomeStatus) : Recovers status :=
  .ofNames (by cases status <;> decide) (by decide)

theorem Severity.recovers (severity : Severity) : Recovers severity :=
  .ofNames (by cases severity <;> decide) (by decide)

namespace MessageParam

instance : IntegralForm MessageParam := ⟨fun _ => .object (by simp)⟩

theorem recovers (p : MessageParam) : Recovers p := by
  have hn : ([("name", toJson p.name), ("kind", toJson p.kind)].map (·.1)).Nodup := by simp
  apply Recovers.of_value
  exact bind_required hn (by simp) (.string p.name) <|
    bind_required hn (by simp) p.kind.recovers rfl

end MessageParam

namespace MessageFunction

variable {f : MessageFunction}

theorem integral_of_mem_fields : ∀ e ∈ f.fields, e.2.Integral := by
  simp [MessageFunction.fields]

-- A function is read from any object that has its fields, and also others.
theorem ofJson?_of_fields (hn : (fields.map (·.1)).Nodup) (hs : f.fields ⊆ fields) :
    ofJson? (Json.object fields) = some f := by
  simp only [MessageFunction.fields, List.cons_subset] at hs
  have ⟨name, bundle, key, params, localeParam, timeZoneParam, templates, _⟩ := hs
  exact bind_required hn name (.string f.name) <|
    bind_required hn bundle (.string f.bundle) <|
    bind_required hn key (.string f.key) <|
    bind_required hn params (.list fun p _ => p.recovers) <|
    bind_required hn localeParam (.bool f.localeParam) <|
    bind_required hn timeZoneParam (.bool f.timeZoneParam) <|
    bind_required hn templates (.keyMap fun s _ => .string s) rfl

end MessageFunction

namespace Definition

instance : IntegralForm Definition where
  integral d := by
    cases d
    case messageFunction f =>
      exact .object (List.forall_mem_cons.mpr ⟨.string _, f.integral_of_mem_fields⟩)
    all_goals exact .object (by simp [Integral.string])

-- Sizes are numbers of 64 bits.
def Representable : Definition → Prop
  | textConstant _ _ _ size | bytesConstant _ _ _ size => size < 0x10000000000000000
  | lazyAccessor .. | pathConstant .. | messageFunction _ => True

theorem Representable.recovers {d : Definition} (h : d.Representable) : Recovers d := by
  apply Recovers.of_value
  cases d
  case textConstant name resource segments size =>
    have hn : ([("kind", Json.string "text_constant"), ("name", toJson name),
      ("resource", toJson resource), ("segments", toJson segments),
      ("encoded_len", toJson size)].map (·.1)).Nodup := by simp
    exact bind_required hn (.head _) (.string "text_constant") <|
      bind_required hn (by simp) (.string name) <|
      bind_required hn (by simp) (.string resource) <|
      bind_required hn (by simp) (.list fun s _ => .string s) <|
      bind_required hn (by simp) (.nat h) rfl
  case bytesConstant name resource segments size =>
    have hn : ([("kind", Json.string "bytes_constant"), ("name", toJson name),
      ("resource", toJson resource), ("segments", toJson segments),
      ("len", toJson size)].map (·.1)).Nodup := by simp
    exact bind_required hn (.head _) (.string "bytes_constant") <|
      bind_required hn (by simp) (.string name) <|
      bind_required hn (by simp) (.string resource) <|
      bind_required hn (by simp) (.list fun s _ => .string s) <|
      bind_required hn (by simp) (.nat h) rfl
  case lazyAccessor name resource binary =>
    have hn : ([("kind", Json.string "lazy_accessor"), ("name", toJson name),
      ("resource", toJson resource), ("binary", toJson binary)].map (·.1)).Nodup := by simp
    exact bind_required hn (.head _) (.string "lazy_accessor") <|
      bind_required hn (by simp) (.string name) <|
      bind_required hn (by simp) (.string resource) <|
      bind_required hn (by simp) (.bool binary) rfl
  case pathConstant name resource =>
    have hn : ([("kind", Json.string "path_constant"), ("name", toJson name),
      ("resource", toJson resource)].map (·.1)).Nodup := by simp
    exact bind_required hn (.head _) (.string "path_constant") <|
      bind_required hn (by simp) (.string name) <|
      bind_required hn (by simp) (.string resource) rfl
  case messageFunction f =>
    -- The function is read from the same object, which also has the field `kind`.
    have hn : ((("kind", Json.string "message_function") :: f.fields).map (·.1)).Nodup := by
      simp [MessageFunction.fields]
    exact bind_required hn (.head _) (.string "message_function") <|
      bind_some_of (MessageFunction.ofJson?_of_fields hn (List.subset_cons_self _ _)) rfl

end Definition

namespace Site

instance : IntegralForm Site := ⟨fun _ => .object (by simp)⟩

theorem recovers (site : Site) : Recovers site := by
  have ⟨element, annotation⟩ := site
  apply Recovers.of_value
  cases annotation
  case none =>
    have hn : ([("element", toJson element)].map (·.1)).Nodup := by simp
    exact bind_required hn (by simp) (.string element) <|
      bind_optional_absent (by simp) rfl
  case some annotation =>
    have hn : ([("element", toJson element),
      ("annotation", toJson annotation)].map (·.1)).Nodup := by simp
    exact bind_required hn (by simp) (.string element) <|
      bind_optional hn (by simp) (.string annotation) nofun rfl

end Site

namespace Diagnostic

instance : IntegralForm Diagnostic := ⟨fun _ => .object (by simp [or_imp, forall_and])⟩

theorem recovers (d : Diagnostic) : Recovers d := by
  have ⟨severity, message, site⟩ := d
  apply Recovers.of_value
  cases site
  case none =>
    have hn : ([("severity", toJson severity), ("message", toJson message)].map (·.1)).Nodup := by
      simp
    exact bind_required hn (by simp) severity.recovers <|
      bind_required hn (by simp) (.string message) <|
      bind_optional_absent (by simp) rfl
  case some site =>
    have hn : ([("severity", toJson severity), ("message", toJson message),
      ("site", toJson site)].map (·.1)).Nodup := by simp
    exact bind_required hn (by simp) severity.recovers <|
      bind_required hn (by simp) (.string message) <|
      bind_optional hn (by simp) site.recovers nofun rfl

end Diagnostic

namespace Outcome

variable {o : Outcome}

instance : IntegralForm Outcome := ⟨fun _ => .object (by simp)⟩

def Representable (o : Outcome) : Prop :=
  ∀ d ∈ o.items, d.Representable

theorem Representable.recovers (h : o.Representable) : Recovers o := by
  have hn : ([("handler", toJson o.handler), ("package", toJson o.package),
    ("site", toJson o.site), ("status", toJson o.status),
    ("items", toJson o.items)].map (·.1)).Nodup := by simp
  apply Recovers.of_value
  exact bind_required hn (by simp) (.string o.handler) <|
    bind_required hn (by simp) (.string o.package) <|
    bind_required hn (by simp) o.site.recovers <|
    bind_required hn (by simp) o.status.recovers <|
    bind_required hn (by simp) (.list fun d hd => (h d hd).recovers) rfl

end Outcome

-- Outcomes and diagnostics are read back from what is written of them, and no two of them are
-- written alike.
theorem outcomes_and_diagnostics_recover :
    (∀ o : Outcome, o.Representable → Recovers o) ∧ (∀ d : Diagnostic, Recovers d) ∧
    (∀ o₁ o₂ : Outcome, o₁.Representable → o₂.Representable → SameForm o₁ o₂ → o₁ = o₂) ∧
    ∀ d₁ d₂ : Diagnostic, SameForm d₁ d₂ → d₁ = d₂ :=
  ⟨fun _ h => h.recovers, Diagnostic.recovers,
    fun _ _ h₁ h₂ => h₁.recovers.eq_of_sameForm h₂.recovers,
    fun d₁ d₂ => d₁.recovers.eq_of_sameForm d₂.recovers⟩

-- A definition of each sort. The names of some fields are values as well, and those of others come
-- again in the fields of an argument.
def Outcome.specimen : Outcome where
  handler := "messages"
  package := "app"
  site := ⟨"Assets", some "Embed"⟩
  status := .generated
  items := [.textConstant "A" "a.txt" ["\"quoted\"\n", "\x00"] 12,
    .bytesConstant "B" "b.bin" ["ÿ"] 1, .lazyAccessor "c" "kind" true, .pathConstant "D" "",
    .messageFunction ⟨"kind", "m", "greeting", [⟨"name", .text⟩, ⟨"day", .date⟩], true, false,
      .ofList [("", "Hello"), ("de", "Hallo")]⟩]

theorem outcomes_and_diagnostics_recover_specimen :
    Outcome.specimen.Representable ∧ Recovers Outcome.specimen ∧
    ¬SameForm Outcome.specimen { Outcome.specimen with items := [] } ∧
    Recovers (⟨.error, "lost", some ⟨"Assets", none⟩⟩ : Diagnostic) ∧
    ¬SameForm (⟨.note, "", none⟩ : Diagnostic) ⟨.note, "", some ⟨"", none⟩⟩ := by
  have ⟨outcomes, diagnostics, outcomes_ne, diagnostics_ne⟩ := outcomes_and_diagnostics_recover
  have hr : Outcome.specimen.Representable := by
    simp [Outcome.Representable, Outcome.specimen, Definition.Representable]
  have he : ({ Outcome.specimen with items := [] } : Outcome).Representable := by
    simp [Outcome.Representable]
  refine ⟨hr, outcomes _ hr, fun h => ?_, diagnostics _, fun h => ?_⟩
  case refine_1 => exact absurd (congrArg (·.items.length) (outcomes_ne _ _ hr he h)) (by decide)
  case refine_2 => exact absurd (diagnostics_ne _ _ h) (by decide)

end ResourceEmbedding
