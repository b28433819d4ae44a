import ResourceEmbedding.Generator.Catalog
import ResourceEmbedding.Proofs.Generator.Messages
import ResourceEmbedding.Proofs.Staged

namespace ResourceEmbedding

namespace Generator

variable {request : Request}

def Accepts (g : Generator) (request : Request) : Prop :=
  ∃ schema, g.schema = .ok schema ∧ schema.check request.settings = .ok ()

def Rejects (g : Generator) (request : Request) : Prop :=
  ∃ schema, g.schema = .ok schema ∧ schema.check request.settings ≠ .ok ()

-- A generator that comes to a result on each request that it accepts.
structure Total (g : Generator) : Prop where
  schema : ∃ schema, g.schema = .ok schema
  items  : ∀ request, g.Accepts request → ∃ items, (g.generate request).run.value = .ok items

theorem Total.rejects_iff {g : Generator} (h : g.Total) :
    g.Rejects request ↔ ¬g.Accepts request := by
  have ⟨schema, hs⟩ := h.schema
  simp [Rejects, Accepts, hs]

-- A generator may rely on the budget that its schema checks.
theorem budgetAccepted_of_accepts {g : Generator} (hs : Embed.ChecksBudget g.schema)
    (ha : g.Accepts request) : Embed.BudgetAccepted request.settings := by
  obtain ⟨schema, hs, hc, hd⟩ := hs
  obtain ⟨_, hs₂, ha⟩ := ha
  cases hs.symm.trans hs₂
  exact Schema.accepts_of_check hc hd ha

theorem total_of_budget {g : Generator} (hs : Embed.ChecksBudget g.schema)
    (hi : ∀ request, Embed.BudgetAccepted request.settings →
      ∃ items, (g.generate request).run.value = .ok items) : g.Total where
  schema := hs.imp fun _ h => h.1
  items  := fun request ha => hi request (budgetAccepted_of_accepts hs ha)

theorem embed_total : embed.Total :=
  total_of_budget Embed.checksBudget fun _ => Embed.exists_items

theorem lazy_total : lazy.Total where
  schema := ⟨_, rfl⟩
  items  := by
    intro request _
    simp [lazy, Lazy.generate]

theorem Messages.checksBudget : Embed.ChecksBudget Messages.schema :=
  ⟨_, rfl, rfl, rfl⟩

-- The constants are made with some of the settings, and so with the same budget.
theorem Messages.exists_items (h : Embed.BudgetAccepted request.settings) :
    ∃ items, (Messages.generate request).run.value = .ok items := by
  by_cases he : Settings.getBool request.settings "embed_source" false
  case neg => simp [run_generate_plain he]
  case pos =>
    have ⟨derived, hd, p, hp⟩ := exists_embedRequest (applyNaming request)
    have hb : Embed.BudgetAccepted derived.settings := by
      intro s hs
      rw [hp, settings_applyNaming] at hs
      exact h s (List.mem_of_mem_filter hs)
    have ⟨constants, hc⟩ := Embed.exists_items hb
    rw [run_generate_embedding he hd, hc]
    exact ⟨_, rfl⟩

theorem messages_total : messages.Total :=
  total_of_budget Messages.checksBudget fun _ => Messages.exists_items

end Generator

namespace Catalog

variable {catalog : Catalog} {request : Request} {name : String} {g : Generator} {e : Failure}

theorem get?_standard (name : String) :
    standard.get? name =
      if name = "messages" then some Generator.messages
      else if name = "lazy" then some Generator.lazy
      else if name = "embed" then some Generator.embed
      else none := by
  simp only [standard, List.foldl_cons, List.foldl_nil, register, KeyMap.get?_insert]
  rfl

theorem mem_of_get?_standard (h : standard.get? name = some g) :
    g ∈ [Generator.embed, Generator.lazy, Generator.messages] := by
  rw [get?_standard] at h
  grind

theorem total_of_get?_standard (h : standard.get? name = some g) : g.Total := by
  have h := mem_of_get?_standard h
  simp only [List.mem_cons, List.not_mem_nil, or_false] at h
  rcases h with rfl | rfl | rfl
  · exact Generator.embed_total
  · exact Generator.lazy_total
  · exact Generator.messages_total

theorem choose_eq_ok_iff :
    catalog.choose request name = .ok g ↔ catalog.get? name = some g ∧ g.Accepts request := by
  rw [choose]
  cases catalog.get? name
  case none => simp [throw, throwThe, MonadExceptOf.throw]
  case some g₂ =>
    simp only [bind_eq_ok, mapError_eq_ok, pure_eq_ok, Option.some_inj, Generator.Accepts]
    constructor
    case mp =>
      rintro ⟨schema, hs, _, hc, rfl⟩
      exact ⟨rfl, schema, hs, hc⟩
    case mpr =>
      rintro ⟨rfl, schema, hs, hc⟩
      exact ⟨schema, hs, (), hc, rfl⟩

theorem run_of_choose_error (h : catalog.choose request name = .error e) :
    catalog.run request name =
      ⟨⟨name, request.package, request.site, .skipped, []⟩,
        [⟨.error, e.message, some request.site⟩]⟩ := by
  rw [run, h]
  rfl

theorem run_of_choose_ok {items : List Definition} (h : catalog.choose request name = .ok g)
    (hg : (g.generate request).run.value = .ok items) :
    catalog.run request name =
      ⟨⟨name, request.package, request.site, .generated, (dropCollisions request items).value⟩,
        (g.generate request).run.diagnostics ++ (dropCollisions request items).diagnostics⟩ := by
  rw [run, h]
  simp [bind, hg, pure]

theorem status_run_of_choose_ok (h : catalog.choose request name = .ok g) (ht : g.Total) :
    (catalog.run request name).value.status = .generated := by
  have ⟨items, hi⟩ := ht.items request (choose_eq_ok_iff.mp h).2
  rw [run, h]
  simp [hi]

-- A run is skipped, with one error and no definitions, if there is no generator to choose; all
-- other runs of a catalog of such generators come to their end.
theorem run_cases (request : Request) (ht : ∀ g, catalog.get? name = some g → g.Total) :
    ((∃ g, catalog.get? name = some g ∧ g.Accepts request) ∧
        (catalog.run request name).value.status = .generated) ∨
      (¬∃ g, catalog.get? name = some g ∧ g.Accepts request) ∧ ∃ e : Failure,
        catalog.run request name =
          ⟨⟨name, request.package, request.site, .skipped, []⟩,
            [⟨.error, e.message, some request.site⟩]⟩ := by
  cases hc : catalog.choose request name
  case ok g =>
    have hg := choose_eq_ok_iff.mp hc
    exact .inl ⟨⟨g, hg⟩, status_run_of_choose_ok hc (ht g hg.1)⟩
  case error e =>
    refine .inr ⟨fun ⟨g, hg⟩ => ?_, e, run_of_choose_error hc⟩
    cases hc.symm.trans (choose_eq_ok_iff.mpr hg)

theorem not_exists_accepts_iff (ht : ∀ g, catalog.get? name = some g → g.Total) :
    (¬∃ g, catalog.get? name = some g ∧ g.Accepts request) ↔
      catalog.get? name = none ∨ ∃ g, catalog.get? name = some g ∧ g.Rejects request := by
  cases hg : catalog.get? name
  case none => simp
  case some g => simp [(ht g hg).rejects_iff]

-- No run of the standard catalog fails. It is skipped, with one error and no definitions, if the
-- generator is unknown or rejects the settings; a generator that accepts them comes to a result.
theorem standard_never_fails (request : Request) (name : String) :
    let outcome := (standard.run request name).value
    outcome.status ≠ .failed ∧
    (outcome.status = .skipped ↔
      standard.get? name = none ∨ ∃ g, standard.get? name = some g ∧ g.Rejects request) ∧
    (outcome.status = .skipped → outcome.items = [] ∧ ∃ e : Failure,
      (standard.run request name).diagnostics = [⟨.error, e.message, some request.site⟩]) ∧
    (outcome.status ≠ .skipped → outcome.status = .generated) ∧
    ∀ g ∈ [Generator.embed, Generator.lazy, Generator.messages], g.Accepts request →
      ∃ items, (g.generate request).run.value = .ok items := by
  have ht g (hg : standard.get? name = some g) := total_of_get?_standard hg
  have hg : ∀ g ∈ [Generator.embed, Generator.lazy, Generator.messages], g.Accepts request →
      ∃ items, (g.generate request).run.value = .ok items := by
    simp only [List.mem_cons, List.not_mem_nil, or_false]
    rintro g (rfl | rfl | rfl)
    · exact Generator.embed_total.items request
    · exact Generator.lazy_total.items request
    · exact Generator.messages_total.items request
  rw [← not_exists_accepts_iff ht]
  rcases run_cases request ht with ⟨ha, hs⟩ | ⟨ha, e, hs⟩
  · exact ⟨by simp [hs], by simp [hs, ha], by simp [hs], by simp [hs], hg⟩
  · exact ⟨by simp [hs], by simp [hs, ha], fun _ => ⟨by rw [hs], e, by rw [hs]⟩, by simp [hs], hg⟩

-- A bundle whose file breaks off, and is to be embedded as well.
theorem standard_never_fails_broken :
    let request : Request := ⟨{
      resources := [⟨"app.properties", .ok [.bytes [0x61, 0x3D], .failed ⟨.other, "lost"⟩]⟩]
      settings := [⟨"embed_source", "true"⟩] }, by simp⟩
    (∃ items, (Generator.messages.generate request).run.value = .ok items) ∧
    (standard.run request "messages").value.status = .generated ∧
    (standard.run request "inline").value.status = .skipped ∧
    (standard.run request "inline").value.items = [] ∧ ∃ e : Failure,
      (standard.run request "inline").diagnostics = [⟨.error, e.message, some request.site⟩] := by
  intro request
  have hm := standard_never_fails request "messages"
  have hi := standard_never_fails request "inline"
  have ha : Generator.messages.Accepts request := ⟨_, rfl, by decide +kernel⟩
  have hs : (standard.run request "inline").value.status = .skipped :=
    hi.2.1.mpr (.inl (by rw [get?_standard]; decide))
  have hg : (standard.run request "messages").value.status ≠ .skipped := by
    rw [ne_eq, hm.2.1, ← not_exists_accepts_iff fun g hg => total_of_get?_standard hg]
    exact not_not.mpr ⟨Generator.messages, get?_standard _, ha⟩
  exact ⟨hm.2.2.2.2 _ (by simp) ha, hm.2.2.2.1 hg, hs, hi.2.2.1 hs⟩

end Catalog

end ResourceEmbedding
