import ResourceEmbedding.Proofs.Generator.Emission

namespace ResourceEmbedding

structure Diagnostic.ReportedAt (site : Site) (d : Diagnostic) : Prop where
  site     : d.site = some site
  severity : d.severity = .warning ∨ d.severity = .error

-- Whatever the request, the generator emits at its site only.
def Generator.StaysAtSite (g : Generator) : Prop :=
  ∀ request, ∀ d ∈ (g.generate request).run.diagnostics, d.ReportedAt request.site

theorem Severity.eq_of_ne_note {severity : Severity} (h : severity ≠ .note) :
    severity = .warning ∨ severity = .error := by
  cases severity <;> simp_all

variable {request : Request} {d : Diagnostic} {e : Failure}

theorem Emission.reportedAt (h : Emission request d) : d.ReportedAt request.site := by
  cases h
  case refusal     => exact ⟨rfl, .inr rfl⟩
  case resource hn => exact ⟨rfl, Severity.eq_of_ne_note hn⟩
  case other       => exact ⟨rfl, .inl rfl⟩
  case bundle      => exact ⟨rfl, .inl rfl⟩
  case message hn  => exact ⟨rfl, Severity.eq_of_ne_note hn⟩
  case collision   => exact ⟨rfl, .inr rfl⟩

namespace Generator

theorem reportedAt_of_reportFailure (h : d ∈ (reportFailure request e).diagnostics) :
    d.ReportedAt request.site := by
  rw [diagnostics_reportFailure] at h
  split at h
  case isTrue =>
    obtain ⟨_, hl, rfl⟩ := List.mem_map.mp h
    exact ⟨rfl, Severity.eq_of_ne_note (ne_note_of_severity? hl)⟩
  case isFalse =>
    cases List.mem_singleton.mp h
    exact ⟨rfl, .inr rfl⟩

-- A failure that ends the run is emitted by the catalog; the generator reports all others.
theorem embed_staysAtSite : embed.StaysAtSite := by
  intro request d h
  have ⟨_, h⟩ := Embed.exists_failure_of_generate h
  exact site_applyNaming request ▸ reportedAt_of_reportFailure h

theorem lazy_staysAtSite : lazy.StaysAtSite :=
  fun _ _ h => (Lazy.emission_of_generate h).reportedAt

theorem Messages.reportedAt_of_functions (h : d ∈ (functions (applyNaming request)).diagnostics) :
    d.ReportedAt request.site :=
  site_applyNaming request ▸ (emission_of_functions h).reportedAt

-- The request for the files is another one, with the same site.
theorem messages_staysAtSite : messages.StaysAtSite := by
  intro request d h
  have h : d ∈ (Messages.generate request).run.diagnostics := h
  by_cases he : Settings.getBool request.settings "embed_source" false
  case neg =>
    rw [Messages.run_generate_plain he, Logged.diagnostics_map] at h
    exact Messages.reportedAt_of_functions h
  case pos =>
    have ⟨derived, hd, _⟩ := Messages.exists_embedRequest (applyNaming request)
    rw [Messages.run_generate_embedding he hd] at h
    rcases List.mem_append.mp h with h | h
    · exact Messages.reportedAt_of_functions h
    · have hs := (Messages.derived_of_embedRequest hd).1.trans (site_applyNaming request)
      exact hs ▸ embed_staysAtSite derived d h

end Generator

namespace Catalog

variable {catalog : Catalog} {name : String} {g : Generator}

theorem reportedAt_of_dropCollisions {items : List Definition}
    (h : d ∈ (dropCollisions request items).diagnostics) : d.ReportedAt request.site := by
  rw [dropCollisions_eq] at h
  obtain ⟨_, _, rfl⟩ := List.mem_map.mp h
  exact ⟨rfl, .inr rfl⟩

-- What a run emits behind its generator.
theorem diagnostics_run_of_choose_ok (h : catalog.choose request name = .ok g) :
    (catalog.run request name).diagnostics = (g.generate request).run.diagnostics ++
      match (g.generate request).run.value with
      | .ok items => (dropCollisions request items).diagnostics
      | .error e  => [⟨.error, e.message, some request.site⟩] := by
  cases hv : (g.generate request).run.value
  case ok items => rw [run_of_choose_ok h hv]
  case error e =>
    rw [run, h]
    simp [hv, Request.error, Request.diagnostics_report]

theorem reportedAt_of_run (hg : ∀ g, catalog.get? name = some g → g.StaysAtSite)
    (h : d ∈ (catalog.run request name).diagnostics) : d.ReportedAt request.site := by
  cases hc : catalog.choose request name
  case error e =>
    rw [run_of_choose_error hc] at h
    cases List.mem_singleton.mp h
    exact ⟨rfl, .inr rfl⟩
  case ok g =>
    rw [diagnostics_run_of_choose_ok hc] at h
    rcases List.mem_append.mp h with h | h
    · exact hg g (choose_eq_ok_iff.mp hc).1 request d h
    · split at h
      case h_1 => exact reportedAt_of_dropCollisions h
      case h_2 =>
        cases List.mem_singleton.mp h
        exact ⟨rfl, .inr rfl⟩

theorem staysAtSite_of_mem (h : g ∈ [Generator.embed, Generator.lazy, Generator.messages]) :
    g.StaysAtSite := by
  simp only [List.mem_cons, List.not_mem_nil, or_false] at h
  rcases h with rfl | rfl | rfl
  · exact Generator.embed_staysAtSite
  · exact Generator.lazy_staysAtSite
  · exact Generator.messages_staysAtSite

-- Every diagnostic of a run is a warning or an error at the site of its request: for each generator
-- of the standard catalog, whether it accepts the settings or not, and in any catalog for each
-- generator that stays at the site itself.
theorem diagnostics_at_site_of_request (request : Request) (name : String) :
    (∀ d ∈ (standard.run request name).diagnostics, d.ReportedAt request.site) ∧
    (∀ g ∈ [Generator.embed, Generator.lazy, Generator.messages], g.StaysAtSite) ∧
    ∀ catalog : Catalog, (∀ g, catalog.get? name = some g → g.StaysAtSite) →
      ∀ d ∈ (catalog.run request name).diagnostics, d.ReportedAt request.site := by
  refine ⟨?standard, fun _ => staysAtSite_of_mem, fun _ hg _ => reportedAt_of_run hg⟩
  case standard =>
    intro d h
    exact reportedAt_of_run (fun g hg => staysAtSite_of_mem (mem_of_get?_standard hg)) h

-- A file that belongs to no bundle, and a bundle that is missing, for its functions and for the
-- generator that is to embed it; and a catalog with a generator that gives up.
theorem diagnostics_at_site_of_request_delegated :
    let site : Site := ⟨"Assets", some "Messages"⟩
    let request : Request := ⟨{
      site
      resources := [.ofBytes "logo.svg" [], ⟨"m.properties", .error ⟨.notFound, "gone"⟩⟩]
      settings := [⟨"embed_source", "true"⟩] }, by decide⟩
    let broken : Generator :=
      ⟨"broken", Generator.Lazy.schema, fun _ => throw (.duplicateResource "")⟩
    let run := standard.run request "messages"
    let other := (standard.register broken).run (request.withSettings []) "broken"
    run.diagnostics.map (·.severity) = [.warning, .error, .error] ∧
    (∀ d ∈ run.diagnostics, d.ReportedAt site) ∧
    Generator.messages.StaysAtSite ∧
    other.diagnostics.map (·.severity) = [.error] ∧
    ∀ d ∈ other.diagnostics, d.ReportedAt site := by
  intro site request broken run other
  have hr := diagnostics_at_site_of_request request "messages"
  have ho := diagnostics_at_site_of_request (request.withSettings []) "broken"
  have hb : broken.StaysAtSite := fun _ _ h => nomatch h
  refine ⟨by decide +kernel, hr.1, hr.2.1 _ (by simp), by decide +kernel, ho.2.2 _ ?_⟩
  intro g hg
  rw [register, KeyMap.get?_insert, if_pos rfl] at hg
  cases hg
  exact hb

end Catalog

end ResourceEmbedding
