import ResourceEmbedding.Proofs.Generator.Collision
import ResourceEmbedding.Proofs.Generator.Filing
import ResourceEmbedding.Proofs.Generator.Warnings

namespace ResourceEmbedding

-- The failure lies in the content of a resource, which is there and can be read.
def Failure.IsOfContent : Failure → Prop
  | encoding .. | bundle .. => True
  | _ => False

def Failure.IsRefusal : Failure → Prop
  | unknownHandler _ | setting (.rejected _) => True
  | _ => False

-- A failure of a resource. Where the resource can be read it is a failure of its content.
def Resource.Causes (r : Resource) (e : Failure) : Prop :=
  ∀ content, r.readAll = .ok content → e.IsOfContent

-- What a diagnostic of a run is about.
inductive Emission (request : Request) : Diagnostic → Prop
  | refusal {e : Failure} :
    e.IsRefusal → Emission request ⟨.error, e.message, some request.site⟩
  | resource {r : Resource} {e : Failure} {severity : Severity} :
    r ∈ request.resources → r.Causes e → severity ≠ .note →
    Emission request ⟨severity, e.message, some request.site⟩
  | other (r : Resource) : Emission request (Generator.Messages.otherWarning request r)
  | bundle (path : String) : Emission request (Generator.Messages.noDefaultWarning request path)
  | message {severity : Severity} {rest : String} :
    severity ≠ .note → Emission request ⟨severity, "Key \x60" ++ rest, some request.site⟩
  | collision (symbol first second : String) :
    Emission request
      ⟨.error, (Failure.namingCollision symbol first second).message, some request.site⟩

-- A derived request emits at the site of the request that it comes from.
theorem Emission.of_derived {request derived : Request} {d : Diagnostic}
    (hs : derived.site = request.site) (hr : derived.resources ⊆ request.resources)
    (h : Emission derived d) : Emission request d := by
  cases h
  case refusal h => exact hs ▸ .refusal h
  case resource hm hc hn => exact hs ▸ .resource (hr hm) hc hn
  case other r =>
    rw [Generator.Messages.otherWarning, hs]
    exact .other r
  case bundle path =>
    rw [Generator.Messages.noDefaultWarning, hs]
    exact .bundle path
  case message hn => exact hs ▸ .message hn
  case collision => exact hs ▸ .collision ..

namespace Generator

variable {request derived : Request} {resource : Resource} {content : List UInt8} {e : Failure}
variable {d : Diagnostic} {path : String} {bundle : Bundle}

theorem ne_note_of_severity? {level : ReportLevel} {severity : Severity}
    (h : severity ∈ level.severity?.toList) : severity ≠ .note := by
  cases level <;> simp_all [ReportLevel.severity?]

theorem emission_of_applyNaming (h : Emission (applyNaming request) d) : Emission request d :=
  h.of_derived (site_applyNaming request) (resources_applyNaming request ▸ List.Subset.refl _)

theorem emission_of_reportFailure (hr : resource ∈ request.resources) (hc : resource.Causes e)
    (h : d ∈ (reportFailure request e).diagnostics) : Emission request d := by
  rw [diagnostics_reportFailure] at h
  split at h
  case isTrue =>
    obtain ⟨_, hl, rfl⟩ := List.mem_map.mp h
    exact .resource hr hc (ne_note_of_severity? hl)
  case isFalse =>
    cases List.mem_singleton.mp h
    exact .resource hr hc nofun

namespace Embed

variable {config : SegmentConfig}

theorem causes_of_embedOne (hb : leastBudget ≤ config.maxBytes)
    (h : embedOne request resource config = .error e) : resource.Causes e := by
  intro content hr
  rcases config with ⟨maxBytes, _ | _⟩
  case utf8 =>
    by_cases ht : ∃ text, content = Utf8.encode text
    case pos =>
      obtain ⟨text, rfl⟩ := ht
      have ⟨_, _, _, he⟩ := @embedOne_text_cases request _ _ _ hb hr
      rcases he with ⟨_, he, _⟩ | ⟨_, he, _⟩ <;> cases he.symm.trans h
      trivial
    case neg =>
      have ⟨_, _, he⟩ := @embedOne_invalid request _ _ _ hb hr (not_exists.mp ht)
      cases he.symm.trans h
      trivial
  case latin1 =>
    have ⟨_, he, _⟩ := @embedOne_latin1 request _ _ _ hb hr
    cases he.symm.trans h

theorem emission_of_generate (hb : BudgetAccepted request.settings)
    (h : d ∈ (generate request).run.diagnostics) : Emission request d := by
  rw [generate_eq_liftM hb, ExceptT.run_liftM, Logged.diagnostics_map,
    Logged.diagnostics_filterMapM, ← resources_applyNaming] at h
  have ⟨resource, hm, h⟩ := List.mem_flatMap.mp h
  rw [account] at h
  split at h
  case h_1 => cases h
  case h_2 e he =>
    rw [← settings_applyNaming] at hb
    have hd : d ∈ (reportFailure (applyNaming request) e).diagnostics := by simpa using h
    have hc := causes_of_embedOne (leastBudget_le_config hb) he
    exact emission_of_applyNaming (emission_of_reportFailure hm hc hd)

end Embed

theorem Lazy.emission_of_generate (h : d ∈ (generate request).run.diagnostics) :
    Emission request d := by
  rw [run_generate] at h
  have ⟨resource, hm, h⟩ := List.mem_flatMap.mp h
  cases ho : resource.opening
  case ok source =>
    have ⟨_, hd, _⟩ := @yields_of_ok (applyNaming request) _ _ ho
    rw [hd] at h
    cases h
  case error cause =>
    rw [definitionsOf_of_error ho] at h
    have hc : resource.Causes (.ofStream resource.path cause) := by
      intro content hr
      rw [Resource.readAll, ho] at hr
      cases hr
    rw [← resources_applyNaming] at hm
    exact emission_of_applyNaming (emission_of_reportFailure hm hc h)

namespace Messages

theorem causes_of_readFile (h : readFile resource = .error e) : resource.Causes e := by
  intro content hr
  simp only [readFile, hr, bind_eq_error, mapError_eq_error, mapError_eq_ok] at h
  rcases h with ⟨_, ⟨⟩, _⟩ | ⟨_, _, ⟨_, _, rfl⟩ | ⟨_, _, _, _, rfl⟩⟩
  all_goals trivial

theorem mem_resources_of_get? {locale : String}
    (hb : (bundlesOf request.resources).get? path = some bundle)
    (hr : bundle.get? locale = some resource) : resource ∈ request.resources := by
  have hc : filed request (path, locale) = some resource := by
    rw [filed, KeyMap.cell?, hb, Option.bind_some, hr]
  exact (filed_iff.mp hc).1

theorem emission_of_functions (h : d ∈ (functions request).diagnostics) : Emission request d := by
  rw [diagnostics_functions, diagnostics_warnOfOthers] at h
  rcases List.mem_append.mp h with h | h
  · obtain ⟨r, _, rfl⟩ := List.mem_map.mp h
    exact .other r
  obtain ⟨⟨path, bundle⟩, hb, h⟩ := List.mem_flatMap.mp h
  rw [KeyMap.mem_entries_iff] at hb
  rw [diagnostics_functionsOf, diagnostics_load] at h
  simp only [List.mem_append, List.mem_flatMap, Prod.exists, KeyMap.mem_entries_iff] at h
  rcases h with (h | ⟨locale, resource, hr, h⟩) | ⟨key, templates, _, h⟩
  · split at h
    case isTrue =>
      cases List.mem_singleton.mp h
      exact .bundle path
    case isFalse => cases h
  · split at h
    case h_1 => cases h
    case h_2 he =>
      exact emission_of_reportFailure (mem_resources_of_get? hb hr) (causes_of_readFile he) h
  · rw [makeFunction] at h
    split at h
    case h_1 => cases h
    case h_2 problem hf =>
      obtain ⟨rest, rfl⟩ := exists_of_functionOf_eq_error hf
      rw [Logged.diagnostics_bind, Reporter.diagnostics_report] at h
      simp only [Logged.diagnostics_pure, List.append_nil] at h
      obtain ⟨_, hl, rfl⟩ := List.mem_map.mp h
      exact .message (ne_note_of_severity? hl)

theorem derived_of_embedRequest (h : embedRequest request = .ok derived) :
    derived.site = request.site ∧ derived.resources ⊆ request.resources := by
  have ⟨schema, hs, _⟩ := Embed.checksBudget
  cases h.symm.trans (embedRequest_eq hs request)
  exact ⟨rfl, List.filter_subset_self _⟩

theorem emission_of_generate (hb : Embed.BudgetAccepted request.settings)
    (h : d ∈ (generate request).run.diagnostics) : Emission request d := by
  by_cases he : Settings.getBool request.settings "embed_source" false
  case neg =>
    rw [run_generate_plain he, Logged.diagnostics_map] at h
    exact emission_of_applyNaming (emission_of_functions h)
  case pos =>
    have ⟨derived, hd, p, hp⟩ := exists_embedRequest (applyNaming request)
    rw [run_generate_embedding he hd] at h
    rcases List.mem_append.mp h with h | h
    · exact emission_of_applyNaming (emission_of_functions h)
    · have hb : Embed.BudgetAccepted derived.settings := by
        intro s hs
        rw [hp, settings_applyNaming] at hs
        exact hb s (List.mem_of_mem_filter hs)
      have ⟨hs, hr⟩ := derived_of_embedRequest hd
      exact emission_of_applyNaming ((Embed.emission_of_generate hb h).of_derived hs hr)

end Messages

end Generator

namespace Catalog

variable {request : Request} {name : String} {g : Generator} {e : Failure} {d : Diagnostic}

theorem emission_of_generate (hg : standard.get? name = some g) (ha : g.Accepts request)
    (h : d ∈ (g.generate request).run.diagnostics) : Emission request d := by
  have hm := mem_of_get?_standard hg
  simp only [List.mem_cons, List.not_mem_nil, or_false] at hm
  rcases hm with rfl | rfl | rfl
  · have hb := Generator.budgetAccepted_of_accepts Generator.Embed.checksBudget ha
    exact Generator.Embed.emission_of_generate hb h
  · exact Generator.Lazy.emission_of_generate h
  · have hb := Generator.budgetAccepted_of_accepts Generator.Messages.checksBudget ha
    exact Generator.Messages.emission_of_generate hb h

theorem isRefusal_of_choose (h : standard.choose request name = .error e) : e.IsRefusal := by
  rw [choose] at h
  cases hg : standard.get? name
  case none =>
    rw [hg] at h
    cases h
    trivial
  case some g =>
    obtain ⟨schema, hs⟩ := (total_of_get?_standard hg).schema
    simp only [hg, hs, bind_eq_error, mapError_eq_error, pure, Except.pure] at h
    rcases h with ⟨⟨⟩⟩ | ⟨_, ⟨⟩, ⟨_, hc, rfl⟩ | ⟨_, _, ⟨⟩⟩⟩
    obtain ⟨rejection, _, rfl⟩ := mapError_eq_error.mp hc
    trivial

theorem emission_of_run (h : d ∈ (standard.run request name).diagnostics) : Emission request d := by
  cases hc : standard.choose request name
  case error e =>
    rw [run_of_choose_error hc] at h
    cases List.mem_singleton.mp h
    exact .refusal (isRefusal_of_choose hc)
  case ok g =>
    have ⟨hg, ha⟩ := choose_eq_ok_iff.mp hc
    have ⟨items, hi⟩ := (total_of_get?_standard hg).items request ha
    rw [run_of_choose_ok hc hi] at h
    rcases List.mem_append.mp h with h | h
    · exact emission_of_generate hg ha h
    · rw [dropCollisions_eq] at h
      obtain ⟨_, _, rfl⟩ := List.mem_map.mp h
      exact .collision ..

end Catalog

def SaysMissing (message : String) : Prop :=
  ∃ path cause, message = (Failure.resourceMissing path cause).message

theorem message_resourceMissing (path : String) (cause : StreamFailure) :
    (Failure.resourceMissing path cause).message = "Resource \x60" ++ path ++ "\x60 is missing" :=
  rfl

theorem head?_toList_append {s : String} (t : String) {c : Char} (h : s.toList.head? = some c) :
    (s ++ t).toList.head? = some c := by
  rw [String.toList_append, List.head?_append, h]
  rfl

theorem SaysMissing.head? {message : String} (h : SaysMissing message) :
    message.toList.head? = some 'R' := by
  obtain ⟨path, cause, rfl⟩ := h
  rw [message_resourceMissing]
  exact head?_toList_append _ (head?_toList_append _ (by simp))

theorem SaysMissing.getLast? {message : String} (h : SaysMissing message) :
    message.toList.getLast? = some 'g' := by
  obtain ⟨path, cause, rfl⟩ := h
  rw [message_resourceMissing]
  exact getLast?_toList_append _ (by simp)

theorem Failure.IsRefusal.head? {e : Failure} (h : e.IsRefusal) :
    e.message.toList.head? ≠ some 'R' := by
  cases e
  case unknownHandler name =>
    have hm : (unknownHandler name).message = "Unknown handler \x60" ++ name ++ "\x60" :=
      rfl
    rw [hm]
    simp
  case setting error =>
    cases error
    case rejected rejection =>
      have hm : (setting (.rejected rejection)).message =
          "invalid options for \x60" ++ rejection.handler ++ "\x60:\n" ++
            String.join (rejection.violations.map fun v => "  - " ++ v.message ++ "\n") ++
            usageText rejection.usage :=
        rfl
      rw [hm]
      simp
    all_goals cases h
  all_goals cases h

theorem Failure.IsOfContent.head? {e : Failure} (h : e.IsOfContent) :
    e.message.toList.head? ≠ some 'R' := by
  cases e
  case encoding path cause =>
    have hm : (encoding path cause).message =
        "Failed to encode \x60" ++ path ++ "\x60: " ++ cause.message :=
      rfl
    rw [hm]
    simp
  case bundle path line reason =>
    have hm : (bundle path line reason).message =
        "Malformed bundle \x60" ++ path ++ "\x60 at line " ++ toString line ++ ": " ++ reason :=
      rfl
    rw [hm]
    simp
  all_goals cases h

theorem Emission.not_saysMissing {request : Request} {d : Diagnostic} (h : Emission request d)
    (hr : ∀ r ∈ request.resources, ∃ content, r.readAll = .ok content) :
    ¬SaysMissing d.message := by
  intro hm
  have hf := hm.head?
  cases h
  case refusal h => exact h.head? hf
  case resource r _ _ hr₂ hc _ =>
    have ⟨content, hr⟩ := hr r hr₂
    exact (hc content hr).head? hf
  case other r => cases hm.getLast?.symm.trans Generator.Messages.getLast?_otherWarning
  case bundle path => cases hf.symm.trans Generator.Messages.head?_noDefaultWarning
  case message => simp at hf
  case collision symbol first second =>
    rw [Catalog.message_namingCollision] at hf
    simp at hf

end ResourceEmbedding
