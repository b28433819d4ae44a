import ResourceEmbedding.Proofs.Generator.Basic
import ResourceEmbedding.Proofs.Generator.Embed
import ResourceEmbedding.Proofs.Setting.Schema
import ResourceEmbedding.Proofs.Staged

namespace ResourceEmbedding

theorem Failure.isRecoverable_ofStream (path : String) (cause : StreamFailure) :
    (ofStream path cause).isRecoverable := by
  rw [ofStream]
  split <;> rfl

namespace Generator.Embed

variable {request : Request} {resource : Resource} {config : SegmentConfig} {e : Failure}
variable {items : List Definition}

theorem isRecoverable_of_constantOf {name path : String} {segments : List Segment}
    {encoding : SourceEncoding}
    (h : (constantOf name path segments encoding).mapError (.ofSegment path) = .error e) :
    e.isRecoverable := by
  cases encoding
  case latin1 => cases h
  case utf8 =>
    rcases textsFrom_cases 0 segments with ⟨texts, ht, _⟩ | ⟨k, ht, _⟩
    all_goals
      rw [constantOf, ht] at h
      cases h
    rfl

theorem isRecoverable_of_embedOne (hb : leastBudget ≤ config.maxBytes)
    (h : embedOne request resource config = .error e) : e.isRecoverable := by
  cases ho : resource.opening
  case error cause =>
    cases (embedOne_of_opening_error ho).symm.trans h
    exact Failure.isRecoverable_ofStream ..
  case ok source =>
    rcases segments_cases source hb with ⟨units, _, _, hs⟩ | ⟨cause, hf, hs⟩
    · rw [embedOne_of_segments ho hs] at h
      exact isRecoverable_of_constantOf h
    · rw [embedOne_of_error ho hs] at h
      cases h
      cases hf
      case invalid   => rfl
      case stream    => exact Failure.isRecoverable_ofStream ..
      case truncated => rfl

-- What becomes of a resource, whose failure is reported.
def account (request : Request) (config : SegmentConfig) (resource : Resource) :
    Logged (Option Definition) :=
  match embedOne request resource config with
  | .ok d => return some d
  | .error e => do
    reportFailure request e
    return none

theorem attempt_eq_account (hb : leastBudget ≤ config.maxBytes) :
    attempt request config resource = liftM (account request config resource) := by
  cases he : embedOne request resource config
  case ok d => simp [attempt, account, he]
  case error e =>
    simp only [attempt, account, he, isRecoverable_of_embedOne hb he, reportFailure]
    split <;> simp

def ChecksBudget (schema : Except Failure Schema) : Prop :=
  ∃ s, schema = .ok s ∧ s.checked ∧
    (s.find? "max_bytes").map (·.check) = some (.sizeAtLeast leastBudget)

theorem checksBudget : ChecksBudget schema :=
  ⟨_, rfl, rfl, rfl⟩

-- The budget that is asked for, if one is, suffices for any code unit.
def BudgetAccepted (settings : List Setting) : Prop :=
  ∀ s ∈ settings, s.key = "max_bytes" → (ValueCheck.sizeAtLeast leastBudget).accepts s.value

theorem leastBudget_le_config (h : BudgetAccepted request.settings) :
    leastBudget ≤ (Embed.config request).maxBytes :=
  Settings.le_getSize h (by decide)

theorem generate_eq_liftM (h : BudgetAccepted request.settings) :
    generate request =
      liftM (request.resources.filterMapM
        (account (applyNaming request) (Embed.config (applyNaming request)))) := by
  have hb : BudgetAccepted (applyNaming request).settings := by rwa [settings_applyNaming]
  rw [← Processing.filterMapM_liftM, generate, resources_applyNaming]
  congr
  funext resource
  exact attempt_eq_account (leastBudget_le_config hb)

theorem exists_items (h : BudgetAccepted request.settings) :
    ∃ items, (generate request).run.value = .ok items := by
  rw [generate_eq_liftM h, ExceptT.run_liftM, Logged.value_map]
  exact ⟨_, rfl⟩

-- What an attempt emits reports a failure, also when the failure ends the run.
theorem exists_failure_of_attempt {d : Diagnostic}
    (h : d ∈ (attempt request config resource).run.diagnostics) :
    ∃ e, d ∈ (reportFailure request e).diagnostics := by
  rw [attempt] at h
  split at h
  case h_1 => cases h
  case h_2 e _ =>
    refine ⟨e, ?_⟩
    rw [reportFailure]
    split at h
    case isTrue hm => simpa [hm] using h
    case isFalse hm =>
      split at h
      case isTrue  => simpa [hm] using h
      case isFalse => cases h

theorem exists_failure_of_generate {d : Diagnostic}
    (h : d ∈ (generate request).run.diagnostics) :
    ∃ e, d ∈ (reportFailure (applyNaming request) e).diagnostics := by
  have ⟨_, _, h⟩ := Processing.mem_diagnostics_filterMapM h
  exact exists_failure_of_attempt h

theorem symbolKind_of_constantOf {name path : String} {segments : List Segment}
    {encoding : SourceEncoding} {d : Definition}
    (h : constantOf name path segments encoding = .ok d) : d.symbolKind = .constant := by
  cases encoding
  case latin1 =>
    cases h
    rfl
  case utf8 =>
    rcases textsFrom_cases 0 segments with ⟨texts, ht, _⟩ | ⟨k, ht, _⟩
    all_goals
      rw [constantOf, ht] at h
      cases h
    rfl

theorem symbolKind_of_embedOne {d : Definition} (h : embedOne request resource config = .ok d) :
    d.symbolKind = .constant := by
  simp only [embedOne, bind_eq_ok, mapError_eq_ok] at h
  obtain ⟨_, _, _, _, hc⟩ := h
  exact symbolKind_of_constantOf hc

theorem symbolKind_of_generate {d : Definition} (h : (generate request).run.value = .ok items)
    (hd : d ∈ items) : d.symbolKind = .constant := by
  have ⟨resource, _, ha⟩ := Processing.exists_of_mem_filterMapM h hd
  rw [attempt] at ha
  split at ha
  case h_1 he =>
    cases ha
    exact symbolKind_of_embedOne he
  case h_2 =>
    split at ha
    case isTrue => cases ha
    case isFalse => split at ha <;> cases ha

end Generator.Embed

end ResourceEmbedding
