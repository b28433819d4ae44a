import Mathlib.Data.String.Basic
import ResourceEmbedding.Generator.Basic
import ResourceEmbedding.Proofs.Generation.Logged

namespace ResourceEmbedding

theorem orderByPath_of_ordered {resources : List Resource}
    (h : resources.Pairwise (·.path < ·.path)) : orderByPath resources = resources :=
  List.mergeSort_of_pairwise (h.imp fun lt => decide_eq_true (le_of_lt lt))

theorem Draft.build_of_ordered {d : Draft} (h : d.resources.Pairwise (·.path < ·.path)) :
    d.build = .ok ⟨d, h⟩ := by
  have ho := orderByPath_of_ordered h
  simp only [build, ho, h, dif_pos]

theorem Failure.isMissing_ofStream (path : String) (cause : StreamFailure) :
    (ofStream path cause).isMissing = decide (cause.kind = .notFound) := by
  rw [ofStream]
  split <;> simp_all [isMissing]

theorem Request.diagnostics_report (request : Request) (severity : Severity) (message : String) :
    (request.report severity message).diagnostics = [⟨severity, message, some request.site⟩] :=
  rfl

theorem Reporter.diagnostics_report (r : Reporter) (request : Request) (message : String) :
    (r.report request message).diagnostics =
      (r.level request).severity?.toList.map (⟨·, message, some request.site⟩) := by
  simp only [Reporter.report]
  cases (r.level request).severity? <;> rfl

namespace Generator

variable {request : Request} {e : Failure}

theorem applyNaming_toDraft (request : Request) :
    ∃ namer, (applyNaming request).toDraft = { request.toDraft with namer } := by
  rw [applyNaming]
  split
  case h_1 strategy _ => exact ⟨Namer.ofStrategy strategy, rfl⟩
  case h_2            => exact ⟨request.namer, rfl⟩

@[simp] theorem site_applyNaming (request : Request) :
    (applyNaming request).site = request.site := by
  have ⟨_, h⟩ := applyNaming_toDraft request
  rw [h]

@[simp] theorem resources_applyNaming (request : Request) :
    (applyNaming request).resources = request.resources := by
  have ⟨_, h⟩ := applyNaming_toDraft request
  rw [h]

@[simp] theorem settings_applyNaming (request : Request) :
    (applyNaming request).settings = request.settings := by
  have ⟨_, h⟩ := applyNaming_toDraft request
  rw [h]

@[simp] theorem level_applyNaming (r : Reporter) (request : Request) :
    r.level (applyNaming request) = r.level request := by
  simp only [Reporter.level, Request.setting?, settings_applyNaming]

-- Reports the failure of one resource, at the level chosen for those that are missing.
def reportFailure (request : Request) (e : Failure) : Logged Unit :=
  if e.isMissing then do let _ ← onMissing.report request e.message
  else request.error e.message

theorem diagnostics_reportFailure (request : Request) (e : Failure) :
    (reportFailure request e).diagnostics =
      if e.isMissing then
        (onMissing.level request).severity?.toList.map (⟨·, e.message, some request.site⟩)
      else [⟨.error, e.message, some request.site⟩] := by
  rw [reportFailure]
  split
  case isTrue  => simp [Reporter.diagnostics_report]
  case isFalse => rfl

end Generator

end ResourceEmbedding
