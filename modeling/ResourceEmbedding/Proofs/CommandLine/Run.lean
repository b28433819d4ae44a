import ResourceEmbedding.CommandLine.Run
import ResourceEmbedding.Proofs.Staged

namespace ResourceEmbedding.CommandLine

section State

variable {σ ε α β : Type} {x : ExceptT ε (StateM σ) α} {f : α → ExceptT ε (StateM σ) β}
variable {s t : σ} {a : α} {b : β} {e : ε} {r : Except ε α} {r₂ : Except ε β}

-- Work that starts in the state `s` comes to the result `r`, and leaves the state `t`.
def Yields (x : ExceptT ε (StateM σ) α) (s : σ) (r : Except ε α) (t : σ) : Prop :=
  x.run.run s = (r, t)

theorem exists_yields_of_map {γ : Type} {g : α → γ} {c : γ}
    (h : (x.run.run s).1.toOption.map g = some c) : ∃ a t, Yields x s (.ok a) t ∧ g a = c := by
  have ⟨a, ha, hc⟩ := Option.map_eq_some_iff.mp h
  exact ⟨a, _, Prod.ext (toOption_eq_some.mp ha) rfl, hc⟩

theorem yields_mk {y : StateM σ (Except ε α)} : Yields (.mk y) s r t ↔ y.run s = (r, t) :=
  .rfl

theorem run_pure_eq {c d : β} : (pure c : StateM σ β).run s = (d, t) ↔ c = d ∧ s = t := by
  constructor
  case mp =>
    intro h
    cases h
    exact ⟨rfl, rfl⟩
  case mpr =>
    rintro ⟨rfl, rfl⟩
    rfl

theorem yields_lift {z : StateM σ α} :
    Yields (ExceptT.lift z) s r t ↔ ∃ a, z.run s = (a, t) ∧ r = .ok a := by
  constructor
  case mp =>
    intro h
    cases h
    exact ⟨_, rfl, rfl⟩
  case mpr =>
    rintro ⟨a, h, rfl⟩
    exact congrArg (fun p => (Except.ok p.1, p.2)) h

theorem yields_bind :
    Yields (x >>= f) s r₂ t ↔
      (∃ e, Yields x s (.error e) t ∧ r₂ = .error e) ∨
        ∃ a u, Yields x s (.ok a) u ∧ Yields (f a) u r₂ t := by
  simp only [Yields]
  rw [ExceptT.run_bind, StateT.run_bind]
  rcases x.run.run s with ⟨_ | a, u⟩
  case error =>
    constructor
    case mp =>
      intro h
      cases h
      exact .inl ⟨_, rfl, rfl⟩
    case mpr =>
      rintro (⟨_, ⟨⟩, rfl⟩ | ⟨_, _, ⟨⟩, _⟩)
      rfl
  case ok =>
    constructor
    case mp => exact fun h => .inr ⟨a, u, rfl, h⟩
    case mpr =>
      rintro (⟨_, ⟨⟩, _⟩ | ⟨_, _, ⟨⟩, h⟩)
      exact h

theorem yields_bind_ok :
    Yields (x >>= f) s (.ok b) t ↔ ∃ a u, Yields x s (.ok a) u ∧ Yields (f a) u (.ok b) t := by
  simp [yields_bind]

theorem yields_bind_error :
    Yields (x >>= f) s (.error e) t ↔
      Yields x s (.error e) t ∨ ∃ a u, Yields x s (.ok a) u ∧ Yields (f a) u (.error e) t := by
  simp [yields_bind]

theorem yields_pure : Yields (pure a) s r t ↔ Except.ok a = r ∧ s = t :=
  run_pure_eq

theorem yields_throw : Yields (throw e) s r t ↔ Except.error e = r ∧ s = t :=
  run_pure_eq

end State

variable {σ : Type} {fs : FileSystem (StateM σ)} {arguments : GenerateArguments}
variable {s t : σ} {request : Request} {e : Failure} {report : Report} {response : Response}

-- What the arguments and the files in the state `s` draft.
def Drafts (fs : FileSystem (StateM σ)) (arguments : GenerateArguments) (s : σ) (draft : Draft)
    (t : σ) : Prop :=
  ∃ ofFile u settings globs survey v resources,
    (loadSettings fs arguments.settingsFile).run s = (.ok ofFile, u) ∧
    mergeSettings ofFile arguments.settings = .ok settings ∧
    readGlobs arguments.includes = .ok globs ∧
    (fs.survey arguments.root).run u = (some survey, v) ∧
    ((survey.select globs).mapM (openResource fs arguments.root)).run v = (resources, t) ∧
    draft = { draftOf arguments with resources, settings }

theorem yields_survey {r : Except Problem (Option Survey)} :
    Yields (liftM (fs.survey arguments.root)) s r t ↔
      ∃ survey?, (fs.survey arguments.root).run s = (survey?, t) ∧ r = .ok survey? :=
  yields_lift

theorem yields_assemble_ok :
    Yields (assemble fs arguments) s (.ok request) t ↔
      ∃ draft, Drafts fs arguments s draft t ∧ draft.build = .ok request := by
  simp only [assemble, yields_bind_ok, yields_mk, run_pure_eq, yields_survey, Drafts]
  constructor
  case mp =>
    rintro ⟨ofFile, u, hf, settings, _, ⟨hs, rfl⟩, globs, _, ⟨hg, rfl⟩, _, v, ⟨_ | survey, hv, ⟨⟩⟩,
      h⟩
    case none => cases (yields_throw.mp h).1
    case some =>
      simp only [yields_bind_ok, yields_lift, yields_mk, run_pure_eq, mapError_eq_ok] at h
      obtain ⟨resources, _, ⟨_, hr, ⟨⟩⟩, hd, rfl⟩ := h
      exact ⟨_, ⟨ofFile, u, settings, globs, survey, v, resources, hf, hs, hg, hv, hr, rfl⟩, hd⟩
  case mpr =>
    rintro ⟨_, ⟨ofFile, u, settings, globs, survey, v, resources, hf, hs, hg, hv, hr, rfl⟩, hd⟩
    refine ⟨ofFile, u, hf, settings, u, ⟨hs, rfl⟩, globs, u, ⟨hg, rfl⟩, _, v, ⟨_, hv, rfl⟩, ?_⟩
    simp only [yields_bind_ok, yields_lift, yields_mk, run_pure_eq, mapError_eq_ok]
    exact ⟨resources, t, ⟨_, hr, rfl⟩, hd, rfl⟩

theorem loadSettings_ne_request {path : Option String} :
    (loadSettings fs path).run s ≠ (.error (.request e), t) := by
  cases path
  case none => nofun
  case some path =>
    intro h
    have h := congrArg Prod.fst h
    obtain ⟨cause, _, hc⟩ := mapError_eq_error.mp h
    cases cause <;> cases hc

theorem mergeSettings_ne_request {ofFile : List Setting} {given : List String} :
    mergeSettings ofFile given ≠ .error (.request e) := by
  intro h
  rw [mergeSettings, bind_eq_error] at h
  rcases h with h | ⟨_, _, ⟨⟩⟩
  have ⟨text, _, h⟩ := exists_of_mapM_eq_error h
  split at h <;> cases h

theorem readGlobs_ne_request {patterns : List String} :
    readGlobs patterns ≠ .error (.request e) := by
  intro h
  have ⟨_, _, h⟩ := exists_of_mapM_eq_error h
  obtain ⟨_, _, ⟨⟩⟩ := mapError_eq_error.mp h

-- Only a draft makes no request; the stages before it have their own problems.
theorem build_of_yields_assemble (h : Yields (assemble fs arguments) s (.error (.request e)) t) :
    ∃ draft, Drafts fs arguments s draft t ∧ draft.build = .error e := by
  simp only [assemble, yields_bind_error, yields_mk, run_pure_eq, yields_survey] at h
  rcases h with h | ⟨ofFile, u, hf, ⟨h, _⟩ | ⟨settings, _, ⟨hs, rfl⟩, ⟨h, _⟩ | ⟨globs, _, ⟨hg, rfl⟩,
    ⟨_, _, ⟨⟩⟩ | ⟨_, v, ⟨_ | survey, hv, ⟨⟩⟩, h⟩⟩⟩⟩
  · exact absurd h loadSettings_ne_request
  · exact absurd h mergeSettings_ne_request
  · exact absurd h readGlobs_ne_request
  · cases (yields_throw.mp h).1
  · simp only [yields_bind_error, yields_lift, yields_mk, run_pure_eq, mapError_eq_error] at h
    rcases h with ⟨_, _, ⟨⟩⟩ | ⟨resources, _, ⟨_, hr, ⟨⟩⟩, ⟨_, hd, ⟨⟩⟩, rfl⟩
    exact ⟨_, ⟨ofFile, u, settings, globs, survey, v, resources, hf, hs, hg, hv, hr, rfl⟩, hd⟩

theorem yields_report_ok :
    Yields (CommandLine.report fs arguments) s (.ok report) t ↔
      ∃ request, Yields (assemble fs arguments) s (.ok request) t ∧
        let run := Catalog.standard.run request arguments.handler
        report = ⟨run.value, run.diagnostics⟩ := by
  simp only [CommandLine.report, yields_bind_ok, yields_pure, Except.ok.injEq]
  grind

theorem yields_report_error :
    Yields (CommandLine.report fs arguments) s (.error p) t ↔
      Yields (assemble fs arguments) s (.error p) t := by
  simp only [CommandLine.report, yields_bind_error, yields_pure]
  simp

theorem yields_report_of_generate (h : Yields (generate fs arguments) s (.error (.request e)) t) :
    Yields (CommandLine.report fs arguments) s (.error (.request e)) t := by
  rcases yields_bind_error.mp h with h | ⟨report, u, _, h⟩
  · exact h
  cases ho : arguments.out
  case none =>
    rw [ho] at h
    cases (yields_pure.mp h).1
  case some path =>
    rw [ho] at h
    rcases yields_bind_error.mp h with h | ⟨written, v, _, h⟩
    · obtain ⟨_, _, ⟨⟩⟩ := yields_lift.mp h
    · cases written
      case ok         => cases (yields_pure.mp h).1
      case error cause => cases (yields_throw.mp h).1

end ResourceEmbedding.CommandLine
