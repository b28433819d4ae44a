import ResourceEmbedding.Proofs.Generator.Catalog

namespace ResourceEmbedding

def Request.only (request : Request) (resource : Resource) : Request :=
  { request with resources := [resource], ordered := List.pairwise_singleton .. }

-- The message names the path, in back quotes.
def Names (message path : String) : Prop :=
  ∃ before after, message = before ++ "\x60" ++ path ++ "\x60" ++ after

theorem names_between (before path after : String) :
    Names (before ++ "\x60" ++ path ++ ("\x60" ++ after)) path :=
  ⟨before, after, by simp only [String.append_assoc]⟩

theorem Names.append {message path : String} (h : Names message path) (more : String) :
    Names (message ++ more) path := by
  have ⟨before, after, hm⟩ := h
  exact ⟨before, after ++ more, by rw [hm, String.append_assoc]⟩

namespace Failure

theorem names_ofStream (path : String) (cause : StreamFailure) :
    Names (ofStream path cause).message path := by
  rw [ofStream]
  split
  case isTrue  => exact names_between "Resource " path " is missing"
  case isFalse =>
    exact (names_between "Resource " path " could not be read: ").append cause.message

theorem names_encoding (path : String) (cause : SegmentError) :
    Names (encoding path cause).message path :=
  (names_between "Failed to encode " path ": ").append cause.message

theorem names_ofSegment (path : String) (cause : SegmentError) :
    Names (ofSegment path cause).message path := by
  cases cause
  case stream cause => exact names_ofStream path cause
  all_goals exact names_encoding path _

-- What the failure of a resource goes back to.
def cause? : Failure → Option SegmentError
  | resourceMissing _ cause | resourceUnreadable _ cause => some (.stream cause)
  | encoding _ cause => some cause
  | _ => none

theorem cause?_ofSegment (path : String) (cause : SegmentError) :
    (ofSegment path cause).cause? = some cause := by
  cases cause
  case stream cause =>
    rw [ofSegment, ofStream]
    split <;> rfl
  all_goals rfl

theorem ofSegment_injective (path : String) : Function.Injective (ofSegment path) := by
  intro a b h
  have h := congrArg cause? h
  rwa [cause?_ofSegment, cause?_ofSegment, Option.some_inj] at h

end Failure

namespace Generator

variable {g : Generator} {request : Request} {resource : Resource} {cause : SegmentError}
variable {config : SegmentConfig} {items : List Definition}
variable {hinders : SegmentError → Prop} {yields : List Definition → Prop}

-- How a resource is accounted for: it yields its definitions, or what hinders them is reported, and
-- that at the level chosen for it if there is no such resource.
inductive Accounted (request : Request) (resource : Resource) (hinders : SegmentError → Prop)
    (yields : List Definition → Prop) : Logged (List Definition) → Prop
  | made {items : List Definition} :
    (∀ e, ¬hinders e) → yields items → (∀ d ∈ items, d.origin = resource.path) →
    Accounted request resource hinders yields ⟨items, []⟩
  | missing {cause : StreamFailure} {message : String} :
    (∀ e, hinders e ↔ e = .stream cause) → cause.kind = .notFound →
    message = (Failure.ofStream resource.path cause).message → Names message resource.path →
    Accounted request resource hinders yields
      ⟨[], (onMissing.level request).severity?.toList.map (⟨·, message, some request.site⟩)⟩
  | failed {cause : SegmentError} {message : String} :
    (∀ e, hinders e ↔ e = cause) → (∀ s, cause = .stream s → s.kind ≠ .notFound) →
    message = (Failure.ofSegment resource.path cause).message → Names message resource.path →
    Accounted request resource hinders yields ⟨[], [⟨.error, message, some request.site⟩]⟩

theorem accounted_of_hindered (h : ∀ e, hinders e ↔ e = cause) :
    Accounted request resource hinders yields
      ⟨[], (reportFailure request (.ofSegment resource.path cause)).diagnostics⟩ := by
  rw [diagnostics_reportFailure]
  cases cause
  case stream cause =>
    rw [Failure.ofSegment, Failure.isMissing_ofStream]
    by_cases hc : cause.kind = .notFound
    case pos =>
      simp only [hc, decide_true, if_true]
      exact .missing h hc rfl (Failure.names_ofStream ..)
    case neg =>
      simp only [hc, decide_false, Bool.false_eq_true, if_false]
      exact .failed h (by rintro _ ⟨⟩; exact hc) rfl (Failure.names_ofStream ..)
  all_goals exact .failed h nofun rfl (Failure.names_ofSegment ..)

theorem diagnostics_reportFailure_applyNaming (request : Request) (e : Failure) :
    (reportFailure (applyNaming request) e).diagnostics = (reportFailure request e).diagnostics := by
  rw [diagnostics_reportFailure, diagnostics_reportFailure, level_applyNaming, site_applyNaming]

namespace Embed

-- What hinders that a resource is embedded: it is not opened or not read to its end, it is not in
-- the encoding, or one of the pieces of its units is no text.
inductive Hinders (config : SegmentConfig) (resource : Resource) : SegmentError → Prop
  | opening {cause : StreamFailure} :
    resource.opening = .error cause → Hinders config resource (.stream cause)
  | decoding {source : Source} {cause : SegmentError} :
    resource.opening = .ok source → (Decoder.start source config.encoding).Fails cause →
    Hinders config resource cause
  | converting {source : Source} {units : List UInt16} {k : Nat} :
    resource.opening = .ok source → source.failure? = none → config.encoding = .utf8 →
    Decodes .utf8 source.delivered units → FirstWithoutText (pieces config.maxBytes units) k →
    Hinders config resource (.splitSurrogate k)

-- One constant, of the kind that the encoding asks for.
inductive Yields (config : SegmentConfig) (resource : Resource) : List Definition → Prop
  | text {name : String} {texts : List String} {size : Nat} :
    config.encoding = .utf8 →
    Yields config resource [.textConstant name resource.path texts size]
  | bytes {name : String} {texts : List String} {length : Nat} :
    config.encoding = .latin1 →
    Yields config resource [.bytesConstant name resource.path texts length]

theorem Yields.origin (h : Yields config resource items) : ∀ d ∈ items, d.origin = resource.path := by
  cases h <;> simp [Definition.origin]

section

variable (hb : leastBudget ≤ config.maxBytes)
include hb

theorem embedOne_of_hinders (h : Hinders config resource cause) :
    embedOne request resource config = .error (.ofSegment resource.path cause) := by
  cases h
  case opening ho     => exact embedOne_of_opening_error ho
  case decoding ho hf => exact embedOne_of_error ho ((segments_eq_error_iff hb).mpr hf)
  case converting ho hf he hd hk =>
    rw [embedOne_of_segments ho (segments_of_decodes hb hf (he ▸ hd)), he, constantOf,
      textsFrom_of_first hk]
    rfl

theorem embedOne_cases (request : Request) (resource : Resource) :
    (∃ d, embedOne request resource config = .ok d ∧ Yields config resource [d]) ∨
      ∃ cause, Hinders config resource cause := by
  cases ho : resource.opening
  case error cause => exact .inr ⟨_, .opening ho⟩
  case ok source =>
    rcases segments_cases source hb with ⟨units, hf, hd, hs⟩ | ⟨cause, hc, _⟩
    case inr => exact .inr ⟨_, .decoding ho hc⟩
    case inl =>
      rw [embedOne_of_segments ho hs]
      cases he : config.encoding
      case latin1 => exact .inl ⟨_, rfl, .bytes he⟩
      case utf8 =>
        rcases textsFrom_cases 0 (pieces config.maxBytes units) with ⟨texts, ht, _⟩ | ⟨k, _, hk⟩
        · exact .inl ⟨_, by rw [constantOf, ht]; rfl, .text he⟩
        · exact .inr ⟨_, .converting ho hf he (he ▸ hd) hk⟩

-- There is one failure at most.
theorem Hinders.iff_eq (h : Hinders config resource cause) (e : SegmentError) :
    Hinders config resource e ↔ e = cause := by
  constructor
  case mp =>
    intro he
    let request : Request := ⟨{}, .nil⟩
    have hc : embedOne request resource config = .error (.ofSegment resource.path cause) :=
      embedOne_of_hinders hb h
    rw [embedOne_of_hinders hb he] at hc
    exact Failure.ofSegment_injective _ (Except.error.inj hc)
  case mpr => exact (· ▸ h)

end

def accountFor (request : Request) (resource : Resource) : Logged (List Definition) :=
  (·.toList) <$> account (applyNaming request) (Embed.config request) resource

theorem config_applyNaming (request : Request) :
    Embed.config (applyNaming request) = Embed.config request := by
  rw [Embed.config, Embed.config, isBinary, isBinary, settings_applyNaming]

theorem run_generate (h : BudgetAccepted request.settings) :
    (generate request).run =
      ⟨.ok (request.resources.flatMap fun r => (accountFor request r).value),
        request.resources.flatMap fun r => (accountFor request r).diagnostics⟩ := by
  rw [generate_eq_liftM h, ExceptT.run_liftM, config_applyNaming]
  apply congrArg₂ Logged.mk
  case hx => simp [Logged.value_filterMapM, List.filterMap_eq_flatMap_toList, accountFor]
  case hy => simp [Logged.diagnostics_filterMapM, accountFor]

theorem accounted (h : BudgetAccepted request.settings) (resource : Resource) :
    Accounted request resource (Hinders (Embed.config request) resource)
      (Yields (Embed.config request) resource) (accountFor request resource) := by
  have hb := leastBudget_le_config h
  rcases embedOne_cases hb (applyNaming request) resource with ⟨d, hd, hy⟩ | ⟨cause, hc⟩
  · have hn (e : SegmentError) : ¬Hinders (Embed.config request) resource e := by
      intro he
      cases hd.symm.trans (embedOne_of_hinders hb he)
    have ha : accountFor request resource = ⟨[d], []⟩ := by
      rw [accountFor, account, hd]
      rfl
    exact ha ▸ .made hn hy hy.origin
  · have ha : accountFor request resource =
        ⟨[], (reportFailure request (.ofSegment resource.path cause)).diagnostics⟩ := by
      rw [accountFor, account, embedOne_of_hinders hb hc, ← diagnostics_reportFailure_applyNaming]
      apply congrArg₂ Logged.mk
      case hx => rfl
      case hy => simp
    exact ha ▸ accounted_of_hindered (hc.iff_eq hb)

end Embed

namespace Lazy

inductive Hinders (resource : Resource) : SegmentError → Prop
  | opening {cause : StreamFailure} :
    resource.opening = .error cause → Hinders resource (.stream cause)

-- An accessor and, if those are asked for, a constant with the path.
def Yields (request : Request) (resource : Resource) (items : List Definition) : Prop :=
  ∃ accessor constant, items = .lazyAccessor accessor resource.path (isBinary request) ::
    if Settings.getBool request.settings "path_constants" false then
      [.pathConstant constant resource.path]
    else []

theorem Yields.origin (h : Yields request resource items) :
    ∀ d ∈ items, d.origin = resource.path := by
  obtain ⟨accessor, constant, rfl⟩ := h
  split <;> simp [Definition.origin]

theorem run_generate (request : Request) :
    (generate request).run =
      ⟨.ok (request.resources.flatMap fun r => (definitionsOf (applyNaming request) r).value),
        request.resources.flatMap fun r => (definitionsOf (applyNaming request) r).diagnostics⟩ := by
  rw [generate, ExceptT.run_liftM]
  apply congrArg₂ Logged.mk
  case hx => simp [definitions, Logged.value_mapM, List.flatMap_def]
  case hy => simp [definitions, Logged.diagnostics_mapM]

theorem definitionsOf_of_error {cause : StreamFailure} (ho : resource.opening = .error cause) :
    definitionsOf request resource =
      ⟨[], (reportFailure request (.ofStream resource.path cause)).diagnostics⟩ := by
  simp only [definitionsOf, ho, reportFailure]
  by_cases hm : (Failure.ofStream resource.path cause).isMissing
  case pos =>
    simp only [hm, if_true]
    exact congrArg₂ Logged.mk rfl (by simp)
  case neg =>
    simp only [hm, Bool.false_eq_true, if_false]
    exact congrArg₂ Logged.mk rfl (by simp)

theorem yields_of_ok {source : Source} (ho : resource.opening = .ok source) :
    ∃ items, definitionsOf request resource = ⟨items, []⟩ ∧ Yields request resource items := by
  simp only [definitionsOf, ho, Yields]
  split
  case isTrue  => exact ⟨_, rfl, _, _, rfl⟩
  case isFalse => exact ⟨_, rfl, _, "", rfl⟩

theorem yields_applyNaming (h : Yields (applyNaming request) resource items) :
    Yields request resource items := by
  rwa [Yields, isBinary, settings_applyNaming] at h

theorem accounted (request : Request) (resource : Resource) :
    Accounted request resource (Hinders resource) (Yields request resource)
      (definitionsOf (applyNaming request) resource) := by
  cases ho : resource.opening
  case ok source =>
    have ⟨items, hd, hy⟩ := @yields_of_ok (applyNaming request) _ _ ho
    have hn (e : SegmentError) : ¬Hinders resource e := by
      rintro ⟨he⟩
      cases ho.symm.trans he
    exact hd ▸ .made hn (yields_applyNaming hy) hy.origin
  case error cause =>
    have hi (e : SegmentError) : Hinders resource e ↔ e = .stream cause := by
      constructor
      case mp =>
        rintro ⟨he⟩
        cases ho.symm.trans he
        rfl
      case mpr =>
        rintro rfl
        exact .opening ho
    rw [definitionsOf_of_error ho, diagnostics_reportFailure_applyNaming]
    exact accounted_of_hindered hi

end Lazy

end Generator

end ResourceEmbedding
