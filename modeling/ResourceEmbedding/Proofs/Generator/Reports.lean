import ResourceEmbedding.Proofs.Generator.Signature

namespace ResourceEmbedding

-- Of members told apart by `R`, one at most is picked by a property that it rules out for two.
theorem filter_eq_toList {R : α → α → Prop} {p : α → Bool} {as : List α} {o : Option α}
    (hr : as.Pairwise R) (hp : ∀ a b, R a b → p a → ¬p b) (ho : ∀ a, a ∈ as ∧ p a ↔ o = some a) :
    as.filter p = o.toList := by
  simp only [← List.mem_filter] at ho
  have hr := hr.filter p
  cases hf : as.filter p
  case nil =>
    cases o
    case none   => rfl
    case some a =>
      have hm := (ho a).mpr rfl
      rw [hf] at hm
      cases hm
  case cons a rest =>
    have hm : a ∈ as.filter p := hf ▸ List.mem_cons_self
    rw [(ho a).mp hm]
    cases rest
    case nil         => rfl
    case cons b rest =>
      have hb : b ∈ as.filter p := by simp [hf]
      rw [hf, List.pairwise_cons] at hr
      exact absurd (List.mem_filter.mp hb).2
        (hp a b (hr.1 b List.mem_cons_self) (List.mem_filter.mp hm).2)

namespace Generator.Messages

inductive Subject
  | other (path : String)
  | bundle (path : String)
  | file (bundle locale : String)
  | message (bundle key : String)
deriving DecidableEq

def Subject.bundle? : Subject → Option String
  | other _ => none
  | bundle path | file path _ | message path _ => some path

structure Report where
  subject : Subject
  level : ReportLevel
  message : String
deriving DecidableEq

variable {request : Request} {resource : Resource} {bundle : Bundle} {path key locale : String}
variable {e : Failure} {templates : KeyMap String} {template : String}

-- A report is one diagnostic, unless its level is to ignore it.
def Report.diagnostics (request : Request) (r : Report) : List Diagnostic :=
  r.level.severity?.toList.map (⟨·, r.message, some request.site⟩)

-- There is no such resource, which is found out when it is opened or while it is read.
def isNotFound (resource : Resource) : Bool :=
  match resource.readAll with
  | .ok _ => false
  | .error cause => cause.kind = .notFound

def fileLevel (request : Request) (resource : Resource) : ReportLevel :=
  if isNotFound resource then onMissing.level request else .error

def fileReport? (request : Request) (path : String) (e : String × Resource) : Option Report :=
  match readFile e.2 with
  | .ok _ => none
  | .error failure => some ⟨.file path e.1, fileLevel request e.2, failure.message⟩

def messageReport? (request : Request) (path : String) (bundle : Bundle)
    (e : String × KeyMap String) : Option Report :=
  match functionOf request.namer path e.1 e.2 bundle.size with
  | .ok _ => none
  | .error problem => some ⟨.message path e.1, onBadTemplate.level request, problem⟩

def bundleReports (request : Request) (path : String) (bundle : Bundle) : List Report :=
  (if (bundle.get? "").isNone then
    [⟨.bundle path, .warning, (noDefaultWarning request path).message⟩] else []) ++
  bundle.entries.filterMap (fileReport? request path) ++
  (load request bundle).value.entries.filterMap (messageReport? request path bundle)

-- All reports of the handler, in their order. Those about embedded files are not its own.
def reports (request : Request) : List Report :=
  (request.resources.filter fun r => (BundleFile.ofResource? r).isNone).map
    (fun r => ⟨.other r.path, .warning, (otherWarning request r).message⟩) ++
  (bundlesOf request.resources).entries.flatMap fun e => bundleReports request e.1 e.2

section Run

-- Only the stream of a file can miss: a text that is malformed is there.
theorem isMissing_of_readFile (h : readFile resource = .error e) :
    e.isMissing = isNotFound resource := by
  simp only [readFile, bind_eq_error, mapError_eq_error, mapError_eq_ok] at h
  rw [isNotFound]
  rcases h with ⟨cause, hr, rfl⟩ | ⟨bytes, hr, ⟨_, _, rfl⟩ | ⟨_, _, _, _, rfl⟩⟩
  · rw [hr]
    exact Failure.isMissing_ofStream ..
  · rw [hr]
    rfl
  · rw [hr]
    rfl

theorem diagnostics_fileReport (subject : Subject) (h : readFile resource = .error e) :
    Report.diagnostics request ⟨subject, fileLevel request resource, e.message⟩ =
      (reportFailure request e).diagnostics := by
  rw [diagnostics_reportFailure, isMissing_of_readFile h, Report.diagnostics, fileLevel]
  split <;> rfl

theorem flatMap_diagnostics_filterMap (f : α → Option Report) (g : α → List Diagnostic)
    (h : ∀ a, (f a).toList.flatMap (·.diagnostics request) = g a) (as : List α) :
    (as.filterMap f).flatMap (·.diagnostics request) = as.flatMap g := by
  induction as
  case nil => rfl
  case cons a as hi =>
    rw [List.flatMap_cons, ← hi, ← h a, List.filterMap_cons]
    cases f a <;> simp

theorem diagnostics_filesOf (request : Request) (path : String) (bundle : Bundle) :
    (bundle.entries.filterMap (fileReport? request path)).flatMap (·.diagnostics request) =
      (load request bundle).diagnostics := by
  rw [diagnostics_load]
  refine flatMap_diagnostics_filterMap _ _ (fun e => ?_) _
  rw [fileReport?]
  cases hr : readFile e.2
  case ok            => rfl
  case error failure => simp [diagnostics_fileReport _ hr]

theorem diagnostics_makeFunction (request : Request) (path : String) (bundle : Bundle)
    (e : String × KeyMap String) :
    (messageReport? request path bundle e).toList.flatMap (·.diagnostics request) =
      (makeFunction request path bundle e).diagnostics := by
  rw [messageReport?, makeFunction]
  cases functionOf request.namer path e.1 e.2 bundle.size
  case ok f          => rfl
  case error problem => simp [Reporter.diagnostics_report, Report.diagnostics]

theorem diagnostics_bundleReports (request : Request) (path : String) (bundle : Bundle) :
    (bundleReports request path bundle).flatMap (·.diagnostics request) =
      (functionsOf request path bundle).diagnostics := by
  rw [diagnostics_functionsOf, bundleReports, List.flatMap_append, List.flatMap_append,
    diagnostics_filesOf,
    flatMap_diagnostics_filterMap _ _ (diagnostics_makeFunction request path bundle)]
  split <;> rfl

theorem diagnostics_reports (request : Request) :
    (reports request).flatMap (·.diagnostics request) = (functions request).diagnostics := by
  rw [diagnostics_functions, diagnostics_warnOfOthers, reports, List.flatMap_append,
    List.flatMap_assoc, List.flatMap_map]
  simp only [diagnostics_bundleReports]
  rw [List.map_eq_flatMap]
  rfl

end Run

section Apart

variable {r : Report}

theorem subject_of_fileReport? {file : String × Resource}
    (h : fileReport? request path file = some r) : r.subject = .file path file.1 := by
  rw [fileReport?] at h
  split at h <;> cases h
  rfl

theorem subject_of_messageReport? {message : String × KeyMap String}
    (h : messageReport? request path bundle message = some r) :
    r.subject = .message path message.1 := by
  rw [messageReport?] at h
  split at h <;> cases h
  rfl

theorem mem_bundleReports :
    r ∈ bundleReports request path bundle ↔
      ((bundle.get? "").isNone ∧
        r = ⟨.bundle path, .warning, (noDefaultWarning request path).message⟩) ∨
      (∃ locale resource, bundle.get? locale = some resource ∧
        fileReport? request path (locale, resource) = some r) ∨
      ∃ key templates, (load request bundle).value.get? key = some templates ∧
        messageReport? request path bundle (key, templates) = some r := by
  simp only [bundleReports, List.mem_append, List.mem_filterMap, Prod.exists,
    KeyMap.mem_entries_iff, or_assoc]
  split <;> simp_all

theorem bundle?_of_mem_bundleReports (h : r ∈ bundleReports request path bundle) :
    r.subject.bundle? = some path := by
  rcases mem_bundleReports.mp h with ⟨_, rfl⟩ | ⟨_, _, _, h⟩ | ⟨_, _, _, h⟩
  · rfl
  · rw [subject_of_fileReport? h]
    rfl
  · rw [subject_of_messageReport? h]
    rfl

def Apart (r s : Report) : Prop :=
  r.subject ≠ s.subject

-- The entries of a map are reported apart, if their keys say what the reports are about.
theorem pairwise_filterMap_entries {m : KeyMap β} {f : String × β → Option Report}
    {subject : String → Subject} (hi : Function.Injective subject)
    (hs : ∀ e r, f e = some r → r.subject = subject e.1) :
    (m.entries.filterMap f).Pairwise Apart := by
  refine List.pairwise_filterMap.mpr (m.sorted.imp fun lt r hr s hs₂ => ?_)
  rw [Apart, hs _ r hr, hs _ s hs₂]
  exact hi.ne (ne_of_lt lt)

-- Within a group the keys tell the reports apart, and across groups the kinds of their subjects.
theorem pairwise_bundleReports (request : Request) (path : String) (bundle : Bundle) :
    (bundleReports request path bundle).Pairwise Apart := by
  rw [bundleReports, List.append_assoc]
  refine List.pairwise_append.mpr ⟨by split <;> simp, ?inner, ?outer⟩
  case inner =>
    refine List.pairwise_append.mpr ⟨?files, ?messages, ?apart⟩
    case files =>
      refine @pairwise_filterMap_entries _ _ _ (.file path) ?_ fun _ _ => subject_of_fileReport?
      exact fun _ _ h => (Subject.file.inj h).2
    case messages =>
      refine @pairwise_filterMap_entries _ _ _ (.message path) ?_
        fun _ _ => subject_of_messageReport?
      exact fun _ _ h => (Subject.message.inj h).2
    case apart =>
      intro r hr s hs
      have ⟨_, _, hr⟩ := List.mem_filterMap.mp hr
      have ⟨_, _, hs⟩ := List.mem_filterMap.mp hs
      rw [Apart, subject_of_fileReport? hr, subject_of_messageReport? hs]
      nofun
  case outer =>
    intro r hr s hs
    have hr : r.subject = .bundle path := by
      split at hr <;> cases hr <;> trivial
    rw [Apart, hr]
    rcases List.mem_append.mp hs with hs | hs
    all_goals have ⟨_, _, hs⟩ := List.mem_filterMap.mp hs
    · rw [subject_of_fileReport? hs]
      nofun
    · rw [subject_of_messageReport? hs]
      nofun

theorem pairwise_reports (request : Request) : (reports request).Pairwise Apart := by
  refine List.pairwise_append.mpr ⟨?others, ?bundles, ?apart⟩
  case others =>
    refine List.pairwise_map.mpr ((request.ordered.filter _).imp fun lt => ?_)
    simp [Apart, ne_of_lt lt]
  case bundles =>
    refine List.pairwise_flatMap.mpr ⟨fun _ _ => pairwise_bundleReports .., ?_⟩
    refine (bundlesOf request.resources).sorted.imp fun lt r hr s hs h => ?_
    have h := congrArg Subject.bundle? h
    rw [bundle?_of_mem_bundleReports hr, bundle?_of_mem_bundleReports hs] at h
    exact ne_of_lt lt (Option.some_inj.mp h)
  case apart =>
    intro r hr s hs h
    obtain ⟨_, _, rfl⟩ := List.mem_map.mp hr
    have ⟨_, _, hs⟩ := List.mem_flatMap.mp hs
    have h := congrArg Subject.bundle? h
    rw [bundle?_of_mem_bundleReports hs] at h
    cases h

def reportsOn (request : Request) (subject : Subject) : List Report :=
  (reports request).filter (·.subject = subject)

theorem reportsOn_eq_toList {subject : Subject} {o : Option Report}
    (h : ∀ r, r ∈ reports request ∧ r.subject = subject ↔ o = some r) :
    reportsOn request subject = o.toList := by
  refine filter_eq_toList (pairwise_reports request) (fun r s ha hr hs => ?_) (by simpa using h)
  simp only [decide_eq_true_eq] at hr hs
  exact ha (hr.trans hs.symm)

section
variable (hb : (bundlesOf request.resources).get? path = some bundle)
include hb

theorem mem_reports_iff (hs : r.subject.bundle? = some path) :
    r ∈ reports request ↔ r ∈ bundleReports request path bundle := by
  simp only [reports, List.mem_append, List.mem_map, List.mem_flatMap, Prod.exists,
    KeyMap.mem_entries_iff]
  constructor
  case mp =>
    rintro (⟨_, _, rfl⟩ | ⟨path₂, bundle₂, hb₂, hm⟩)
    · cases hs
    · rw [bundle?_of_mem_bundleReports hm] at hs
      cases hs
      cases hb.symm.trans hb₂
      exact hm
  case mpr =>
    intro hm
    exact .inr ⟨path, bundle, hb, hm⟩

theorem reportsOn_file (hl : bundle.get? locale = some resource) :
    reportsOn request (.file path locale) =
      (fileReport? request path (locale, resource)).toList := by
  refine reportsOn_eq_toList fun r => ⟨fun ⟨hm, hs⟩ => ?_, fun hr => ?_⟩
  · rw [mem_reports_iff hb (by rw [hs]; rfl), mem_bundleReports] at hm
    rcases hm with ⟨_, rfl⟩ | ⟨locale₂, resource₂, hl₂, hr⟩ | ⟨_, _, _, hr⟩
    · cases hs
    · cases hs.symm.trans (subject_of_fileReport? hr)
      cases hl.symm.trans hl₂
      exact hr
    · cases hs.symm.trans (subject_of_messageReport? hr)
  · have hs := subject_of_fileReport? hr
    rw [mem_reports_iff hb (by rw [hs]; rfl), mem_bundleReports]
    exact ⟨.inr (.inl ⟨locale, resource, hl, hr⟩), hs⟩

theorem reportsOn_message (hm : (load request bundle).value.get? key = some templates) :
    reportsOn request (.message path key) =
      (messageReport? request path bundle (key, templates)).toList := by
  refine reportsOn_eq_toList fun r => ⟨fun ⟨hr, hs⟩ => ?_, fun hr => ?_⟩
  · rw [mem_reports_iff hb (by rw [hs]; rfl), mem_bundleReports] at hr
    rcases hr with ⟨_, rfl⟩ | ⟨_, _, _, hr⟩ | ⟨key₂, templates₂, hm₂, hr⟩
    · cases hs
    · cases hs.symm.trans (subject_of_fileReport? hr)
    · cases hs.symm.trans (subject_of_messageReport? hr)
      cases hm.symm.trans hm₂
      exact hr
  · have hs := subject_of_messageReport? hr
    rw [mem_reports_iff hb (by rw [hs]; rfl), mem_bundleReports]
    exact ⟨.inr (.inr ⟨key, templates, hm, hr⟩), hs⟩

end

end Apart

end Generator.Messages

end ResourceEmbedding
