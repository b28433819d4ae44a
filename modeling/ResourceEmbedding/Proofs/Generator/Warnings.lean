import ResourceEmbedding.Proofs.Generator.Signature

namespace ResourceEmbedding

theorem getLast?_toList_append (s : String) {t : String} {c : Char}
    (h : t.toList.getLast? = some c) : (s ++ t).toList.getLast? = some c := by
  rw [String.toList_append, List.getLast?_append, h]
  rfl

namespace Generator.Messages

variable {request derived : Request} {bundle : Bundle} {r s : Resource} {d : Diagnostic}
variable {path : String}

-- A report of a failure or of a bad template. It is an error, unless its level is chosen.
def IsReport (d : Diagnostic) : Prop :=
  d.severity = .error ∨ (∃ rest, d.message = "Key \x60" ++ rest) ∨
    ∃ front, d.message = front ++ "\x60 is missing"

-- A message that starts and ends in other letters belongs to no report.
theorem not_isReport {first last : Char} (hs : d.severity ≠ .error)
    (hf : d.message.toList.head? = some first) (hl : d.message.toList.getLast? = some last)
    (hk : first ≠ 'K') (hg : last ≠ 'g') : ¬IsReport d := by
  rintro (h | ⟨rest, h⟩ | ⟨front, h⟩)
  · exact hs h
  · rw [h] at hf
    simp at hf
    exact hk hf.symm
  · have hm : (front ++ "\x60 is missing").toList.getLast? = some 'g' :=
      getLast?_toList_append front (by decide)
    rw [h, hm] at hl
    exact hg (Option.some_inj.mp hl).symm

theorem head?_otherWarning : (otherWarning request r).message.toList.head? = some 'R' := by
  simp [otherWarning, toString]

theorem head?_noDefaultWarning :
    (noDefaultWarning request path).message.toList.head? = some 'B' := by
  simp [noDefaultWarning, toString]

theorem getLast?_otherWarning : (otherWarning request r).message.toList.getLast? = some 'd' :=
  getLast?_toList_append _ (t := " bundle and was ignored") (by decide)

theorem getLast?_noDefaultWarning :
    (noDefaultWarning request path).message.toList.getLast? = some 'e' :=
  getLast?_toList_append _ (t := "lookups fall back to the first locale") (by decide)

theorem not_isReport_otherWarning : ¬IsReport (otherWarning request r) :=
  not_isReport nofun head?_otherWarning getLast?_otherWarning (by decide) (by decide)

theorem not_isReport_noDefaultWarning : ¬IsReport (noDefaultWarning request path) :=
  not_isReport nofun head?_noDefaultWarning getLast?_noDefaultWarning (by decide) (by decide)

theorem otherWarning_ne_noDefaultWarning :
    otherWarning request r ≠ noDefaultWarning request path := by
  intro h
  have h := head?_otherWarning.symm.trans (h ▸ head?_noDefaultWarning)
  cases h

theorem isReport_of_reportFailure {e : Failure} (h : d ∈ (reportFailure request e).diagnostics) :
    IsReport d := by
  rw [diagnostics_reportFailure] at h
  split at h
  case isTrue hm =>
    obtain ⟨_, _, rfl⟩ := List.mem_map.mp h
    cases e
    case resourceMissing => exact .inr (.inr ⟨_, rfl⟩)
    all_goals cases hm
  case isFalse =>
    cases List.mem_singleton.mp h
    exact .inl rfl

theorem isReport_of_load (h : d ∈ (load request bundle).diagnostics) : IsReport d := by
  rw [diagnostics_load] at h
  obtain ⟨e, _, h⟩ := List.mem_flatMap.mp h
  split at h
  case h_1 => cases h
  case h_2 => exact isReport_of_reportFailure h

theorem isReport_of_makeFunction {e : String × KeyMap String}
    (h : d ∈ (makeFunction request path bundle e).diagnostics) : IsReport d := by
  rw [makeFunction] at h
  split at h
  case h_1 => cases h
  case h_2 problem hf =>
    rw [Logged.diagnostics_bind, Reporter.diagnostics_report] at h
    simp only [Logged.diagnostics_pure, List.append_nil] at h
    obtain ⟨_, _, rfl⟩ := List.mem_map.mp h
    exact .inr (.inl (exists_of_functionOf_eq_error hf))

theorem mem_diagnostics_functionsOf (h : d ∈ (functionsOf request path bundle).diagnostics) :
    IsReport d ∨ bundle.get? "" = none ∧ d = noDefaultWarning request path := by
  rw [diagnostics_functionsOf] at h
  simp only [List.mem_append, List.mem_flatMap] at h
  rcases h with (h | h) | ⟨e, _, h⟩
  · split at h
    case isTrue hn =>
      exact .inr ⟨by simpa using hn, List.mem_singleton.mp h⟩
    case isFalse => cases h
  · exact .inl (isReport_of_load h)
  · exact .inl (isReport_of_makeFunction h)

theorem isReport_of_embed (h : d ∈ (Embed.generate request).run.diagnostics) : IsReport d := by
  have ⟨_, h⟩ := Embed.exists_failure_of_generate h
  exact isReport_of_reportFailure h

theorem diagnostics_generate (request : Request) :
    ∃ tail, (generate request).run.diagnostics =
      (functions (applyNaming request)).diagnostics ++ tail ∧ ∀ d ∈ tail, IsReport d := by
  by_cases he : Settings.getBool request.settings "embed_source" false
  case neg => exact ⟨[], by simp [run_generate_plain he], nofun⟩
  case pos =>
    have ⟨derived, hd, _⟩ := exists_embedRequest (applyNaming request)
    exact ⟨_, by rw [run_generate_embedding he hd], fun _ => isReport_of_embed⟩

@[simp] theorem otherWarning_applyNaming (request : Request) (r : Resource) :
    otherWarning (applyNaming request) r = otherWarning request r := by
  rw [otherWarning, site_applyNaming, otherWarning]

@[simp] theorem noDefaultWarning_applyNaming (request : Request) (path : String) :
    noDefaultWarning (applyNaming request) path = noDefaultWarning request path := by
  rw [noDefaultWarning, site_applyNaming, noDefaultWarning]

theorem path_eq_of_otherWarning (h : otherWarning request r = otherWarning request s) :
    r.path = s.path := by
  simpa [otherWarning, toString] using h

theorem eq_of_noDefaultWarning {path₂ : String}
    (h : noDefaultWarning request path = noDefaultWarning request path₂) : path = path₂ := by
  simpa [noDefaultWarning, toString] using h

theorem nodup_warnOfOthers (request : Request) : (warnOfOthers request).diagnostics.Nodup := by
  rw [diagnostics_warnOfOthers]
  refine List.pairwise_map.mpr ((request.ordered.filter _).imp fun lt h => ?_)
  exact lt.ne (path_eq_of_otherWarning h)

theorem count_otherWarning (hr : r ∈ request.resources) (ho : BundleFile.ofResource? r = none) :
    (generate request).run.diagnostics.count (otherWarning request r) = 1 := by
  have ⟨tail, hd, ht⟩ := diagnostics_generate request
  have hw : otherWarning request r ∈ (warnOfOthers (applyNaming request)).diagnostics := by
    rw [diagnostics_warnOfOthers, resources_applyNaming]
    exact List.mem_map.mpr ⟨r, List.mem_filter.mpr ⟨hr, by simp [ho]⟩, otherWarning_applyNaming ..⟩
  have hn : otherWarning request r ∉ tail := fun h => not_isReport_otherWarning (ht _ h)
  have hf : otherWarning request r ∉ (bundlesOf (applyNaming request).resources).entries.flatMap
      fun e => (functionsOf (applyNaming request) e.1 e.2).diagnostics := by
    intro h
    obtain ⟨e, _, h⟩ := List.mem_flatMap.mp h
    rcases mem_diagnostics_functionsOf h with h | ⟨_, h⟩
    · exact not_isReport_otherWarning h
    · exact otherWarning_ne_noDefaultWarning (h.trans (noDefaultWarning_applyNaming ..))
  rw [hd, diagnostics_functions, List.count_append, List.count_append, List.count_eq_zero.mpr hn,
    List.count_eq_zero.mpr hf, List.count_eq_one_of_mem (nodup_warnOfOthers _) hw]

-- The bundles that are warned of are those without a file for the default locale.
theorem noDefaultWarning_mem_iff :
    noDefaultWarning request path ∈ (generate request).run.diagnostics ↔
      ∃ bundle, (bundlesOf request.resources).get? path = some bundle ∧ bundle.get? "" = none := by
  have ⟨tail, hd, ht⟩ := diagnostics_generate request
  rw [hd, diagnostics_functions, resources_applyNaming, List.mem_append, List.mem_append]
  constructor
  case mp =>
    rintro ((h | h) | h)
    · rw [diagnostics_warnOfOthers] at h
      have ⟨r, _, h⟩ := List.mem_map.mp h
      exact absurd (otherWarning_applyNaming request r ▸ h) otherWarning_ne_noDefaultWarning
    · obtain ⟨⟨path₂, bundle⟩, hb, h⟩ := List.mem_flatMap.mp h
      rcases mem_diagnostics_functionsOf h with h | ⟨hn, h⟩
      · exact absurd h not_isReport_noDefaultWarning
      · have hp := eq_of_noDefaultWarning (h.trans (noDefaultWarning_applyNaming ..))
        exact ⟨bundle, KeyMap.mem_entries_iff.mp (hp ▸ hb), hn⟩
    · exact absurd (ht _ h) not_isReport_noDefaultWarning
  case mpr =>
    intro ⟨bundle, hb, hn⟩
    refine .inl (.inr (List.mem_flatMap.mpr ⟨(path, bundle), KeyMap.mem_entries_iff.mpr hb, ?_⟩))
    rw [diagnostics_functionsOf, hn, noDefaultWarning_applyNaming]
    simp

end Generator.Messages

end ResourceEmbedding
