import Mathlib.Data.List.Duplicate
import Mathlib.Logic.Relation
import ResourceEmbedding.Generation.Request
import ResourceEmbedding.Proofs.Text.ByteOrder

namespace ResourceEmbedding

variable {r s : Resource} {resources others : List Resource} {path : String}

def Shared (resources : List Resource) (path : String) : Prop :=
  List.Duplicate path (resources.map (·.path))

-- The first path in the order of bytes that two of the resources have.
structure FirstShared (resources : List Resource) (path : String) : Prop where
  shared : Shared resources path
  least  : ∀ path₂, Shared resources path₂ → Utf8.encode path ≤ Utf8.encode path₂

def Increasing (resources : List Resource) : Prop :=
  resources.Pairwise fun r s => Utf8.encode r.path < Utf8.encode s.path

theorem encode_le_iff {s t : String} : Utf8.encode s ≤ Utf8.encode t ↔ s ≤ t := by
  rw [← List.not_lt, Utf8.encode_lt_iff, not_lt]

theorem increasing_iff : Increasing resources ↔ resources.Pairwise (·.path < ·.path) := by
  simp only [Increasing, Utf8.encode_lt_iff]

theorem not_shared_iff : (¬∃ path, Shared resources path) ↔ (resources.map (·.path)).Nodup := by
  rw [List.nodup_iff_forall_not_duplicate, not_exists]
  rfl

theorem Shared.perm (h : resources.Perm others) :
    Shared resources path ↔ Shared others path := by
  rw [Shared, Shared, List.duplicate_iff_two_le_count, List.duplicate_iff_two_le_count,
    (h.map _).count_eq]

theorem shared_cons :
    Shared (r :: resources) path ↔
      r.path = path ∧ path ∈ resources.map (·.path) ∨ Shared resources path :=
  List.duplicate_cons_iff

theorem FirstShared.perm (h : resources.Perm others) :
    FirstShared resources path ↔ FirstShared others path := by
  constructor
  case mp =>
    intro ⟨hs, hl⟩
    exact ⟨(Shared.perm h).mp hs, fun path₂ h₂ => hl path₂ ((Shared.perm h).mpr h₂)⟩
  case mpr =>
    intro ⟨hs, hl⟩
    exact ⟨(Shared.perm h).mpr hs, fun path₂ h₂ => hl path₂ ((Shared.perm h).mp h₂)⟩

theorem FirstShared.unique {path₂ : String} (h : FirstShared resources path)
    (h₂ : FirstShared resources path₂) : path = path₂ :=
  le_antisymm (encode_le_iff.mp (h.least path₂ h₂.shared))
    (encode_le_iff.mp (h₂.least path h.shared))

section Order

theorem orderByPath_perm (resources : List Resource) : (orderByPath resources).Perm resources :=
  List.mergeSort_perm ..

theorem pairwise_orderByPath (resources : List Resource) :
    (orderByPath resources).Pairwise (·.path ≤ ·.path) := by
  have h := @List.pairwise_mergeSort _ (fun r s : Resource => decide (r.path ≤ s.path))
    (by simpa using fun _ _ _ => le_trans) (by simpa using fun _ _ => le_total ..) resources
  exact h.imp of_decide_eq_true

theorem ordered_orderByPath_iff :
    (orderByPath resources).Pairwise (·.path < ·.path) ↔ (resources.map (·.path)).Nodup := by
  rw [← ((orderByPath_perm resources).map _).nodup_iff, List.Nodup, List.pairwise_map]
  constructor
  case mp  => exact .imp ne_of_lt
  case mpr => exact fun h => h.imp₂ (fun _ _ hn hl => lt_of_le_of_ne hl hn) (pairwise_orderByPath _)

theorem orderByPath_eq_of_perm (h : others.Perm resources)
    (hn : (resources.map (·.path)).Nodup) : orderByPath others = orderByPath resources := by
  have hp := ((orderByPath_perm others).trans h).trans (orderByPath_perm resources).symm
  refine hp.eq_of_pairwise ?_ (pairwise_orderByPath others) (pairwise_orderByPath resources)
  intro r s hr hs hl hg
  have hr := (orderByPath_perm resources).mem_iff.mp (hp.mem_iff.mp hr)
  have hs := (orderByPath_perm resources).mem_iff.mp hs
  exact List.inj_on_of_nodup_map hn hr hs (le_antisymm hl hg)

-- In order, the first path that comes twice in a row is the first that comes twice at all.
theorem firstRepeated?_of_shared (h : resources.Pairwise (·.path ≤ ·.path))
    (hs : ∃ path, Shared resources path) :
    ∃ path, firstRepeated? resources = some path ∧ FirstShared resources path := by
  fun_induction firstRepeated? resources
  case case1 r s rest he =>
    refine ⟨r.path, rfl, shared_cons.mpr (.inl ⟨rfl, by simp [he]⟩), fun path₂ h₂ => ?_⟩
    have ⟨t, ht, hp⟩ := List.mem_map.mp h₂.mem
    rw [encode_le_iff, ← hp]
    rcases List.mem_cons.mp ht with rfl | ht
    · exact le_rfl
    · exact (List.pairwise_cons.mp h).1 t ht
  case case2 r s rest hn hi =>
    have ⟨hr, h⟩ := List.pairwise_cons.mp h
    have ht t (ht : t ∈ s :: rest) : r.path ≠ t.path := by
      rcases List.mem_cons.mp ht with rfl | ht
      · exact hn
      · have hl := (hr s List.mem_cons_self).lt_of_ne hn
        exact (hl.trans_le ((List.pairwise_cons.mp h).1 t ht)).ne
    have hc path : Shared (r :: s :: rest) path ↔ Shared (s :: rest) path := by
      rw [shared_cons, or_iff_right]
      rintro ⟨rfl, hm⟩
      have ⟨t, hm, he⟩ := List.mem_map.mp hm
      exact ht t hm he.symm
    simp only [hc] at hs
    have ⟨path, hf, hs, hl⟩ := hi h hs
    exact ⟨path, hf, (hc path).mpr hs, fun path₂ h₂ => hl path₂ ((hc path₂).mp h₂)⟩
  case case3 resources hn =>
    have ⟨path, hs⟩ := hs
    match resources, hs with
    | [], hs => cases hs
    | [_], hs => simp [Shared] at hs
    | r :: s :: rest, _ => exact absurd rfl (hn r s rest)

end Order

namespace Draft

variable {d : Draft} {request : Request} {e : Failure}

theorem build_of_nodup (h : (d.resources.map (·.path)).Nodup) :
    d.build =
      .ok ⟨{ d with resources := orderByPath d.resources }, ordered_orderByPath_iff.mpr h⟩ := by
  simp only [build, ordered_orderByPath_iff.mpr h, dif_pos]

theorem build_of_shared (h : ∃ path, Shared d.resources path) :
    ∃ path, FirstShared d.resources path ∧ d.build = .error (.duplicateResource path) := by
  have hp := orderByPath_perm d.resources
  have ⟨path, hf, hs⟩ := firstRepeated?_of_shared (pairwise_orderByPath d.resources)
    (h.imp fun _ => (Shared.perm hp).mpr)
  have hn : ¬(orderByPath d.resources).Pairwise (·.path < ·.path) := by
    rwa [ordered_orderByPath_iff, ← not_shared_iff, not_not]
  refine ⟨path, (FirstShared.perm hp).mp hs, ?_⟩
  simp only [build, hn, dif_neg, not_false_eq_true, hf, Option.getD_some]

theorem build_cases (d : Draft) :
    (∃ request, d.build = .ok request ∧ ¬(∃ path, Shared d.resources path) ∧
      request.toDraft = { d with resources := orderByPath d.resources }) ∨
    ∃ path, FirstShared d.resources path ∧ d.build = .error (.duplicateResource path) := by
  by_cases h : ∃ path, Shared d.resources path
  case pos => exact .inr (build_of_shared h)
  case neg => exact .inl ⟨_, build_of_nodup (not_shared_iff.mp h), h, rfl⟩

theorem increasing_of_build (h : d.build = .ok request) : Increasing request.resources := by
  rcases build_cases d with ⟨_, hb, hn, hd⟩ | ⟨_, _, hb⟩
  · cases hb.symm.trans h
    rw [hd]
    exact increasing_iff.mpr (ordered_orderByPath_iff.mpr (not_shared_iff.mp hn))
  · cases hb.symm.trans h

theorem perm_of_build (h : d.build = .ok request) : request.resources.Perm d.resources := by
  rcases build_cases d with ⟨_, hb, _, hd⟩ | ⟨_, _, hb⟩
  · cases hb.symm.trans h
    rw [hd]
    exact orderByPath_perm d.resources
  · cases hb.symm.trans h

-- The order of the resources in a draft does not matter.
theorem build_of_perm (h : resources.Perm d.resources) : { d with resources }.build = d.build := by
  by_cases hs : ∃ path, Shared d.resources path
  case neg =>
    have ho := orderByPath_eq_of_perm h (not_shared_iff.mp hs)
    simp only [build, ho]
  case pos =>
    have ⟨path₁, h₁, hb₁⟩ := build_of_shared hs
    have hs₂ := hs.imp fun _ => (Shared.perm h).mpr
    have ⟨path₂, h₂, hb₂⟩ := @build_of_shared { d with resources } hs₂
    rw [hb₁, hb₂, ((FirstShared.perm h).mp h₂).unique h₁]

inductive Change (d : Draft) : Draft → Prop
  | output (output : OutputLocations) : Change d { d with output }
  | package (package : String) : Change d { d with package }
  | site (site : Site) : Change d { d with site }
  | resources (resources : List Resource) : Change d { d with resources }
  | resource (resource : Resource) : Change d { d with resources := d.resources ++ [resource] }
  | settings (settings : List Setting) : Change d { d with settings }
  | setting (setting : Setting) : Change d { d with settings := d.settings ++ [setting] }
  | namer (namer : Naming) : Change d { d with namer }

def Changes : Draft → Draft → Prop :=
  Relation.ReflTransGen Change

end Draft

-- The requests that are drafted, from nothing or from others, and those that are derived from them.
inductive Request.Reached : Request → Prop
  | new {d : Draft} {request : Request} :
    Draft.Changes {} d → d.build = .ok request → Reached request
  | rebuilt {base request : Request} {d : Draft} :
    Reached base → Draft.Changes base.toDraft d → d.build = .ok request → Reached request
  | withSettings {base : Request} (settings : List Setting) :
    Reached base → Reached (base.withSettings settings)
  | withNamer {base : Request} (namer : Naming) :
    Reached base → Reached (base.withNamer namer)
  | withResources {base request : Request} {resources : List Resource} :
    Reached base → base.withResources resources = .ok request → Reached request

-- The order comes from building; what is derived without it takes over the resources as they are.
theorem Request.Reached.increasing {request : Request} (h : request.Reached) :
    Increasing request.resources := by
  induction h
  case new hb             => exact Draft.increasing_of_build hb
  case rebuilt hb _       => exact Draft.increasing_of_build hb
  case withSettings hi    => exact hi
  case withNamer hi       => exact hi
  case withResources hb _ => exact Draft.increasing_of_build hb

namespace Draft

-- Every request holds the resources of its draft, each path once and in the order of bytes. Where
-- two share a path the first such path is refused, and the order of staging does not matter.
theorem resources_in_order :
    (∀ request : Request, request.Reached → Increasing request.resources) ∧
    ∀ d : Draft,
      ((∃ e, d.build = .error e) ↔ ∃ path, Shared d.resources path) ∧
      (∀ e, d.build = .error e → ∃ path, FirstShared d.resources path ∧
        e = .duplicateResource path ∧
        e.message = "Duplicate resource path \x60" ++ path ++ "\x60") ∧
      (∀ request, d.build = .ok request →
        request.toDraft = { d with resources := request.resources } ∧
        request.resources.Perm d.resources) ∧
      ∀ resources, resources.Perm d.resources → { d with resources }.build = d.build := by
  refine ⟨fun _ => Request.Reached.increasing, fun d => ⟨?fails, ?error, ?request, ?order⟩⟩
  case fails =>
    rcases build_cases d with ⟨_, hb, hn, _⟩ | ⟨path, hs, hb⟩
    · simp [hb, hn]
    · exact iff_of_true ⟨_, hb⟩ ⟨path, hs.shared⟩
  case error =>
    intro e he
    rcases build_cases d with ⟨_, hb, _⟩ | ⟨path, hs, hb⟩
    · cases hb.symm.trans he
    · cases hb.symm.trans he
      exact ⟨path, hs, rfl, rfl⟩
  case request =>
    intro request hr
    refine ⟨?_, perm_of_build hr⟩
    rcases build_cases d with ⟨_, hb, _, hd⟩ | ⟨_, _, hb⟩
    · cases hb.symm.trans hr
      rw [hd]
    · cases hb.symm.trans hr
  case order => exact fun resources => build_of_perm

-- Four paths that are ordered otherwise by their UTF-16 units, and two paths that come twice.
theorem resources_in_order_scrambled :
    let staged : Draft := { resources :=
      [.ofBytes "😀" [], .ofBytes "z" [], .ofBytes "～" [], .ofBytes "a/b" []] }
    let twice : Draft := { resources :=
      [.ofBytes "b" [], .ofBytes "a" [], .ofBytes "b" [1], .ofBytes "a" [1]] }
    (∃ request : Request, request.Reached ∧ staged.build = .ok request ∧
      Increasing request.resources ∧ request.resources.Perm staged.resources ∧
      request.resources.map (·.path) = ["a/b", "z", "～", "😀"]) ∧
    twice.build = .error (.duplicateResource "a") ∧
    { twice with resources := twice.resources.reverse }.build = twice.build := by
  intro staged twice
  have ⟨hi, hd⟩ := resources_in_order
  have hn : (staged.resources.map (·.path)).Nodup := by decide
  have hr : Request.Reached ⟨{ staged with resources := orderByPath staged.resources },
      ordered_orderByPath_iff.mpr hn⟩ :=
    .new (.single (.resources staged.resources)) (build_of_nodup hn)
  have hs : Shared twice.resources "a" := List.duplicate_iff_two_le_count.mpr (by decide)
  have ⟨e, he⟩ := (hd twice).1.mpr ⟨"a", hs⟩
  have ⟨path, hf, hp, _⟩ := (hd twice).2.1 e he
  have ha : path = "a" := by
    have hm := hf.shared.mem
    have hl := hf.least "a" hs
    simp only [twice, Resource.ofBytes, List.map_cons, List.map_nil, List.mem_cons,
      List.not_mem_nil, or_false] at hm
    rcases hm with rfl | rfl | rfl | rfl
    · exact absurd hl (by decide)
    · rfl
    · exact absurd hl (by decide)
    · rfl
  have ho : (orderByPath staged.resources).map (·.path) = ["a/b", "z", "～", "😀"] := by
    cbv
  exact ⟨⟨_, hr, build_of_nodup hn, hi _ hr, ((hd staged).2.2.1 _ (build_of_nodup hn)).2, ho⟩,
    by rw [he, hp, ha], (hd twice).2.2.2 _ (List.reverse_perm _)⟩

end Draft

end ResourceEmbedding
