import ResourceEmbedding.Generator.Embed
import ResourceEmbedding.Proofs.Segment.Boundary

namespace ResourceEmbedding

-- The segment of index `k` is the first that has no text.
structure FirstWithoutText (segments : List Segment) (k : Nat) : Prop where
  without : ∃ segment, segments[k]? = some segment ∧ segment.toString? = none
  first   : ∀ j < k, ∀ segment, segments[j]? = some segment → segment.toString?.isSome

theorem FirstWithoutText.succ {segment : Segment} {segments : List Segment} {k : Nat}
    (hs : segment.toString?.isSome) (h : FirstWithoutText segments k) :
    FirstWithoutText (segment :: segments) (k + 1) where
  without := h.without
  first   := by
    intro j hj s hm
    cases j
    case zero => simp_all
    case succ j => exact h.first j (by omega) s hm

theorem FirstWithoutText.le {segments : List Segment} {j k : Nat}
    (hj : FirstWithoutText segments j) (hk : FirstWithoutText segments k) : j ≤ k := by
  have ⟨segment, hs, hn⟩ := hk.without
  by_contra hl
  have := hj.first k (Nat.lt_of_not_le hl) segment hs
  simp [hn] at this

namespace Generator.Embed

variable {request : Request} {resource : Resource} {source : Source} {content : List UInt8}
variable {config : SegmentConfig} {segments : List Segment} {maxBytes : Nat} {text : String}

theorem textsFrom_cases (index : Nat) (segments : List Segment) :
    (∃ texts, textsFrom index segments = .ok texts ∧ segments.map (·.toString?) = texts.map some) ∨
      ∃ k, textsFrom index segments = .error (.splitSurrogate (index + k)) ∧
        FirstWithoutText segments k := by
  induction segments generalizing index
  case nil => exact .inl ⟨[], rfl, rfl⟩
  case cons segment segments hi =>
    cases hs : segment.toString?
    case none =>
      refine .inr ⟨0, by simp [textsFrom, hs], ⟨segment, rfl, hs⟩, nofun⟩
    case some text =>
      rcases hi (index + 1) with ⟨texts, ht, hm⟩ | ⟨k, ht, hk⟩
      · exact .inl ⟨text :: texts, by simp [textsFrom, hs, ht, Except.map], by simp [hs, hm]⟩
      · refine .inr ⟨k + 1, ?_, hk.succ (by simp [hs])⟩
        simp [textsFrom, hs, ht, Except.map, Nat.add_assoc, Nat.add_comm 1 k]

theorem textsFrom_of_first {k : Nat} (hk : FirstWithoutText segments k) :
    textsFrom 0 segments = .error (.splitSurrogate k) := by
  rcases textsFrom_cases 0 segments with ⟨texts, _, hm⟩ | ⟨j, ht, hj⟩
  · have ⟨segment, hs, hn⟩ := hk.without
    have := exists_texts_iff.mp ⟨texts, hm⟩ segment (List.mem_of_getElem? hs)
    simp [hn] at this
  · rw [ht, Nat.zero_add, Nat.le_antisymm (hj.le hk) (hk.le hj)]

def constantName (request : Request) (resource : Resource) : String :=
  request.namer.constantName (request.namer.simplify resource.path)

theorem embedOne_of_opening_error {cause : StreamFailure} (ho : resource.opening = .error cause) :
    embedOne request resource config = .error (.ofStream resource.path cause) := by
  simp [embedOne, ho, Except.mapError, bind, Except.bind]

theorem embedOne_of_segments (ho : resource.opening = .ok source)
    (hs : ResourceEmbedding.segments source config = .ok segments) :
    embedOne request resource config =
      (constantOf (constantName request resource) resource.path segments config.encoding).mapError
        (.ofSegment resource.path) := by
  simp [embedOne, ho, hs, Except.mapError, bind, Except.bind, constantName]

theorem embedOne_of_error {e : SegmentError} (ho : resource.opening = .ok source)
    (hs : ResourceEmbedding.segments source config = .error e) :
    embedOne request resource config = .error (.ofSegment resource.path e) := by
  simp [embedOne, ho, hs, Except.mapError, bind, Except.bind]

-- A resource that can be read to its end has a source that delivers its content.
theorem exists_source (hr : resource.readAll = .ok content) :
    ∃ source, resource.opening = .ok source ∧ source.failure? = none ∧
      source.delivered = content := by
  cases ho : resource.opening
  case error => simp [Resource.readAll, ho, bind, Except.bind] at hr
  case ok source =>
    rw [Resource.readAll, ho] at hr
    exact ⟨source, rfl, Source.readAll_eq_ok_iff.mp hr⟩

-- The units of bytes are read as the characters of the same codes.
theorem toStringLossy_of_bytes {units : List UInt16} (h : units ⊆ content.map (·.toUInt16)) :
    (Utf16.toStringLossy units).toList.map Char.toNat = units.map UInt16.toNat := by
  rw [Utf16.toStringLossy_plain fun u hu => Utf16.plain_of_mem_bytes (h hu), String.toList_ofList,
    List.map_map]
  refine List.map_congr_left fun u hu => ?_
  have := Utf16.toNat_lt_of_mem_bytes (h hu)
  exact toNat_ofNat (by omega)

theorem embedOne_latin1 (hb : leastBudget ≤ maxBytes) (hr : resource.readAll = .ok content) :
    ∃ texts, embedOne request resource ⟨maxBytes, .latin1⟩ =
        .ok (.bytesConstant (constantName request resource) resource.path texts content.length) ∧
      (String.join texts).toList.map Char.toNat = content.map UInt8.toNat := by
  have ⟨source, ho, hf, hd⟩ := exists_source hr
  have hd : Decodes .latin1 source.delivered (content.map (·.toUInt16)) := hd ▸ .latin1 content
  have hs := @segments_of_decodes source ⟨maxBytes, .latin1⟩ _ hb hf hd
  have hu := flatMap_units_pieces hb (content.map (·.toUInt16))
  have hl : total (·.length) (pieces maxBytes (content.map (·.toUInt16))) = content.length := by
    rw [total_pieces hb rfl (fun _ _ => List.length_append), Segment.length, Segment.ofUnits,
      List.length_map]
  refine ⟨_, by rw [embedOne_of_segments ho hs, constantOf, hl]; rfl, ?_⟩
  have ht : ∀ segment ∈ pieces maxBytes (content.map (·.toUInt16)),
      segment.toStringLossy.toList.map Char.toNat = segment.units.map UInt16.toNat :=
    fun _ hm => toStringLossy_of_bytes (units_subset_of_mem_pieces hb hm)
  calc
    _ = (pieces maxBytes (content.map (·.toUInt16))).flatMap
          fun s => s.toStringLossy.toList.map Char.toNat := by
      simp [String.toList_join, List.flatMap_map, List.map_flatMap]
    _ = (pieces maxBytes (content.map (·.toUInt16))).flatMap fun s => s.units.map UInt16.toNat :=
      List.flatMap_congr ht
    _ = (content.map (·.toUInt16)).map UInt16.toNat := by rw [← hu, List.map_flatMap, hu]
    _ = content.map UInt8.toNat := by simp

theorem embedOne_text_cases (hb : leastBudget ≤ maxBytes)
    (hr : resource.readAll = .ok (Utf8.encode text)) :
    ∃ source, resource.opening = .ok source ∧
      ResourceEmbedding.segments source ⟨maxBytes, .utf8⟩ =
        .ok (pieces maxBytes (Utf16.ofString text)) ∧
      ((∃ texts, embedOne request resource ⟨maxBytes, .utf8⟩ =
          .ok (.textConstant (constantName request resource) resource.path texts (textCost text)) ∧
        (pieces maxBytes (Utf16.ofString text)).map (·.toString?) = texts.map some) ∨
      ∃ k, embedOne request resource ⟨maxBytes, .utf8⟩ =
          .error (.encoding resource.path (.splitSurrogate k)) ∧
        FirstWithoutText (pieces maxBytes (Utf16.ofString text)) k) := by
  have ⟨source, ho, hf, hd⟩ := exists_source hr
  have hd : Decodes .utf8 source.delivered (Utf16.ofString text) := hd ▸ .utf8 text
  have hs := @segments_of_decodes source ⟨maxBytes, .utf8⟩ _ hb hf hd
  refine ⟨source, ho, hs, ?_⟩
  rw [embedOne_of_segments ho hs, constantOf,
    total_pieces hb rfl (fun _ _ => unitsCost_append)]
  rcases textsFrom_cases 0 (pieces maxBytes (Utf16.ofString text)) with
    ⟨texts, ht, hm⟩ | ⟨k, ht, hk⟩
  · exact .inl ⟨texts, by rw [ht]; rfl, hm⟩
  · exact .inr ⟨k, by rw [ht, Nat.zero_add]; rfl, hk⟩

theorem embedOne_roomy (hb : leastBudget ≤ maxBytes)
    (hr : resource.readAll = .ok (Utf8.encode text)) (hs : Roomy maxBytes text.toList) :
    ∃ texts, embedOne request resource ⟨maxBytes, .utf8⟩ =
        .ok (.textConstant (constantName request resource) resource.path texts (textCost text)) ∧
      String.join texts = text := by
  have ⟨texts, hm, hj⟩ := exists_texts_of_pieces hb hs
  have ⟨_, _, _, h⟩ := @embedOne_text_cases request _ _ _ hb hr
  cases h
  case inl h =>
    have ⟨texts₂, he, hm₂⟩ := h
    have : texts = texts₂ :=
      List.map_injective_iff.mpr (Option.some_injective _) (hm.symm.trans hm₂)
    exact ⟨texts, this ▸ he, hj⟩
  case inr h =>
    have ⟨k, _, hk⟩ := h
    have ⟨segment, hg, hn⟩ := hk.without
    have := hm ▸ List.mem_map_of_mem (List.mem_of_getElem? hg)
    simp [hn] at this

theorem embedOne_not_roomy (hb : leastBudget ≤ maxBytes)
    (hr : resource.readAll = .ok (Utf8.encode text)) (hs : ¬Roomy maxBytes text.toList) :
    ∃ source found k, resource.opening = .ok source ∧
      ResourceEmbedding.segments source ⟨maxBytes, .utf8⟩ = .ok found ∧ FirstWithoutText found k ∧
      embedOne request resource ⟨maxBytes, .utf8⟩ =
        .error (.encoding resource.path (.splitSurrogate k)) := by
  have ⟨source, ho, hf, h⟩ := @embedOne_text_cases request _ _ _ hb hr
  cases h
  case inl h =>
    have ⟨texts, _, hm⟩ := h
    exact absurd (roomy_of_exists_texts hb hm) hs
  case inr h =>
    have ⟨k, he, hk⟩ := h
    exact ⟨source, _, k, ho, hf, hk, he⟩

theorem embedOne_invalid (hb : leastBudget ≤ maxBytes) (hr : resource.readAll = .ok content)
    (hn : ∀ text, content ≠ Utf8.encode text) :
    ∃ good, LongestDecodable .utf8 content good ∧
      embedOne request resource ⟨maxBytes, .utf8⟩ =
        .error (.encoding resource.path (.invalidUtf8 good.length)) := by
  have ⟨source, ho, hf, hd⟩ := exists_source hr
  have hn (units : List UInt16) : ¬Decodes .utf8 source.delivered units := by
    intro h
    rw [hd] at h
    cases h
    case utf8 text => exact hn text rfl
  have ⟨good, hg, hs⟩ := @segments_of_not_decodes source ⟨maxBytes, .utf8⟩ hb hf hn
  exact ⟨good, hd ▸ hg, embedOne_of_error ho hs⟩

-- From the bytes of a resource to its constant: what is lost, and when, at any budget.
theorem embedOne_lossless (request : Request) (hb : 3 ≤ maxBytes)
    (hr : resource.readAll = .ok content) :
    (∃ texts, embedOne request resource ⟨maxBytes, .latin1⟩ =
        .ok (.bytesConstant (constantName request resource) resource.path texts content.length) ∧
      (String.join texts).toList.map Char.toNat = content.map UInt8.toNat) ∧
    ((∃ name path texts size, embedOne request resource ⟨maxBytes, .utf8⟩ =
        .ok (.textConstant name path texts size)) ↔
      ∃ text, content = Utf8.encode text ∧ Roomy maxBytes text.toList) ∧
    (∀ text, content = Utf8.encode text → Roomy maxBytes text.toList →
      ∃ texts, embedOne request resource ⟨maxBytes, .utf8⟩ =
          .ok (.textConstant (constantName request resource) resource.path texts (textCost text)) ∧
        String.join texts = text) ∧
    (∀ text, content = Utf8.encode text → ¬Roomy maxBytes text.toList →
      ∃ source found k, resource.opening = .ok source ∧
        ResourceEmbedding.segments source ⟨maxBytes, .utf8⟩ = .ok found ∧
        FirstWithoutText found k ∧
        embedOne request resource ⟨maxBytes, .utf8⟩ =
          .error (.encoding resource.path (.splitSurrogate k))) ∧
    ((∀ text, content ≠ Utf8.encode text) →
      ∃ good, LongestDecodable .utf8 content good ∧
        embedOne request resource ⟨maxBytes, .utf8⟩ =
          .error (.encoding resource.path (.invalidUtf8 good.length))) := by
  refine ⟨embedOne_latin1 hb hr, ?success, ?roomy, ?split, embedOne_invalid hb hr⟩
  case success =>
    constructor
    case mp =>
      intro ⟨_, _, _, _, he⟩
      by_cases ht : ∃ text, content = Utf8.encode text
      case pos =>
        have ⟨text, ht⟩ := ht
        refine ⟨text, ht, ?_⟩
        by_contra hs
        have ⟨_, _, _, _, _, _, hn⟩ := @embedOne_not_roomy request _ _ _ hb (ht ▸ hr) hs
        cases he.symm.trans hn
      case neg =>
        have ⟨_, _, hn⟩ := @embedOne_invalid request _ _ _ hb hr (not_exists.mp ht)
        cases he.symm.trans hn
    case mpr =>
      intro ⟨text, ht, hs⟩
      have ⟨texts, he, _⟩ := @embedOne_roomy request _ _ _ hb (ht ▸ hr) hs
      exact ⟨_, _, texts, _, he⟩
  case roomy =>
    intro text ht hs
    exact embedOne_roomy hb (ht ▸ hr) hs
  case split =>
    intro text ht hs
    exact embedOne_not_roomy hb (ht ▸ hr) hs

-- A character that needs six bytes, cut by the reads of it.
theorem embedOne_lossless_smile :
    let resource : Resource := ⟨"smile.txt", .ok [.bytes [0x61, 0xF0], .bytes [0x9F, 0x98, 0x80]]⟩
    resource.readAll = .ok (Utf8.encode "a😀") ∧
    (∃ texts, embedOne ⟨{}, .nil⟩ resource ⟨6, .utf8⟩ =
        .ok (.textConstant "smile" "smile.txt" texts 7) ∧ String.join texts = "a😀") ∧
    ∃ k, embedOne ⟨{}, .nil⟩ resource ⟨5, .utf8⟩ =
      .error (.encoding "smile.txt" (.splitSurrogate k)) := by
  intro resource
  have hr : resource.readAll = .ok (Utf8.encode "a😀") := by decide +kernel
  have hn : constantName ⟨{}, .nil⟩ resource = "smile" := by decide +kernel
  have hc : textCost "a😀" = 7 := by decide +kernel
  refine ⟨hr, ?roomy, ?split⟩
  case roomy =>
    have h := (embedOne_lossless ⟨{}, .nil⟩ (by decide : 3 ≤ 6) hr).2.2.1 _ rfl (.inl (by decide))
    exact hn ▸ hc ▸ h
  case split =>
    have hs : ¬Roomy 5 "a😀".toList := by
      intro hs
      cases hs
      case inl h => exact absurd h (by decide)
      case inr h => exact absurd (h '😀' (by simp)) (by decide)
    have ⟨_, _, k, _, _, _, he⟩ :=
      (embedOne_lossless ⟨{}, .nil⟩ (by decide : 3 ≤ 5) hr).2.2.2.1 _ rfl hs
    exact ⟨k, he⟩

end Generator.Embed

end ResourceEmbedding
