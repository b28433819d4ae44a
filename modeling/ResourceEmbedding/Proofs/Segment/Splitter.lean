import ResourceEmbedding.Proofs.Segment.Cut
import ResourceEmbedding.Proofs.Segment.Decoder

namespace ResourceEmbedding

theorem Source.length_delivered_le {count : ReadAnswer → Nat}
    (h : ∀ bs, count (.bytes bs) = bs.length) (source : Source) :
    source.delivered.length ≤ total count source := by
  fun_induction delivered source <;> simp_all [total]
  case case5 => omega

namespace Splitter

variable {s s₁ s₂ s₃ : Splitter} {segment : Segment} {segments done : List Segment}
variable {e : SegmentError} {fuel : Nat}

-- What holds of a splitter as long as it is at work.
structure Sound (s : Splitter) : Prop where
  decoder : s.decoder.Sound
  budget  : leastBudget ≤ s.config.maxBytes
  running : s.finished = false

-- From `s₁` to `s₂` the bytes `used` are read, and the units before the lookahead end up in
-- `segments`. How they are cut does not depend on what comes next, unless nothing comes.
structure Advance (s₁ s₂ : Splitter) (segments : List Segment) (used : List UInt8)
    (units : List UInt16) : Prop where
  decoder : s₁.decoder.Advance s₂.decoder used units
  config  : s₂.config = s₁.config
  cuts    : ∀ more, (s₂.decoder.atEnd → more = []) →
    pieces s₁.config.maxBytes (s₁.lookahead ++ units ++ more) =
      segments ++ pieces s₁.config.maxBytes (s₂.lookahead ++ more)
  sound   : s₂.Sound

theorem Advance.refl (h : s.Sound) : Advance s s [] [] [] where
  decoder := .refl h.decoder
  config  := rfl
  cuts    := by simp
  sound   := h

theorem Advance.trans {segments₁ segments₂ : List Segment} {used₁ used₂ : List UInt8}
    {units₁ units₂ : List UInt16} (h₁ : Advance s₁ s₂ segments₁ used₁ units₁)
    (h₂ : Advance s₂ s₃ segments₂ used₂ units₂) :
    Advance s₁ s₃ (segments₁ ++ segments₂) (used₁ ++ used₂) (units₁ ++ units₂) where
  decoder := h₁.decoder.trans h₂.decoder
  config  := h₂.config.trans h₁.config
  sound   := h₂.sound
  cuts    := by
    intro more hm
    have hn (ha : s₂.decoder.atEnd) : units₂ ++ more = [] := by
      have hr := h₂.decoder.rest
      rw [Decoder.rest_of_atEnd ha] at hr
      have hu := h₂.decoder.decodes.eq_nil_iff.mp (List.append_eq_nil_iff.mp hr.symm).1
      simp [hu, hm (h₂.decoder.atEnd ha)]
    have hc₁ := h₁.cuts (units₂ ++ more) hn
    have hc₂ := h₂.cuts more hm
    rw [h₁.config] at hc₂
    simp only [List.append_assoc] at hc₁ hc₂ ⊢
    rw [hc₁, hc₂]

theorem start_eq_ok {source : Source} {config : SegmentConfig} (h : leastBudget ≤ config.maxBytes) :
    start source config = .ok ⟨config, .start source config.encoding, [], 0, false⟩ := by
  simp [start, SegmentConfig.problem?, Nat.not_lt.mpr h]

-- A call of `next` fills the lookahead and then takes off the first piece of it.
theorem next_eq (hs : s.Sound) :
    s.next =
      match s.decoder.fill s.config.maxBytes s.lookahead with
      | (.error e, lookahead, decoder) =>
        (.error e, { s with decoder, lookahead, finished := true })
      | (.ok (), lookahead, decoder) =>
        let n := pieceLength s.config.maxBytes lookahead
        if n = 0 then (.ok none, { s with decoder, lookahead, finished := true })
        else (.ok (some (.ofUnits (lookahead.take n))),
          { s with decoder, lookahead := lookahead.drop n, produced := s.produced + 1 }) := by
  simp only [next, hs.running, cut_eq, Bool.false_eq_true, if_false]
  rcases s.decoder.fill s.config.maxBytes s.lookahead with ⟨_ | _, _, _⟩ <;> rfl

-- Where nothing can be cut there is nothing, neither decoded nor to be read.
theorem eq_nil_of_cut_eq_zero {lookahead : List UInt16} {d : Decoder} (hs : s.Sound)
    (hf : s.decoder.fill s.config.maxBytes s.lookahead = (.ok (), lookahead, d))
    (hc : (cut s.config.maxBytes lookahead).1 = 0) : lookahead = [] ∧ d.atEnd := by
  have hl : lookahead = [] := by
    by_contra hl
    rw [cut_eq] at hc
    exact (pieceLength_pos hs.budget hl).ne' hc
  cases Decoder.fill_cases hs.decoder s.config.maxBytes s.lookahead
  case inl h =>
    have ⟨_, _, _, h, _, hb⟩ := h
    cases hf.symm.trans h
    exact ⟨hl, hb.resolve_left (by simp [hl])⟩
  case inr h =>
    have ⟨_, _, _, h, _⟩ := h
    cases hf.symm.trans h

inductive Outcome (s₁ : Splitter) : Except SegmentError (Option Segment) × Splitter → Prop
  | segment {s₂ : Splitter} {segment : Segment} {used : List UInt8} {units : List UInt16}
    (ha : Advance s₁ s₂ [segment] used units)
    (hl : s₂.lookahead.length + s₂.decoder.rest.length <
      s₁.lookahead.length + s₁.decoder.rest.length) : Outcome s₁ (.ok (some segment), s₂)
  | finished {s₂ : Splitter} (hl : s₁.lookahead = []) (hr : s₁.decoder.rest = [])
    (hf : s₁.decoder.failure? = none) : Outcome s₁ (.ok none, s₂)
  | error {s₂ : Splitter} {e : SegmentError} (hf : s₁.decoder.Fails e) : Outcome s₁ (.error e, s₂)

theorem next_outcome (hs : s.Sound) : Outcome s s.next := by
  rw [next_eq hs]
  rcases Decoder.fill_cases hs.decoder s.config.maxBytes s.lookahead with
    ⟨d, used, units, hf, ha, hb⟩ | ⟨e, _, _, hf, he⟩ <;> rw [hf]
  case inr => exact .error he
  case inl =>
    generalize hl : s.lookahead ++ units = lookahead at hb hf
    by_cases hn : pieceLength s.config.maxBytes lookahead = 0
    case pos =>
      obtain ⟨hl', hd⟩ := eq_nil_of_cut_eq_zero hs hf (by rw [cut_eq, hn])
      have ⟨hl, hu⟩ := List.append_eq_nil_iff.mp (hl ▸ hl')
      have hr := ha.rest
      rw [ha.decodes.eq_nil_iff.mpr hu, Decoder.rest_of_atEnd hd] at hr
      simp only [hn, if_true]
      exact .finished hl hr (ha.failure ▸ Decoder.failure?_of_atEnd hd)
    case neg =>
      have hp := @pieceLength_le_length s.config.maxBytes lookahead
      simp only [hn, if_false]
      refine @Outcome.segment s _ _ used units ⟨ha, rfl, ?cuts, ?sound⟩ ?less
      case sound => exact ⟨ha.sound, hs.budget, hs.running⟩
      case cuts =>
        intro more hm
        -- Either the lookahead shows all that decides the cut, or there is nothing behind it.
        have hm : pieceLength s.config.maxBytes (lookahead ++ more) =
            pieceLength s.config.maxBytes lookahead := by
          cases hb
          case inl hb => exact pieceLength_append hb
          case inr he => simp [hm he]
        rw [hl, pieces_of_pos (hm ▸ hn), hm, List.take_append_of_le_length hp,
          List.drop_append_of_le_length hp]
        rfl
      case less =>
        have := ha.decodes.length_le
        have := congrArg List.length ha.rest
        have := congrArg List.length hl
        simp only [List.length_append, List.length_drop] at *
        omega

theorem next_some (hs : s₁.Sound) (h : s₁.next = (.ok (some segment), s₂)) :
    (∃ used units, Advance s₁ s₂ [segment] used units) ∧
      s₂.lookahead.length + s₂.decoder.rest.length <
        s₁.lookahead.length + s₁.decoder.rest.length := by
  have ho := h ▸ next_outcome hs
  cases ho
  case segment hl ha => exact ⟨⟨_, _, ha⟩, hl⟩

theorem next_none (hs : s₁.Sound) (h : s₁.next = (.ok none, s₂)) :
    s₁.lookahead = [] ∧ s₁.decoder.rest = [] ∧ s₁.decoder.failure? = none := by
  have ho := h ▸ next_outcome hs
  cases ho
  case finished hl hr hf => exact ⟨hl, hr, hf⟩

theorem next_error (hs : s₁.Sound) (h : s₁.next = (.error e, s₂)) : s₁.decoder.Fails e := by
  have ho := h ▸ next_outcome hs
  cases ho
  case error hf => exact hf

inductive Produces : Splitter → List Segment → Splitter → Prop
  | refl {s : Splitter} : Produces s [] s
  | step {s₁ s₂ s₃ : Splitter} {segment : Segment} {segments : List Segment} :
    s₁.next = (.ok (some segment), s₂) → Produces s₂ segments s₃ →
    Produces s₁ (segment :: segments) s₃

theorem Produces.advance (hs : s₁.Sound) (h : Produces s₁ segments s₂) :
    ∃ used units, Advance s₁ s₂ segments used units := by
  induction h
  case refl => exact ⟨[], [], .refl hs⟩
  case step hn _ hi =>
    have ⟨⟨_, _, h₁⟩, _⟩ := next_some hs hn
    have ⟨_, _, h₂⟩ := hi h₁.sound
    exact ⟨_, _, h₁.trans h₂⟩

-- Collecting is calling `next` until there is no segment: the fuel is never used up.
theorem collectOnto_eq (hs : s.Sound)
    (hf : s.lookahead.length + s.decoder.rest.length < fuel) :
    ∃ segments s', Produces s segments s' ∧
      (s'.next.1 = .ok none ∧ s.collectOnto done fuel = .ok (done.reverse ++ segments) ∨
        ∃ e, s'.next.1 = .error e ∧ s.collectOnto done fuel = .error e) := by
  induction fuel generalizing s done
  case zero => contradiction
  case succ fuel hi =>
    rcases hn : s.next with ⟨e | segment | segment, s'⟩
    · exact ⟨[], s, .refl, .inr ⟨e, by rw [hn], by simp [collectOnto, hn]⟩⟩
    · exact ⟨[], s, .refl, .inl ⟨by rw [hn], by simp [collectOnto, hn]⟩⟩
    · have ⟨⟨_, _, ha⟩, hl⟩ := next_some hs hn
      have ⟨segments, s₃, hp, h⟩ := @hi s' (segment :: done) ha.sound (by omega)
      exact ⟨segment :: segments, s₃, .step hn hp, by simpa [collectOnto, hn] using h⟩

theorem length_rest_le_weight (s : Splitter) :
    s.lookahead.length + s.decoder.rest.length ≤ s.weight := by
  have h : s.lookahead.length + s.decoder.pending.length + s.decoder.source.delivered.length ≤
      s.weight := by
    apply Nat.add_le_add_left
    exact Source.length_delivered_le (fun _ => rfl) _
  simp only [Decoder.rest]
  split <;> simp only [List.length_append, List.length_nil] <;> omega

end Splitter

open Splitter

-- How segmenting a source ends: either all of it is cut, or the splitter has met a failure.
theorem segments_cases (source : Source) {config : SegmentConfig}
    (hb : leastBudget ≤ config.maxBytes) :
    (∃ units, source.failure? = none ∧ Decodes config.encoding source.delivered units ∧
      segments source config = .ok (pieces config.maxBytes units)) ∨
    ∃ e, (Decoder.start source config.encoding).Fails e ∧ segments source config = .error e := by
  let s₁ : Splitter := ⟨config, .start source config.encoding, [], 0, false⟩
  have hs : s₁.Sound := ⟨Decoder.start_sound .., hb, rfl⟩
  have hc : segments source config = s₁.collect := by
    simp [segments, start_eq_ok hb, s₁, bind, Except.bind]
  have hf := Nat.lt_succ_of_le (length_rest_le_weight s₁)
  have ⟨found, s₂, hp, h⟩ := @collectOnto_eq _ [] _ hs hf
  have ⟨used, units, ha⟩ := hp.advance hs
  have hd := ha.decoder
  rw [hc, collect]
  cases h
  case inl h =>
    have ⟨hl, hr, hf⟩ := next_none ha.sound (Prod.ext h.1 rfl)
    have hu : source.delivered = used := by rw [← Decoder.rest_start, hd.rest, hr, List.append_nil]
    have hc := ha.cuts [] (fun _ => rfl)
    simp only [hl, s₁, List.nil_append, List.append_nil, pieces_nil] at hc
    refine .inl ⟨units, hd.failure.symm.trans hf, hu ▸ hd.decodes, ?_⟩
    rw [h.2, hc]
    rfl
  case inr h =>
    have ⟨e, hn, he⟩ := h
    exact .inr ⟨e, hd.fails (next_error ha.sound (Prod.ext hn rfl)), he⟩

variable {source : Source} {config : SegmentConfig} {units : List UInt16} {maxBytes : Nat}

theorem segments_eq_error_iff {e : SegmentError} (hb : leastBudget ≤ config.maxBytes) :
    segments source config = .error e ↔ (Decoder.start source config.encoding).Fails e := by
  rcases segments_cases source hb with ⟨units, hf, hd, hs⟩ | ⟨e₂, he, hs⟩ <;> rw [hs]
  case inl => exact iff_of_false nofun fun he => he.not_decodes hf hd
  case inr =>
    constructor
    case mp  => exact fun h => Except.error.inj h ▸ he
    case mpr => exact fun h => congrArg _ (he.unique h)

theorem segments_of_decodes (hb : leastBudget ≤ config.maxBytes) (hf : source.failure? = none)
    (hd : Decodes config.encoding source.delivered units) :
    segments source config = .ok (pieces config.maxBytes units) := by
  rcases segments_cases source hb with ⟨_, _, hd', hs⟩ | ⟨_, he, _⟩
  · rw [hs, hd.unique hd']
  · exact absurd hd (he.not_decodes hf)

theorem segments_of_not_decodes (hb : leastBudget ≤ config.maxBytes) (hf : source.failure? = none)
    (hn : ∀ units, ¬Decodes config.encoding source.delivered units) :
    ∃ good, LongestDecodable config.encoding source.delivered good ∧
      segments source config = .error (.invalidUtf8 good.length) := by
  rcases segments_cases source hb with ⟨units, _, hd, _⟩ | ⟨e, h, hs⟩
  · exact absurd hd (hn units)
  · cases e
    case stream => cases hf.symm.trans h.stream_failure
    case invalidUtf8 =>
      have ⟨good, tail, _, he, hr, hg, ht, _, ho⟩ := h.stuck
      rw [Decoder.rest_start] at hr
      have he : config.encoding = .utf8 := he
      refine ⟨good, he ▸ hr ▸ .of_stuck hg ht, ?_⟩
      rw [hs, ho, Decoder.start, Nat.zero_add]
    all_goals nomatch h

-- Segments that come before a failure are those of the whole, whatever there is of it behind the
-- failure: until then the lookahead was longer than the budget.
theorem Splitter.Produces.isPrefix {s₁ s₂ : Splitter} {found : List Segment} {e : SegmentError}
    {good undelivered : List UInt8} (hb : leastBudget ≤ config.maxBytes)
    (hs : start source config = .ok s₁) (hp : Produces s₁ found s₂) (he : s₂.next.1 = .error e)
    (hg : LongestDecodable config.encoding (source.delivered ++ undelivered) good)
    (hd : Decodes config.encoding good units) : found <+: pieces config.maxBytes units := by
  rw [start_eq_ok hb] at hs
  cases hs
  have ⟨used, _, ha⟩ := hp.advance ⟨Decoder.start_sound .., hb, rfl⟩
  have hn := (next_error ha.sound (Prod.ext he rfl)).not_atEnd
  have hu : used <+: source.delivered := ⟨_, ha.decoder.rest.symm⟩
  have hu := hu.trans (List.prefix_append _ undelivered)
  have hl := hg.longest _ _ hu ha.decoder.decodes
  have ⟨_, h⟩ := List.prefix_of_prefix_length_le hu hg.isPrefix hl
  have ⟨more, hm, _⟩ := ha.decoder.decodes.exists_append (h ▸ hd)
  have hc := ha.cuts more (by simp [hn])
  rw [hm]
  exact ⟨_, hc.symm⟩

-- However a source is read, its segments are the pieces of all of it.
theorem segments_agree_with_whole (source : Source) (config : SegmentConfig)
    (hb : 3 ≤ config.maxBytes) :
    (source.failure? = none →
      (∀ units, Decodes config.encoding source.delivered units →
        segments source config = .ok (pieces config.maxBytes units)) ∧
      ((∀ units, ¬Decodes config.encoding source.delivered units) →
        ∃ good, LongestDecodable config.encoding source.delivered good ∧
          segments source config = .error (.invalidUtf8 good.length))) ∧
    ∀ s₁ s₂ found e, start source config = .ok s₁ → Produces s₁ found s₂ → s₂.next.1 = .error e →
      ∀ undelivered good units,
        LongestDecodable config.encoding (source.delivered ++ undelivered) good →
        Decodes config.encoding good units → found <+: pieces config.maxBytes units := by
  refine ⟨fun hf => ⟨fun _ => segments_of_decodes hb hf, segments_of_not_decodes hb hf⟩, ?_⟩
  intro _ _ _ _ hs hp he _ _ _ hg hd
  exact hp.isPrefix hb hs he hg hd

-- A character cut by two reads, a source that ends inside a character, and one that breaks off.
theorem segments_agree_with_whole_at_ends :
    segments [.bytes [0x61, 0x62, 0xF0], .interrupted, .bytes [0x9F, 0x98], .bytes [0x80]]
      ⟨6, .utf8⟩ = .ok [⟨[0x61, 0x62], 2⟩, ⟨[0xD83D, 0xDE00], 6⟩] ∧
    segments [.bytes [0x61], .bytes [0xC3]] ⟨3, .utf8⟩ = .error (.invalidUtf8 1) ∧
    ∃ s₁ s₂, start [.bytes [0x61, 0x62, 0x63, 0x64], .failed ⟨.other, "gone"⟩] ⟨3, .utf8⟩ = .ok s₁ ∧
      Produces s₁ [⟨[0x61, 0x62, 0x63], 3⟩] s₂ ∧ s₂.next.1 = .error (.stream ⟨.other, "gone"⟩) ∧
      [⟨[0x61, 0x62, 0x63], 3⟩] <+: pieces 3 [0x61, 0x62, 0x63, 0x64, 0x65] := by
  refine ⟨?complete, ?truncated, ?broken⟩
  case complete =>
    have h := (segments_agree_with_whole [.bytes [0x61, 0x62, 0xF0], .interrupted,
      .bytes [0x9F, 0x98], .bytes [0x80]] ⟨6, .utf8⟩ (by decide)).1 rfl
    have hp : pieces 6 [0x61, 0x62, 0xD83D, 0xDE00] =
        [⟨[0x61, 0x62], 2⟩, ⟨[0xD83D, 0xDE00], 6⟩] := by decide +kernel
    exact hp ▸ h.1 [0x61, 0x62, 0xD83D, 0xDE00] (Decodes.utf8_iff.mpr ⟨['a', 'b', '😀'], rfl, rfl⟩)
  case truncated =>
    have h :=
      (segments_agree_with_whole [.bytes [0x61], .bytes [0xC3]] ⟨3, .utf8⟩ (by decide)).1 rfl
    have hs : Utf8.Stuck [0xC3] := (Utf8.Beginning.one_iff.mpr (by decide)).stuck
    have hn (units : List UInt16) : ¬Decodes .utf8 [0x61, 0xC3] units :=
      fun hd => nomatch (Decodes.ofChars ['a']).eq_nil_of_stuck hs hd
    have ⟨good, hg, he⟩ := h.2 hn
    rw [he, hg.unique (.of_stuck (.ofChars ['a']) hs)]
    rfl
  case broken =>
    let source : Source := [.bytes [0x61, 0x62, 0x63, 0x64], .failed ⟨.other, "gone"⟩]
    let s₁ : Splitter := ⟨⟨3, .utf8⟩, .start source .utf8, [], 0, false⟩
    have hn : s₁.next.1 = .ok (some ⟨[0x61, 0x62, 0x63], 3⟩) := by decide +kernel
    have he : s₁.next.2.next.1 = .error (.stream ⟨.other, "gone"⟩) := by decide +kernel
    have hp : Produces s₁ [⟨[0x61, 0x62, 0x63], 3⟩] s₁.next.2 := .step (Prod.ext hn rfl) .refl
    have hd : Decodes .utf8 [0x61, 0x62, 0x63, 0x64, 0x65] [0x61, 0x62, 0x63, 0x64, 0x65] :=
      Decodes.utf8_iff.mpr ⟨['a', 'b', 'c', 'd', 'e'], rfl, rfl⟩
    exact ⟨s₁, _, rfl, hp, he, (segments_agree_with_whole source ⟨3, .utf8⟩ (by decide)).2
      _ _ _ _ rfl hp he [0x65] _ _ (.self hd) hd⟩

theorem splitText_eq (hb : leastBudget ≤ maxBytes) (s : String) :
    splitText s maxBytes = .ok (pieces maxBytes (Utf16.ofString s)) := by
  apply @segments_of_decodes _ ⟨maxBytes, .utf8⟩ _ hb (Source.failure?_ofBytes _)
  rw [Source.delivered_ofBytes]
  exact .utf8 s

theorem splitBytes_eq (hb : leastBudget ≤ maxBytes) (bytes : List UInt8) :
    splitBytes bytes maxBytes = .ok (pieces maxBytes (bytes.map (·.toUInt16))) := by
  apply @segments_of_decodes _ ⟨maxBytes, .latin1⟩ _ hb (Source.failure?_ofBytes _)
  rw [Source.delivered_ofBytes]
  exact .latin1 bytes

-- Nothing is lost and nothing added, and each segment is what it says to be.
theorem split_lossless (hb : 3 ≤ maxBytes) :
    (∀ s, ∃ found, splitText s maxBytes = .ok found ∧
      found.flatMap (·.units) = Utf16.ofString s ∧ ∀ segment ∈ found, segment.Fits maxBytes) ∧
    ∀ bytes, ∃ found, splitBytes bytes maxBytes = .ok found ∧
      found.flatMap (·.units) = bytes.map (·.toUInt16) ∧
      ∀ segment ∈ found, segment.Fits maxBytes := by
  constructor
  case left =>
    intro s
    exact ⟨_, splitText_eq hb s, flatMap_units_pieces hb _, fun _ => fits_of_mem_pieces⟩
  case right =>
    intro bytes
    exact ⟨_, splitBytes_eq hb bytes, flatMap_units_pieces hb _, fun _ => fits_of_mem_pieces⟩

theorem split_lossless_three :
    3 ≤ 3 ∧
    (∃ found, splitText "a😀" 3 = .ok found ∧ found.flatMap (·.units) = [0x61, 0xD83D, 0xDE00] ∧
      ∀ segment ∈ found, segment.Fits 3) ∧
    ∃ found, splitBytes [0x00, 0xFF] 3 = .ok found ∧ found.flatMap (·.units) = [0x00, 0xFF] ∧
      ∀ segment ∈ found, segment.Fits 3 :=
  ⟨by decide, (split_lossless (by decide)).1 "a😀", (split_lossless (by decide)).2 [0x00, 0xFF]⟩

end ResourceEmbedding
