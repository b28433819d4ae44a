import ResourceEmbedding.Proofs.Segment.Splitter

namespace ResourceEmbedding

variable {source : Source} {config : SegmentConfig}

namespace Decoder

variable {d : Decoder} {wanted : Nat}

def readFrom (d : Decoder) (source : Source) : Decoder :=
  { d with source }

def extend (d : Decoder) (more : Source) : Decoder :=
  d.readFrom (d.source ++ more)

theorem atEnd_fillFrom (h : d.atEnd) : (d.fillFrom wanted source).2.2.atEnd := by
  rw [fillFrom.eq_def, if_pos (by simp [h])]
  exact h

theorem decodePending_readFrom (d : Decoder) (other : Source) :
    (d.readFrom other).decodePending =
      d.decodePending.map fun (units, d) => (units, d.readFrom other) := by
  have hp : (d.readFrom other).pending = d.pending := rfl
  rw [decodePending, decodePending, hp]
  cases Utf8.wholeLength d.pending
  case error    => rfl
  case ok whole => cases hc : Utf8.decode (d.pending.take whole) <;> simp only [hc] <;> rfl

theorem decodeBlock_readFrom (d : Decoder) (other : Source) (bytes : List UInt8) :
    (d.readFrom other).decodeBlock bytes =
      (d.decodeBlock bytes).map fun (units, d) => (units, d.readFrom other) := by
  obtain ⟨source, encoding, pending, offset, atEnd⟩ := d
  cases encoding
  case latin1 => rfl
  case utf8   => exact decodePending_readFrom ⟨source, .utf8, pending ++ bytes, offset, atEnd⟩ other

theorem fillFrom_append (more : Source) (h : (d.fillFrom wanted source).2.2.atEnd = false)
    (other : Source) :
    (d.readFrom other).fillFrom wanted (source ++ more) =
      ((d.fillFrom wanted source).1, (d.fillFrom wanted source).2.1,
        (d.fillFrom wanted source).2.2.extend more) := by
  have ha (d : Decoder) : (d.readFrom other).atEnd = d.atEnd := rfl
  fun_induction fillFrom d wanted source <;> rw [fillFrom.eq_def, ha]
  case case1 source d wanted hw =>
    rw [if_pos hw]
    rfl
  case case2 => cases h
  case case3 => cases h
  case case4 d wanted hw source hi =>
    rw [if_neg hw]
    exact hi h
  case case5 d wanted hw failure source =>
    rw [if_neg hw]
    rfl
  case case6 d wanted hw bytes source hb units d₂ hd result filled d₃ hf hi =>
    rw [hf] at hi
    rw [if_neg hw]
    simp only [List.cons_append, decodeBlock_readFrom, hd, Except.map, hi h]
  case case7 d wanted hw bytes source hb e hd =>
    rw [if_neg hw]
    simp only [List.cons_append, decodeBlock_readFrom, hd, Except.map]
    rfl

theorem fill_append {budget : Nat} {lookahead : List UInt16} (more : Source)
    (h : (d.fill budget lookahead).2.2.atEnd = false) :
    (d.extend more).fill budget lookahead =
      ((d.fill budget lookahead).1, (d.fill budget lookahead).2.1,
        (d.fill budget lookahead).2.2.extend more) := by
  have hs : (d.extend more).source = d.source ++ more := rfl
  rw [fill, hs, extend, fillFrom_append more h]
  rfl

end Decoder

namespace Splitter

variable {s : Splitter}

def readFrom (s : Splitter) (source : Source) : Splitter :=
  { s with decoder := s.decoder.readFrom source }

-- A caller asks for a segment if there is one, or for the next item of an iteration.
inductive Call
  | next
  | nextItem
deriving DecidableEq

inductive Reply
  | next (result : Except SegmentError (Option Segment))
  | nextItem (item : Option (Except SegmentError Segment))
deriving DecidableEq

namespace Reply

def result : Reply → Except SegmentError (Option Segment)
  | .next result                    => result
  | .nextItem none                  => .ok none
  | .nextItem (some (.ok segment))  => .ok (some segment)
  | .nextItem (some (.error e))     => .error e

def segment? (reply : Reply) : Option Segment :=
  match reply.result with
  | .ok segment? => segment?
  | .error _     => none

end Reply

def segmentsOf (replies : List Reply) : List Segment :=
  replies.filterMap (·.segment?)

namespace Call

def nothing : Call → Reply
  | .next     => .next (.ok none)
  | .nextItem => .nextItem none

def reply : Call → Except SegmentError (Option Segment) → Reply
  | .next, result                 => .next result
  | .nextItem, .ok none           => .nextItem none
  | .nextItem, .ok (some segment) => .nextItem (some (.ok segment))
  | .nextItem, .error e           => .nextItem (some (.error e))

theorem result_reply (call : Call) (result : Except SegmentError (Option Segment)) :
    (call.reply result).result = result := by
  cases call
  case next     => rfl
  case nextItem => rcases result with _ | _ | _ <;> rfl

theorem reply_none (call : Call) : call.reply (.ok none) = call.nothing := by
  cases call <;> rfl

end Call

def ask (s : Splitter) : Call → Reply × Splitter
  | .next     => (.next s.next.1, s.next.2)
  | .nextItem => (.nextItem s.nextItem.1, s.nextItem.2)

def askAll (s : Splitter) : List Call → List Reply × Splitter
  | []            => ([], s)
  | call :: calls =>
    let (reply, s) := s.ask call
    let (replies, s) := s.askAll calls
    (reply :: replies, s)

theorem askAll_cons (s : Splitter) (call : Call) (calls : List Call) :
    s.askAll (call :: calls) =
      ((s.ask call).1 :: ((s.ask call).2.askAll calls).1, ((s.ask call).2.askAll calls).2) :=
  rfl

theorem ask_eq (s : Splitter) (call : Call) : s.ask call = (call.reply s.next.1, s.next.2) := by
  cases call
  case next => rfl
  case nextItem =>
    rw [ask, nextItem]
    rcases s.next with ⟨_ | _ | _, _⟩ <;> rfl

theorem result_ask (s : Splitter) (call : Call) : (s.ask call).1.result = s.next.1 := by
  rw [ask_eq, call.result_reply]

-- What a call does to a splitter at work.
inductive Turn (s : Splitter) : Except SegmentError (Option Segment) × Splitter → Prop
  | segment {segment : Segment} {lookahead : List UInt16} {decoder : Decoder} :
    Turn s (.ok (some segment), { s with decoder, lookahead, produced := s.produced + 1 })
  | nothing {decoder : Decoder} (h : decoder.atEnd) :
    Turn s (.ok none, { s with decoder, lookahead := [], finished := true })
  | failure {e : SegmentError} {lookahead : List UInt16} {decoder : Decoder} :
    Turn s (.error e, { s with decoder, lookahead, finished := true })

theorem next_turn (hs : s.Sound) : Turn s s.next := by
  rw [next_eq hs]
  rcases hf : s.decoder.fill s.config.maxBytes s.lookahead with ⟨_ | _, lookahead, d⟩
  case error => exact .failure
  case ok =>
    by_cases hn : pieceLength s.config.maxBytes lookahead = 0
    case neg =>
      simp only [hn, if_false]
      exact .segment
    case pos =>
      have ⟨hl, hd⟩ := eq_nil_of_cut_eq_zero hs hf (by rw [cut_eq, hn])
      subst hl
      exact .nothing hd

-- A splitter that has finished does not even look at its reader.
theorem ask_of_finished (h : s.finished) (call : Call) : s.ask call = (call.nothing, s) := by
  rw [ask_eq, next, if_pos h, call.reply_none]

theorem askAll_of_finished (h : s.finished) (calls : List Call) :
    s.askAll calls = (calls.map Call.nothing, s) := by
  induction calls
  case nil => rfl
  case cons call calls hi => rw [askAll_cons, ask_of_finished h, hi, List.map_cons]

variable {s₀ : Splitter} {replies : List Reply}

theorem segmentsOf_append_segment {reply : Reply} {segment : Segment}
    (h : reply.result = .ok (some segment)) :
    segmentsOf (replies ++ [reply]) = segmentsOf replies ++ [segment] := by
  simp [segmentsOf, Reply.segment?, h]

theorem segmentsOf_append_other {reply : Reply} (h : ∀ segment, reply.result ≠ .ok (some segment)) :
    segmentsOf (replies ++ [reply]) = segmentsOf replies := by
  have hn : reply.segment? = none := by
    rw [Reply.segment?]
    split
    case h_1 segment? hr => cases segment? <;> [rfl; exact absurd hr (h _)]
    case h_2 => rfl
  simp [segmentsOf, hn]

-- How far a splitter has come since `s₀` with its replies: all of them are segments, or there was
-- an end, or there was a failure.
inductive Stage (s₀ : Splitter) (replies : List Reply) (s : Splitter) : Prop
  | working {used : List UInt8} {units : List UInt16}
    (ha : Advance s₀ s (segmentsOf replies) used units)
  | exhausted {units : List UInt16} (hf : s.finished) (hl : s.lookahead = []) (he : s.decoder.atEnd)
    (hn : s₀.decoder.failure? = none) (hd : Decodes s₀.decoder.encoding s₀.decoder.rest units)
    (hp : segmentsOf replies = pieces s₀.config.maxBytes (s₀.lookahead ++ units))
  | failed {reply : Reply} {e : SegmentError} (hf : s.finished) (hm : reply ∈ replies)
    (he : reply.result = .error e)

-- What holds behind any calls.
structure Kept (s₀ : Splitter) (replies : List Reply) (s : Splitter) : Prop where
  produced : s.produced = s₀.produced + (segmentsOf replies).length
  stage    : Stage s₀ replies s

theorem Stage.exists_advance (h : Stage s₀ replies s) (hf : s.finished = false) :
    ∃ used units, Advance s₀ s (segmentsOf replies) used units := by
  cases h
  case working ha => exact ⟨_, _, ha⟩
  case exhausted h _ _ _ _ _ => cases hf.symm.trans h
  case failed h _ _ => cases hf.symm.trans h

-- A splitter at work that finds no more has come to the end of the source.
theorem Advance.end_of_source {used : List UInt8} {units : List UInt16}
    (ha : Advance s₀ s (segmentsOf replies) used units) (hn : s.next.1 = .ok none) :
    s₀.decoder.failure? = none ∧ Decodes s₀.decoder.encoding s₀.decoder.rest units ∧
      segmentsOf replies = pieces s₀.config.maxBytes (s₀.lookahead ++ units) := by
  have ⟨hl, hr, hf⟩ := next_none ha.sound (Prod.ext hn rfl)
  have hu : s₀.decoder.rest = used := by rw [ha.decoder.rest, hr, List.append_nil]
  have hc := ha.cuts [] (fun _ => rfl)
  rw [hl, List.append_nil, List.append_nil, pieces_nil, List.append_nil] at hc
  exact ⟨ha.decoder.failure.symm.trans hf, hu ▸ ha.decoder.decodes, hc.symm⟩

theorem Kept.idle (h : Kept s₀ replies s) (hf : s.finished) (call : Call) :
    Kept s₀ (replies ++ [call.nothing]) s := by
  have hs : segmentsOf (replies ++ [call.nothing]) = segmentsOf replies :=
    segmentsOf_append_other (by simp [← call.reply_none, call.result_reply])
  refine ⟨hs ▸ h.produced, ?_⟩
  cases h.stage
  case working ha => cases hf.symm.trans ha.sound.running
  case exhausted hl he hn hd hp => exact .exhausted hf hl he hn hd (hs ▸ hp)
  case failed hf hm he => exact .failed hf (List.mem_append_left _ hm) he

theorem Kept.step (h : Kept s₀ replies s) (hf : s.finished = false) {reply : Reply} {s' : Splitter}
    (hn : s.next = (reply.result, s')) : Kept s₀ (replies ++ [reply]) s' := by
  have ⟨_, units, ha⟩ := h.stage.exists_advance hf
  have ht := hn ▸ next_turn ha.sound
  generalize hr : reply.result = result at hn ht
  cases ht
  case segment segment lookahead decoder =>
    have ⟨⟨_, _, ha'⟩, _⟩ := next_some ha.sound hn
    have hg := @segmentsOf_append_segment replies _ _ hr
    exact ⟨by simp [hg, h.produced, Nat.add_assoc], .working (hg ▸ ha.trans ha')⟩
  case nothing decoder he =>
    have hg := @segmentsOf_append_other replies reply (by simp [hr])
    have ⟨hf, hd, hp⟩ := ha.end_of_source (congrArg Prod.fst hn)
    exact ⟨hg ▸ h.produced, .exhausted rfl rfl he hf hd (hg ▸ hp)⟩
  case failure e lookahead decoder =>
    have hg := @segmentsOf_append_other replies reply (by simp [hr])
    exact ⟨hg ▸ h.produced, .failed rfl (by simp) hr⟩

theorem Kept.ask (h : Kept s₀ replies s) (call : Call) :
    Kept s₀ (replies ++ [(s.ask call).1]) (s.ask call).2 := by
  cases hf : s.finished
  case true =>
    rw [Splitter.ask_of_finished hf]
    exact h.idle hf call
  case false =>
    rw [ask_eq]
    exact h.step hf (Prod.ext (call.result_reply _).symm rfl)

theorem Kept.askAll (h : Kept s₀ replies s) (calls : List Call) :
    Kept s₀ (replies ++ (s.askAll calls).1) (s.askAll calls).2 := by
  induction calls generalizing replies s
  case nil => simpa [Splitter.askAll] using h
  case cons call calls hi => simpa [askAll_cons] using hi (h.ask call)

-- Without a segment a call is the last one that does anything.
theorem Kept.finished_ask (h : Kept s₀ replies s) {call : Call}
    (hn : ∀ segment, (s.ask call).1.result ≠ .ok (some segment)) : (s.ask call).2.finished := by
  cases hf : s.finished
  case true => rwa [Splitter.ask_of_finished hf]
  case false =>
    have ⟨_, _, ha⟩ := h.stage.exists_advance hf
    have ht := next_turn ha.sound
    rw [result_ask] at hn
    rw [ask_eq]
    generalize s.next = after at hn ht
    cases ht
    case segment => exact absurd rfl (hn _)
    case nothing => rfl
    case failure => rfl

-- Nothing comes of calls any more, and they do not touch the reader, whichever it is.
def Fused (s : Splitter) : Prop :=
  ∀ calls other, (s.readFrom other).askAll calls = (calls.map Call.nothing, s.readFrom other)

theorem fused_of_finished (h : s.finished) : s.Fused :=
  fun calls other => @askAll_of_finished (s.readFrom other) h calls

-- The source is used up, and all that it delivers is in `segments`.
structure Drained (source : Source) (e : SourceEncoding) (segments : List Segment) (s : Splitter) :
    Prop where
  lookahead : s.lookahead = []
  atEnd     : s.decoder.atEnd
  unharmed  : source.failure? = none
  decodes   : Decodes e source.delivered (segments.flatMap (·.units))

-- An end is early only behind a failure.
theorem Kept.drained {call : Call}
    (h : Kept ⟨config, .start source config.encoding, [], 0, false⟩ replies s)
    (hb : leastBudget ≤ config.maxBytes) (hn : (s.ask call).1.result = .ok none)
    (hr : ∀ reply ∈ replies, ∀ e, reply.result ≠ .error e) :
    Drained source config.encoding (segmentsOf replies) (s.ask call).2 := by
  have hf := @Kept.finished_ask _ _ _ h call (by simp [hn])
  have hs := @segmentsOf_append_other replies (s.ask call).1 (by simp [hn])
  cases (h.ask call).stage
  case working ha => cases hf.symm.trans ha.sound.running
  case exhausted units _ hl ha hn hd hp =>
    have hu : (segmentsOf replies).flatMap (·.units) = units := by
      rw [← hs, hp]
      exact flatMap_units_pieces hb units
    exact ⟨hl, ha, hn, hu ▸ hd⟩
  case failed reply e _ hm he =>
    cases List.mem_append.mp hm
    case inl hm => exact absurd he (hr reply hm e)
    case inr hm => cases hn.symm.trans (List.mem_singleton.mp hm ▸ he)

theorem decoder_next (hf : s.finished = false) :
    s.next.2.decoder = (s.decoder.fill s.config.maxBytes s.lookahead).2.2 := by
  simp only [next, hf, Bool.false_eq_true, if_false]
  split
  case h_1 => rfl
  case h_2 => split <;> rfl

theorem atEnd_next (h : s.decoder.atEnd) : s.next.2.decoder.atEnd := by
  cases hf : s.finished
  case true => rwa [next, if_pos hf]
  case false =>
    rw [decoder_next hf]
    exact Decoder.atEnd_fillFrom h

def extend (s : Splitter) (more : Source) : Splitter :=
  { s with decoder := s.decoder.extend more }

theorem next_extend (more : Source) (h : s.next.2.decoder.atEnd = false) :
    (s.extend more).next = (s.next.1, s.next.2.extend more) := by
  have hf' : (s.extend more).finished = s.finished := rfl
  cases hf : s.finished
  case true => rw [next, next, hf', if_pos hf, if_pos hf]
  case false =>
    rw [decoder_next hf] at h
    have he := Decoder.fill_append more h
    rcases hd : s.decoder.fill s.config.maxBytes s.lookahead with ⟨result, lookahead, d⟩
    rw [hd] at he
    have he : (s.extend more).decoder.fill s.config.maxBytes (s.extend more).lookahead =
        (result, lookahead, d.extend more) := he
    have hc : (s.extend more).config = s.config := rfl
    simp only [next, hf', hf, Bool.false_eq_true, if_false, hc, he, hd]
    cases result
    case error => rfl
    case ok =>
      by_cases hn : (cut s.config.maxBytes lookahead).1 = 0 <;>
        · simp only [hn, if_true, if_false]
          rfl

theorem ask_extend (more : Source) (call : Call) (h : (s.ask call).2.decoder.atEnd = false) :
    (s.extend more).ask call = ((s.ask call).1, (s.ask call).2.extend more) := by
  rw [ask_eq] at h
  rw [ask_eq, ask_eq, next_extend more h]

theorem atEnd_askAll (h : s.decoder.atEnd) (calls : List Call) :
    (s.askAll calls).2.decoder.atEnd := by
  induction calls generalizing s
  case nil => exact h
  case cons call calls hi =>
    rw [askAll_cons, ask_eq]
    exact hi (atEnd_next h)

theorem askAll_extend (more : Source) (calls : List Call)
    (h : (s.askAll calls).2.decoder.atEnd = false) :
    (s.extend more).askAll calls = ((s.askAll calls).1, (s.askAll calls).2.extend more) := by
  induction calls generalizing s
  case nil => rfl
  case cons call calls hi =>
    rw [askAll_cons] at h
    have ha : (s.ask call).2.decoder.atEnd = false := by
      by_contra ha
      cases h.symm.trans (atEnd_askAll (Bool.eq_true_of_not_eq_false ha) calls)
    rw [askAll_cons, askAll_cons, ask_extend more call ha, hi h]

end Splitter

open Splitter

theorem SegmentConfig.leastBudget_le {config : SegmentConfig} (h : config.problem? = none) :
    leastBudget ≤ config.maxBytes := by
  by_contra hb
  simp [problem?, Nat.not_le.mp hb] at h

-- Behind any calls, in either form and over any reader: the segments are counted, and where nothing
-- can be cut there is nothing left. An end without a failure before it is that of the source, and
-- behind an end or a failure the reader is left alone. Until the end, all of this depends on the
-- answers that are read only.
theorem calls_drain_source (source : Source) {config : SegmentConfig}
    (hv : config.problem? = none) :
    ∃ s₀, start source config = .ok s₀ ∧ ∀ calls,
      let replies := (s₀.askAll calls).1
      let s := (s₀.askAll calls).2
      s.produced = (segmentsOf replies).length ∧
      (s.finished = false → ∀ lookahead decoder,
        s.decoder.fill s.config.maxBytes s.lookahead = (.ok (), lookahead, decoder) →
        (cut s.config.maxBytes lookahead).1 = 0 → lookahead = [] ∧ decoder.atEnd) ∧
      (∀ call, (s.ask call).1.result = .ok none →
        (∀ reply ∈ replies, ∀ e, reply.result ≠ .error e) →
        Drained source config.encoding (segmentsOf replies) (s.ask call).2) ∧
      (∀ call, (∀ segment, (s.ask call).1.result ≠ .ok (some segment)) → (s.ask call).2.Fused) ∧
      (s.decoder.atEnd = false → ∀ more, ∃ s₁, start (source ++ more) config = .ok s₁ ∧
        s₁.askAll calls = (replies, s.extend more)) := by
  have hb := config.leastBudget_le hv
  let s₀ : Splitter := ⟨config, .start source config.encoding, [], 0, false⟩
  have hs : s₀.Sound := ⟨Decoder.start_sound .., hb, rfl⟩
  have hk : Kept s₀ [] s₀ := ⟨rfl, .working (.refl hs)⟩
  refine ⟨s₀, start_eq_ok hb, ?_⟩
  intro calls replies s
  have hk : Kept s₀ replies s := hk.askAll calls
  refine ⟨?counted, ?cut, ?drained, ?fused, ?unread⟩
  case counted => exact hk.produced.trans (Nat.zero_add _)
  case cut =>
    intro hf _ _ hl hc
    have ⟨_, _, ha⟩ := hk.stage.exists_advance hf
    exact eq_nil_of_cut_eq_zero ha.sound hl hc
  case drained =>
    intro call hn hr
    exact hk.drained hb hn hr
  case fused =>
    intro call hn
    exact fused_of_finished (hk.finished_ask hn)
  case unread =>
    intro ha more
    exact ⟨s₀.extend more, start_eq_ok hb, askAll_extend more calls ha⟩

-- A character cut by two reads and an interruption, an end that the reader would not have kept to,
-- and a reader that fails.
theorem calls_drain_source_broken :
    let config : SegmentConfig := ⟨6, .utf8⟩
    let source : Source :=
      [.bytes [0x61, 0xF0], .interrupted, .bytes [0x9F, 0x98, 0x80], .bytes [], .bytes [0x62]]
    let s₀ : Splitter := ⟨config, .start source .utf8, [], 0, false⟩
    let s := (s₀.askAll [.next, .nextItem]).2
    let replies : List Reply :=
      [.next (.ok (some ⟨[0x61], 1⟩)), .nextItem (some (.ok ⟨[0xD83D, 0xDE00], 6⟩))]
    let broken : Splitter :=
      ⟨config, .start [.bytes [0x61], .failed ⟨.other, "gone"⟩] .utf8, [], 0, false⟩
    config.problem? = none ∧ start source config = .ok s₀ ∧
    (s₀.askAll [.next, .nextItem]).1 = replies ∧ s.produced = 2 ∧
    (s.ask .nextItem).1 = .nextItem none ∧
    Drained source .utf8 (segmentsOf replies) (s.ask .nextItem).2 ∧ (s.ask .nextItem).2.Fused ∧
    (broken.ask .next).1 = .next (.error (.stream ⟨.other, "gone"⟩)) ∧
    (broken.ask .next).2.Fused := by
  intro config source s₀ s replies broken
  have hv : config.problem? = none := rfl
  have ⟨_, hs, h⟩ := calls_drain_source source hv
  cases hs
  have ⟨hp, _, hd, hf, _⟩ := h [.next, .nextItem]
  have hr : (s₀.askAll [.next, .nextItem]).1 = replies := by decide +kernel
  have hn : (s.ask .nextItem).1 = .nextItem none := by decide +kernel
  have hg : ∀ reply ∈ replies, ∀ e, reply.result ≠ .error e := by simp [replies, Reply.result]
  have ⟨_, hs', h'⟩ := calls_drain_source [.bytes [0x61], .failed ⟨.other, "gone"⟩] hv
  cases hs'
  have hf' : (∀ segment, (broken.ask .next).1.result ≠ .ok (some segment)) →
      (broken.ask .next).2.Fused := (h' []).2.2.2.1 .next
  have he : (broken.ask .next).1 = .next (.error (.stream ⟨.other, "gone"⟩)) := by decide +kernel
  refine ⟨hv, rfl, hr, by rw [hp, hr]; rfl, hn, ?_, ?_, he, ?_⟩
  · rw [← hr]
    exact hd .nextItem (by rw [hn]; rfl) (hr ▸ hg)
  · exact hf .nextItem (by rw [hn]; simp [Reply.result])
  · exact hf' (by rw [he]; simp [Reply.result])

end ResourceEmbedding
