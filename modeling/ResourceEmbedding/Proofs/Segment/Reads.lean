import ResourceEmbedding.Proofs.Segment.Calls

namespace ResourceEmbedding

namespace Source

variable {source taken rest : Source}

def received (answers : Source) : List UInt8 :=
  answers.flatMap fun
    | .bytes bytes => bytes
    | .interrupted => []
    | .failed _    => []

theorem received_append (taken rest : Source) :
    (taken ++ rest).received = taken.received ++ rest.received :=
  List.flatMap_append ..

theorem received_singleton (bytes : List UInt8) : received [.bytes bytes] = bytes :=
  List.append_nil bytes

-- No answer holds more bytes than were asked for.
def WithinBlocks (source : Source) : Prop :=
  ∀ bytes, .bytes bytes ∈ source → bytes.length ≤ blockSize

theorem WithinBlocks.head {block : List UInt8} (h : WithinBlocks (.bytes block :: rest)) :
    block.length ≤ blockSize :=
  h block List.mem_cons_self

theorem WithinBlocks.tail {answer : ReadAnswer} (h : WithinBlocks (answer :: rest)) :
    WithinBlocks rest :=
  fun bytes hm => h bytes (List.mem_cons_of_mem _ hm)

theorem WithinBlocks.of_append (h : WithinBlocks (taken ++ rest)) : rest.WithinBlocks :=
  fun bytes hm => h bytes (List.mem_append_right _ hm)

end Source

namespace Decoder

variable {d d₀ d₁ d₂ d₃ : Decoder} {source taken taken₁ taken₂ : Source} {e : SourceEncoding}
variable {block used decoded decoded₁ decoded₂ : List UInt8}
variable {units units₁ units₂ lookahead : List UInt16} {wanted budget : Nat}

def read (d : Decoder) : Except SegmentError (List UInt16 × Decoder) :=
  match d.source with
  | [] | .bytes [] :: _ =>
    if d.pending.isEmpty then .ok ([], { d with source := d.source.tail, atEnd := true })
    else .error (.invalidUtf8 d.offset)
  | .interrupted :: rest => .ok ([], d.readFrom rest)
  | .failed failure :: _ => .error (.stream failure)
  | .bytes block :: rest => (d.readFrom rest).decodeBlock block

theorem read_bytes (hn : block ≠ []) (rest : Source) :
    (d.readFrom (.bytes block :: rest)).read = (d.readFrom rest).decodeBlock block := by
  cases block
  case nil  => contradiction
  case cons => rfl

-- From `d₁` to `d₂` the answers `taken` are read: of their bytes and those that were pending,
-- `decoded` are decoded as `units`, and the rest are pending.
structure Reads (d₁ d₂ : Decoder) (taken : Source) (decoded : List UInt8) (units : List UInt16) :
    Prop where
  decodes  : Decodes d₁.encoding decoded units
  source   : d₁.source = taken ++ d₂.source
  bytes    : d₁.pending ++ taken.received = decoded ++ d₂.pending
  offset   : d₂.offset = d₁.offset + decoded.length
  encoding : d₂.encoding = d₁.encoding
  sound    : d₂.Sound

theorem Reads.refl (h : d.Sound) : Reads d d [] [] [] where
  decodes  := .nil _
  source   := rfl
  bytes    := List.append_nil _
  offset   := rfl
  encoding := rfl
  sound    := h

theorem Reads.trans (h₁ : Reads d₁ d₂ taken₁ decoded₁ units₁)
    (h₂ : Reads d₂ d₃ taken₂ decoded₂ units₂) :
    Reads d₁ d₃ (taken₁ ++ taken₂) (decoded₁ ++ decoded₂) (units₁ ++ units₂) where
  decodes  := h₁.decodes.append (h₁.encoding ▸ h₂.decodes)
  source   := by rw [h₁.source, h₂.source, List.append_assoc]
  bytes    := by
    rw [Source.received_append, ← List.append_assoc, h₁.bytes, List.append_assoc, h₂.bytes,
      List.append_assoc]
  offset   := by rw [h₂.offset, h₁.offset, List.length_append, Nat.add_assoc]
  encoding := h₂.encoding.trans h₁.encoding
  sound    := h₂.sound

-- Answers without bytes change nothing but what is still to be read.
theorem Reads.skip {rest : Source} {atEnd : Bool} (hs : d.Sound) (h : d.source = taken ++ rest)
    (hn : taken.received = []) (ha : atEnd → d.pending = []) :
    Reads d { d with source := rest, atEnd } taken [] [] where
  decodes  := .nil _
  source   := h
  bytes    := by rw [hn, List.append_nil, List.nil_append]
  offset   := rfl
  encoding := rfl
  sound    := ⟨hs.pending, hs.latin1, ha⟩

theorem Reads.of_takes {rest : Source} (h : d₁.source = .bytes block :: rest)
    (ht : Takes (d₁.readFrom rest) d₂ block used units) :
    Reads d₁ d₂ [.bytes block] used units where
  decodes  := ht.decodes
  source   := by rw [h, ht.source]; rfl
  bytes    := by rw [Source.received_singleton]; exact ht.bytes
  offset   := ht.offset
  encoding := ht.encoding
  sound    := ht.sound

theorem Sound.readFrom (h : d.Sound) (other : Source) : (d.readFrom other).Sound :=
  ⟨h.pending, h.latin1, h.atEnd⟩

theorem read_reads (hs : d₁.Sound) (ha : d₁.atEnd = false) (h : d₁.read = .ok (units, d₂)) :
    ∃ taken decoded, Reads d₁ d₂ taken decoded units := by
  rw [read] at h
  split at h
  case h_1 hn =>
    split at h <;> cases h
    case isTrue hp => exact ⟨[], [], .skip hs (by simp [hn]) rfl fun _ => List.isEmpty_iff.mp hp⟩
  case h_2 rest hn =>
    split at h <;> cases h
    case isTrue hp =>
      exact ⟨[.bytes []], [], .skip hs (by simp [hn]) rfl fun _ => List.isEmpty_iff.mp hp⟩
  case h_3 rest hn =>
    cases h
    exact ⟨[.interrupted], [], .skip hs hn rfl hs.atEnd⟩
  case h_4 => contradiction
  case h_5 block rest _ hn =>
    have ⟨used, ht⟩ := decodeBlock_takes (hs.readFrom rest) ha h
    exact ⟨[.bytes block], used, .of_takes hn ht⟩

inductive Reaches (d₀ : Decoder) : List UInt16 → Decoder → Prop
  | refl : Reaches d₀ [] d₀
  | read {units more : List UInt16} {d₁ d₂ : Decoder} :
    Reaches d₀ units d₁ → d₁.atEnd = false → d₁.read = .ok (more, d₂) →
    Reaches d₀ (units ++ more) d₂

theorem Reaches.reads (hs : d₀.Sound) (h : Reaches d₀ units d) :
    ∃ taken decoded, Reads d₀ d taken decoded units := by
  induction h
  case refl => exact ⟨[], [], .refl hs⟩
  case read ha hr hi =>
    have ⟨_, _, h₁⟩ := hi
    have ⟨_, _, h₂⟩ := read_reads h₁.sound ha hr
    exact ⟨_, _, h₁.trans h₂⟩

-- Decoding as much as is wanted is nothing but reads.
theorem Reaches.fillFrom (h : Reaches d₀ units (d.readFrom source))
    (hf : (d.fillFrom wanted source).1 = .ok ()) :
    Reaches d₀ (units ++ (d.fillFrom wanted source).2.1) (d.fillFrom wanted source).2.2 := by
  fun_induction Decoder.fillFrom d wanted source generalizing units
  case case1 source d wanted hw =>
    rw [List.append_nil]
    exact h
  case case2 d wanted hw =>
    have hp : d.pending = [] := by simpa using hf
    exact h.read (by simp_all [readFrom]) (by simp [Decoder.read, readFrom, hp])
  case case3 d wanted hw rest =>
    have hp : d.pending = [] := by simpa using hf
    exact h.read (by simp_all [readFrom]) (by simp [Decoder.read, readFrom, hp])
  case case4 d wanted hw rest hi =>
    have h := h.read (by simp_all [readFrom]) rfl
    rw [List.append_nil] at h
    exact hi h hf
  case case5 => contradiction
  case case6 d wanted hw block rest hb new d' hd result more d₃ hg hi =>
    have hr : (d.readFrom (.bytes block :: rest)).read = .ok (new, d'.readFrom rest) := by
      rw [read_bytes hb, decodeBlock_readFrom, hd]
      rfl
    have h := hi (h.read (by simp_all [readFrom]) hr) (by rw [hg]; exact hf)
    rw [hg, List.append_assoc] at h
    exact h
  case case7 => contradiction

theorem Reaches.fill (h : Reaches d₀ units d) (hf : (d.fill budget lookahead).1 = .ok ()) :
    ∃ more, (d.fill budget lookahead).2.1 = lookahead ++ more ∧
      Reaches d₀ (units ++ more) (d.fill budget lookahead).2.2 :=
  ⟨_, rfl, @Reaches.fillFrom d d₀ d.source _ _ h hf⟩

-- A block ends at most one character that was begun before it, so it gives at most one unit more
-- than it has bytes.
theorem Takes.length_le (hs : d₁.Sound) (h : Takes d₁ d₂ block used units) :
    units.length ≤ block.length + 1 := by
  have hd := h.decodes
  have hb := h.bytes
  cases he : d₁.encoding <;> rw [he] at hd
  case latin1 =>
    have hl := hd.length_le
    have hn := congrArg List.length hb
    rw [hs.latin1 he, List.nil_append, List.length_append] at hn
    omega
  case utf8 =>
    obtain ⟨cs, rfl, rfl⟩ := Decodes.utf8_iff.mp hd
    exact Utf16.length_ofChars_le_succ hs.pending hb

theorem fillFrom_zero (d : Decoder) (source : Source) : (d.fillFrom 0 source).2.1 = [] := by
  rw [Decoder.fillFrom.eq_def]
  rfl

-- A block is read only as long as units are wanted, so those beyond them are of the last block.
theorem length_fillFrom_le (hs : d.Sound) (hb : source.WithinBlocks) :
    (d.fillFrom wanted source).2.1.length ≤ wanted + Source.blockSize := by
  fun_induction Decoder.fillFrom d wanted source
  case case1 | case2 | case3 | case5 | case7 => exact Nat.zero_le _
  case case4 hi => exact hi hs hb.tail
  case case6 d wanted hw block rest hn new d' hd result more d₃ hg hi =>
    obtain ⟨hw, ha⟩ : wanted ≠ 0 ∧ d.atEnd = false := by simpa using hw
    obtain ⟨_, ht⟩ := decodeBlock_takes hs ha hd
    have hl := ht.length_le hs
    have hm := hb.head
    have hi := hi ht.sound hb.tail
    rw [hg] at hi
    rw [List.length_append]
    by_cases he : wanted ≤ new.length
    case pos =>
      have hz : more = [] := by
        have hz := fillFrom_zero d' rest
        rwa [← Nat.sub_eq_zero_of_le he, hg] at hz
      rw [hz, List.length_nil]
      omega
    case neg =>
      have hi : more.length ≤ wanted - new.length + Source.blockSize := hi
      omega

theorem length_fill_le (hs : d.Sound) (hb : d.source.WithinBlocks)
    (hl : lookahead.length ≤ budget + Source.blockSize + 1) :
    (d.fill budget lookahead).2.1.length ≤ budget + Source.blockSize + 1 := by
  have hf := @length_fillFrom_le d d.source (lacking (budget + 1) lookahead) hs hb
  change (lookahead ++ (d.fillFrom (lacking (budget + 1) lookahead) d.source).2.1).length ≤ _
  rw [List.length_append]
  by_cases hz : lacking (budget + 1) lookahead = 0
  case pos =>
    rw [hz, fillFrom_zero]
    exact hl
  case neg =>
    rw [lacking_eq] at hz hf ⊢
    omega

end Decoder

namespace Splitter

variable {s : Splitter} {source : Source} {config : SegmentConfig}

-- A call leaves the end of what it has filled as the lookahead, and goes on only behind a success.
theorem next_fields (hf : s.finished = false) :
    s.next.2.config = s.config ∧
    s.next.2.lookahead <:+ (s.decoder.fill s.config.maxBytes s.lookahead).2.1 ∧
    (s.next.2.finished = false → (s.decoder.fill s.config.maxBytes s.lookahead).1 = .ok ()) := by
  simp only [next, hf, Bool.false_eq_true, if_false]
  rcases s.decoder.fill s.config.maxBytes s.lookahead with ⟨_ | _, lookahead, d⟩
  case error => exact ⟨rfl, List.suffix_refl _, by simp⟩
  case ok =>
    by_cases hn : (cut s.config.maxBytes lookahead).1 = 0 <;> simp only [hn, if_true, if_false]
    case pos => exact ⟨trivial, List.suffix_refl _, by simp⟩
    case neg => exact ⟨trivial, List.drop_suffix _ _, fun _ => trivial⟩

-- What holds of a splitter of `source` behind any calls.
structure Tracked (source : Source) (config : SegmentConfig) (s : Splitter) : Prop where
  decoder   : s.finished = false →
    ∃ units, Decoder.Reaches (.start source config.encoding) units s.decoder
  lookahead : source.WithinBlocks →
    s.lookahead.length ≤ config.maxBytes + Source.blockSize + 1
  config    : s.config = config

theorem Tracked.start (source : Source) (config : SegmentConfig) :
    Tracked source config ⟨config, .start source config.encoding, [], 0, false⟩ where
  decoder   := fun _ => ⟨[], .refl⟩
  lookahead := fun _ => Nat.zero_le _
  config    := rfl

theorem Tracked.length_fill_le (h : Tracked source config s) (hf : s.finished = false)
    (hb : source.WithinBlocks) :
    (s.decoder.fill s.config.maxBytes s.lookahead).2.1.length ≤
      config.maxBytes + Source.blockSize + 1 := by
  have ⟨_, hr⟩ := h.decoder hf
  have ⟨_, _, hr⟩ := hr.reads (Decoder.start_sound ..)
  have hb' : (Decoder.start source config.encoding).source.WithinBlocks := hb
  rw [hr.source] at hb'
  rw [h.config]
  exact Decoder.length_fill_le hr.sound hb'.of_append (h.lookahead hb)

theorem Tracked.next (h : Tracked source config s) : Tracked source config s.next.2 := by
  cases hf : s.finished
  case true => rwa [Splitter.next, if_pos hf]
  case false =>
    obtain ⟨hc, hl, hok⟩ := next_fields hf
    refine ⟨?decoder, ?lookahead, hc.trans h.config⟩
    case decoder =>
      intro hn
      obtain ⟨_, hr⟩ := h.decoder hf
      obtain ⟨_, _, hr⟩ := hr.fill (hok hn)
      rw [decoder_next hf]
      exact ⟨_, hr⟩
    case lookahead =>
      intro hb
      exact hl.length_le.trans (h.length_fill_le hf hb)

theorem Tracked.askAll (h : Tracked source config s) (calls : List Call) :
    Tracked source config (s.askAll calls).2 := by
  induction calls generalizing s
  case nil => exact h
  case cons call calls hi =>
    rw [askAll_cons, ask_eq]
    exact hi h.next

end Splitter

-- After any reads, none of which failed: the bytes that were read are those that are decoded, as
-- the units that came of them, and then those that are pending, the beginning of one character at
-- most. What is found to be whole characters can always be read as such. A splitter reads in this
-- way only, and if its reader gives no more than it is asked for, the lookahead is bounded.
theorem reads_accounted_for (source : Source) {config : SegmentConfig}
    (hv : config.problem? = none) :
    (∀ units d, Decoder.Reaches (.start source config.encoding) units d →
      (∃ taken decoded, source = taken ++ d.source ∧ taken.received = decoded ++ d.pending ∧
        d.offset = decoded.length ∧ Decodes config.encoding decoded units) ∧
      Utf8.Beginning d.pending ∧ d.pending.length ≤ 3 ∧
      (config.encoding = .latin1 → d.pending = []) ∧
      (∀ block whole, Utf8.wholeLength (d.pending ++ block) = .ok whole →
        ∃ cs, Utf8.decode ((d.pending ++ block).take whole) = .ok cs) ∧
      ∀ budget lookahead, (d.fill budget lookahead).1 = .ok () →
        ∃ more, (d.fill budget lookahead).2.1 = lookahead ++ more ∧
          Decoder.Reaches (.start source config.encoding) (units ++ more)
            (d.fill budget lookahead).2.2) ∧
    ∃ s₀, Splitter.start source config = .ok s₀ ∧ ∀ calls,
      let s := (s₀.askAll calls).2
      (s.finished = false →
        ∃ units, Decoder.Reaches (.start source config.encoding) units s.decoder) ∧
      ((∀ bytes, .bytes bytes ∈ source → bytes.length ≤ 8192) →
        s.lookahead.length ≤ config.maxBytes + 8193 ∧
        (s.finished = false →
          (s.decoder.fill s.config.maxBytes s.lookahead).2.1.length ≤ config.maxBytes + 8193)) := by
  constructor
  case left =>
    intro units d hd
    have ⟨taken, decoded, hr⟩ := hd.reads (Decoder.start_sound ..)
    refine ⟨⟨taken, decoded, hr.source, hr.bytes, ?offset, hr.decodes⟩, hr.sound.pending,
      Nat.le_of_lt_succ hr.sound.pending.length_lt, ?latin1, ?whole, fun _ _ => hd.fill⟩
    case offset => exact hr.offset.trans (Nat.zero_add _)
    case latin1 => exact fun he => hr.sound.latin1 (hr.encoding.trans he)
    case whole =>
      intro block whole hw
      have ⟨cs, hc, _⟩ := Utf8.decode_take_wholeLength hw
      exact ⟨cs, hc⟩
  case right =>
    refine ⟨_, Splitter.start_eq_ok (config.leastBudget_le hv), fun calls => ?_⟩
    have ht := (Splitter.Tracked.start source config).askAll calls
    exact ⟨ht.decoder, fun hb => ⟨ht.lookahead hb, fun hf => ht.length_fill_le hf hb⟩⟩

-- A character that is cut by two reads and an interruption, before its last byte is read.
theorem reads_accounted_for_cut_character :
    let config : SegmentConfig := ⟨6, .utf8⟩
    let source : Source :=
      [.bytes [0x61, 0xF0], .interrupted, .bytes [0x9F, 0x98], .bytes [0x80, 0x62]]
    let d : Decoder := ⟨[.bytes [0x80, 0x62]], .utf8, [0xF0, 0x9F, 0x98], 1, false⟩
    let s₀ : Splitter := ⟨config, .start source .utf8, [], 0, false⟩
    config.problem? = none ∧ Decoder.Reaches (.start source .utf8) [0x61] d ∧
    (∃ taken decoded, source = taken ++ d.source ∧ taken.received = decoded ++ d.pending ∧
      d.offset = decoded.length ∧ Decodes .utf8 decoded [0x61]) ∧
    Utf8.Beginning d.pending ∧ Utf8.wholeLength (d.pending ++ [0x80, 0x62]) = .ok 5 ∧
    (∃ cs, Utf8.decode ((d.pending ++ [0x80, 0x62]).take 5) = .ok cs) ∧
    d.fill 3 [0x61] =
      (.ok (), [0x61, 0xD83D, 0xDE00, 0x62], ⟨[], .utf8, [], 6, false⟩) ∧
    (∃ more, [0x61, 0xD83D, 0xDE00, 0x62] = [0x61] ++ more ∧
      Decoder.Reaches (.start source .utf8) ([0x61] ++ more) ⟨[], .utf8, [], 6, false⟩) ∧
    (∀ bytes, .bytes bytes ∈ source → bytes.length ≤ 8192) ∧
    Splitter.start source config = .ok s₀ ∧
    (s₀.askAll [.next]).2.lookahead.length ≤ config.maxBytes + 8193 := by
  intro config source d s₀
  have hv : config.problem? = none := rfl
  have hd : Decoder.Reaches (.start source .utf8) [0x61] d := by
    have h : Decoder.Reaches (.start source .utf8) [] _ := .refl
    have h : Decoder.Reaches _ ([] ++ [0x61]) ⟨source.tail, .utf8, [0xF0], 1, false⟩ :=
      h.read rfl (by decide +kernel)
    have h : Decoder.Reaches _ ([0x61] ++ []) ⟨source.tail.tail, .utf8, [0xF0], 1, false⟩ :=
      h.read rfl (by decide +kernel)
    have h : Decoder.Reaches _ ([0x61] ++ []) d := h.read rfl (by decide +kernel)
    exact h
  have hm : ∀ bytes, .bytes bytes ∈ source → bytes.length ≤ 8192 := by simp [source]
  have hw : Utf8.wholeLength (d.pending ++ [0x80, 0x62]) = .ok 5 := by decide +kernel
  have hf : d.fill 3 [0x61] =
      (.ok (), [0x61, 0xD83D, 0xDE00, 0x62], ⟨[], .utf8, [], 6, false⟩) := by decide +kernel
  have ⟨h, _, hs, h'⟩ := reads_accounted_for source hv
  have ⟨ha, hb, _, _, hc, hr⟩ := h [0x61] d hd
  have hr := hr 3 [0x61] (by rw [hf])
  rw [hf] at hr
  cases hs
  exact ⟨hv, hd, ha, hb, hw, hc _ _ hw, hf, hr, hm, rfl, ((h' [.next]).2 hm).1⟩

end ResourceEmbedding
