import ResourceEmbedding.Segment.Decoder
import ResourceEmbedding.Proofs.Text.Utf16
import Mathlib.Data.List.Basic
import Mathlib.Tactic

namespace ResourceEmbedding

namespace Source

variable {source rest : Source} {block bytes : List UInt8} {size room : Nat}

-- The bytes that come before the end of the source or its first failure.
def delivered : Source → List UInt8
  | [] | .bytes [] :: _ | .failed _ :: _ => []
  | .bytes bs :: rest => bs ++ delivered rest
  | .interrupted :: rest => delivered rest

-- The failure that the source ends in, if it does not end by itself.
def failure? : Source → Option StreamFailure
  | [] | .bytes [] :: _ => none
  | .failed failure :: _ => some failure
  | .bytes _ :: rest | .interrupted :: rest => failure? rest

theorem delivered_bytes (h : bytes ≠ []) :
    delivered (.bytes bytes :: rest) = bytes ++ delivered rest := by
  cases bytes
  case nil  => contradiction
  case cons => rfl

theorem failure?_bytes (h : bytes ≠ []) : failure? (.bytes bytes :: rest) = failure? rest := by
  cases bytes
  case nil  => contradiction
  case cons => rfl

theorem readAllOnto_eq (done : List (List UInt8)) (source : Source) :
    readAllOnto done source =
      match source.failure? with
      | none => .ok (done.reverse.flatten ++ source.delivered)
      | some failure => .error failure := by
  fun_induction readAllOnto done source <;>
    simp_all [delivered, failure?, delivered_bytes, failure?_bytes]

-- A source that can be read to its end delivers what is read.
theorem readAll_eq_ok_iff :
    source.readAll = .ok bytes ↔ source.failure? = none ∧ source.delivered = bytes := by
  simp only [readAll, readAllOnto_eq]
  cases source.failure? <;> simp

theorem blocksFrom_ne_nil (h : block ≠ [] ∨ 0 < room) :
    ∀ bs ∈ blocksFrom size block room bytes, bs ≠ [] := by
  fun_induction blocksFrom size block room bytes <;> simp_all

theorem flatten_blocksFrom (size room : Nat) (block bytes : List UInt8) :
    (blocksFrom size block room bytes).flatten = block.reverse ++ bytes := by
  fun_induction blocksFrom size block room bytes <;> simp_all

theorem delivered_map_bytes {blocks : List (List UInt8)} (h : ∀ bs ∈ blocks, bs ≠ []) :
    delivered (blocks.map .bytes) = blocks.flatten ∧ failure? (blocks.map .bytes) = none := by
  induction blocks
  case nil => simp [delivered, failure?]
  case cons bs blocks hi =>
    have ⟨hb, h⟩ := List.forall_mem_cons.mp h
    have ⟨hd, hf⟩ := hi h
    simp [delivered_bytes hb, failure?_bytes hb, hd, hf]

theorem blocks_ne_nil (bytes : List UInt8) : ∀ bs ∈ blocks bytes, bs ≠ [] :=
  blocksFrom_ne_nil (.inr (by decide))

theorem delivered_ofBytes (bytes : List UInt8) : (ofBytes bytes).delivered = bytes := by
  rw [ofBytes, (delivered_map_bytes (blocks_ne_nil bytes)).1, blocks, flatten_blocksFrom]
  rfl

theorem failure?_ofBytes (bytes : List UInt8) : (ofBytes bytes).failure? = none :=
  (delivered_map_bytes (blocks_ne_nil bytes)).2

end Source

inductive Decodes : SourceEncoding → List UInt8 → List UInt16 → Prop
  | utf8 (text : String)          : Decodes .utf8 (Utf8.encode text) (Utf16.ofString text)
  | latin1 (bytes : List UInt8)   : Decodes .latin1 bytes (bytes.map (·.toUInt16))

namespace Decodes

variable {e : SourceEncoding} {bytes bytes₁ bytes₂ tail : List UInt8}
variable {units units₁ units₂ : List UInt16} {cs : List Char}

theorem ofChars (cs : List Char) : Decodes .utf8 (cs.flatMap Utf8.ofChar) (Utf16.ofChars cs) := by
  simpa [Utf8.encode, Utf16.ofString] using utf8 (.ofList cs)

theorem utf8_iff :
    Decodes .utf8 bytes units ↔
      ∃ cs, bytes = cs.flatMap Utf8.ofChar ∧ units = Utf16.ofChars cs := by
  constructor
  case mp  => exact fun | utf8 text => ⟨text.toList, rfl, rfl⟩
  case mpr => exact fun ⟨cs, hb, hu⟩ => hb ▸ hu ▸ ofChars cs

theorem latin1_iff : Decodes .latin1 bytes units ↔ units = bytes.map (·.toUInt16) := by
  constructor
  case mp  => exact fun | latin1 _ => rfl
  case mpr => exact (· ▸ latin1 bytes)

theorem nil : (e : SourceEncoding) → Decodes e [] []
  | .utf8   => ofChars []
  | .latin1 => latin1 []

theorem append (h₁ : Decodes e bytes₁ units₁) (h₂ : Decodes e bytes₂ units₂) :
    Decodes e (bytes₁ ++ bytes₂) (units₁ ++ units₂) := by
  cases e
  case utf8 =>
    have ⟨cs₁, hb₁, hu₁⟩ := utf8_iff.mp h₁
    have ⟨cs₂, hb₂, hu₂⟩ := utf8_iff.mp h₂
    exact utf8_iff.mpr ⟨cs₁ ++ cs₂, by simp [hb₁, hb₂], by simp [hu₁, hu₂, Utf16.ofChars_append]⟩
  case latin1 =>
    simp_all [latin1_iff]

theorem length_le (h : Decodes e bytes units) : units.length ≤ bytes.length := by
  cases e
  case utf8 =>
    have ⟨cs, hb, hu⟩ := utf8_iff.mp h
    exact hb ▸ hu ▸ Utf16.length_ofChars_le cs
  case latin1 => simp [latin1_iff.mp h]

theorem eq_nil_iff (h : Decodes e bytes units) : bytes = [] ↔ units = [] := by
  cases e
  case utf8 =>
    have ⟨cs, hb, hu⟩ := utf8_iff.mp h
    cases cs
    case nil => simp_all [Utf16.ofChars]
    case cons c cs =>
      have := Utf8.ofChar_ne_nil c
      have := Utf16.ofChar_ne_nil c
      simp_all [Utf16.ofChars_cons]
  case latin1 => simp [latin1_iff.mp h]

-- What a beginning of the bytes stands for is a beginning of what the bytes stand for.
theorem exists_append (h₁ : Decodes e bytes₁ units₁) (h : Decodes e (bytes₁ ++ bytes₂) units) :
    ∃ units₂, units = units₁ ++ units₂ ∧ Decodes e bytes₂ units₂ := by
  cases e
  case utf8 =>
    have ⟨cs₁, hb₁, hu₁⟩ := utf8_iff.mp h₁
    have ⟨cs, hb, hu⟩ := utf8_iff.mp h
    have ⟨cs₂, hc⟩ : cs₁ <+: cs := Utf8.prefix_of_stuck .nil (by simp [← hb₁, ← hb])
    refine ⟨Utf16.ofChars cs₂, by rw [hu, hu₁, ← hc, Utf16.ofChars_append], ?_⟩
    have : bytes₂ = cs₂.flatMap Utf8.ofChar := by simpa [hb₁, ← hc] using hb
    exact this ▸ ofChars cs₂
  case latin1 => simp_all [latin1_iff]

theorem unique (h₁ : Decodes e bytes units₁) (h₂ : Decodes e bytes units₂) : units₁ = units₂ := by
  rw [← List.append_nil bytes] at h₂
  have ⟨units, hu, hd⟩ := h₁.exists_append h₂
  simp [hu, hd.eq_nil_iff.mp rfl]

-- Where no character starts, the text is over.
theorem eq_nil_of_stuck (h₁ : Decodes .utf8 bytes units₁) (ht : Utf8.Stuck tail)
    (h : Decodes .utf8 (bytes ++ tail) units) : tail = [] := by
  have ⟨_, _, hd⟩ := h₁.exists_append h
  have ⟨cs, hc, _⟩ := utf8_iff.mp hd
  match cs with
  | []      => exact hc
  | c :: cs =>
    rw [List.flatMap_cons] at hc
    exact absurd ⟨_, hc.symm⟩ (ht c)

end Decodes

-- The longest beginning of `bytes` that stands for anything.
structure LongestDecodable (e : SourceEncoding) (bytes good : List UInt8) : Prop where
  isPrefix : good <+: bytes
  decodes  : ∃ units, Decodes e good units
  longest  : ∀ other units, other <+: bytes → Decodes e other units → other.length ≤ good.length

theorem LongestDecodable.self {e : SourceEncoding} {bytes : List UInt8} {units : List UInt16}
    (h : Decodes e bytes units) : LongestDecodable e bytes bytes where
  isPrefix := List.prefix_refl _
  decodes  := ⟨units, h⟩
  longest  := fun _ _ hp _ => hp.length_le

theorem LongestDecodable.of_stuck {good tail : List UInt8} {units : List UInt16}
    (hd : Decodes .utf8 good units) (ht : Utf8.Stuck tail) :
    LongestDecodable .utf8 (good ++ tail) good where
  isPrefix := List.prefix_append ..
  decodes  := ⟨units, hd⟩
  longest  := by
    intro other _ hp ho
    have ⟨cs, hg, _⟩ := Decodes.utf8_iff.mp hd
    have ⟨ds, ho, _⟩ := Decodes.utf8_iff.mp ho
    have ⟨_, hc⟩ : ds <+: cs := Utf8.prefix_of_stuck ht (by simpa [ho, hg] using hp)
    simp [ho, hg, ← hc]

theorem LongestDecodable.unique {e : SourceEncoding} {bytes good₁ good₂ : List UInt8}
    (h₁ : LongestDecodable e bytes good₁) (h₂ : LongestDecodable e bytes good₂) :
    good₁ = good₂ := by
  have ⟨_, hd₁⟩ := h₁.decodes
  have ⟨_, hd₂⟩ := h₂.decodes
  have hl₁ := h₂.longest _ _ h₁.isPrefix hd₁
  have hl₂ := h₁.longest _ _ h₂.isPrefix hd₂
  exact (List.prefix_of_prefix_length_le h₁.isPrefix h₂.isPrefix hl₁).eq_of_length_le hl₂

-- Where no character starts behind what is decoded, there is one place to stop.
theorem Decodes.eq_of_stuck {good₁ good₂ tail₁ tail₂ : List UInt8} {units₁ units₂ : List UInt16}
    (hd₁ : Decodes .utf8 good₁ units₁) (hd₂ : Decodes .utf8 good₂ units₂)
    (ht₁ : Utf8.Stuck tail₁) (ht₂ : Utf8.Stuck tail₂) (h : good₁ ++ tail₁ = good₂ ++ tail₂) :
    good₁ = good₂ ∧ tail₁ = tail₂ := by
  have hl₁ := LongestDecodable.of_stuck hd₁ ht₁
  rw [h] at hl₁
  have hg := hl₁.unique (.of_stuck hd₂ ht₂)
  exact ⟨hg, List.append_cancel_left (hg ▸ h)⟩

namespace Decoder

variable {d d₁ d₂ d₃ : Decoder} {source : Source} {wanted : Nat}
variable {bytes used used₁ used₂ : List UInt8} {units units₁ units₂ : List UInt16}

-- What holds of a decoder as long as it has not failed.
structure Sound (d : Decoder) : Prop where
  pending : Utf8.Beginning d.pending
  latin1  : d.encoding = .latin1 → d.pending = []
  atEnd   : d.atEnd → d.pending = []

theorem start_sound (source : Source) (e : SourceEncoding) : (start source e).Sound where
  pending := .nil
  latin1  := fun _ => rfl
  atEnd   := nofun

def rest (d : Decoder) : List UInt8 :=
  if d.atEnd then [] else d.pending ++ d.source.delivered

-- The failure that the decoder will meet, if nothing else stops it.
def failure? (d : Decoder) : Option StreamFailure :=
  if d.atEnd then none else d.source.failure?

theorem rest_start (source : Source) (e : SourceEncoding) :
    (start source e).rest = source.delivered :=
  rfl

-- From `d₁` to `d₂` the bytes `used` are decoded as `units`.
structure Advance (d₁ d₂ : Decoder) (used : List UInt8) (units : List UInt16) : Prop where
  decodes  : Decodes d₁.encoding used units
  rest     : d₁.rest = used ++ d₂.rest
  offset   : d₂.offset = d₁.offset + used.length
  encoding : d₂.encoding = d₁.encoding
  failure  : d₂.failure? = d₁.failure?
  atEnd    : d₁.atEnd → d₂.atEnd
  sound    : d₂.Sound

theorem Advance.refl (h : d.Sound) : Advance d d [] [] where
  decodes  := .nil _
  rest     := rfl
  offset   := rfl
  encoding := rfl
  failure  := rfl
  atEnd    := id
  sound    := h

theorem Advance.trans (h₁ : Advance d₁ d₂ used₁ units₁) (h₂ : Advance d₂ d₃ used₂ units₂) :
    Advance d₁ d₃ (used₁ ++ used₂) (units₁ ++ units₂) where
  decodes  := h₁.decodes.append (h₁.encoding ▸ h₂.decodes)
  rest     := by rw [h₁.rest, h₂.rest, List.append_assoc]
  offset   := by rw [h₂.offset, h₁.offset, List.length_append, Nat.add_assoc]
  encoding := h₂.encoding.trans h₁.encoding
  failure  := h₂.failure.trans h₁.failure
  atEnd    := h₂.atEnd ∘ h₁.atEnd
  sound    := h₂.sound

theorem rest_of_atEnd (h : d.atEnd) : d.rest = [] :=
  if_pos h

theorem failure?_of_atEnd (h : d.atEnd) : d.failure? = none :=
  if_pos h

-- The error that the decoder `d` ends in: no character can come of the bytes behind the good ones,
-- or the source fails before that is known, or it ends inside a character.
inductive Fails (d : Decoder) : SegmentError → Prop
  | invalid {good tail : List UInt8} {units : List UInt16} :
    d.encoding = .utf8 → d.rest = good ++ tail → Decodes .utf8 good units → Utf8.Broken tail →
    Fails d (.invalidUtf8 (d.offset + good.length))
  | stream {failure : StreamFailure} {good tail : List UInt8} {units : List UInt16} :
    d.failure? = some failure → d.rest = good ++ tail → Decodes d.encoding good units →
    Utf8.Beginning tail → Fails d (.stream failure)
  | truncated {good tail : List UInt8} {units : List UInt16} :
    d.failure? = none → d.encoding = .utf8 → d.rest = good ++ tail → Decodes .utf8 good units →
    Utf8.Beginning tail → tail ≠ [] → Fails d (.invalidUtf8 (d.offset + good.length))

theorem Fails.not_atEnd {e : SegmentError} (h : d.Fails e) : d.atEnd = false := by
  by_contra ha
  cases h
  case invalid hr _ ht     => simp_all [rest, ht.ne_nil]
  case stream hf _ _ _     => simp_all [failure?]
  case truncated hr _ _ hn => simp_all [rest]

theorem Advance.fails {e : SegmentError} (h : Advance d₁ d₂ used units) (hf : d₂.Fails e) :
    d₁.Fails e := by
  have hr {good tail : List UInt8} (hr : d₂.rest = good ++ tail) :
      d₁.rest = used ++ good ++ tail := by
    rw [h.rest, hr, List.append_assoc]
  have ho (good : List UInt8) : d₂.offset + good.length = d₁.offset + (used ++ good).length := by
    rw [h.offset, Nat.add_assoc, List.length_append]
  cases hf
  case invalid good tail _ he hg hd ht =>
    have he₁ : d₁.encoding = .utf8 := h.encoding ▸ he
    exact ho good ▸ .invalid he₁ (hr hg) ((he₁ ▸ h.decodes).append hd) ht
  case stream hf hg hd ht =>
    exact .stream (h.failure ▸ hf) (hr hg) (h.decodes.append (h.encoding ▸ hd)) ht
  case truncated good tail _ hf he hg hd ht hn =>
    have he₁ : d₁.encoding = .utf8 := h.encoding ▸ he
    exact ho good ▸ .truncated (h.failure ▸ hf) he₁ (hr hg) ((he₁ ▸ h.decodes).append hd) ht hn

theorem Fails.stream_failure {failure : StreamFailure} (h : d.Fails (.stream failure)) :
    d.failure? = some failure := by
  cases h
  case stream hf => exact hf

theorem Fails.stuck {offset : Nat} (h : d.Fails (.invalidUtf8 offset)) :
    ∃ good tail units, d.encoding = .utf8 ∧ d.rest = good ++ tail ∧ Decodes .utf8 good units ∧
      Utf8.Stuck tail ∧ tail ≠ [] ∧ offset = d.offset + good.length := by
  cases h
  case invalid he hr hd ht        => exact ⟨_, _, _, he, hr, hd, ht.stuck, ht.ne_nil, rfl⟩
  case truncated _ he hr hd ht hn => exact ⟨_, _, _, he, hr, hd, ht.stuck, hn, rfl⟩

theorem Fails.not_invalid {failure : StreamFailure} {offset : Nat} (h : d.Fails (.stream failure)) :
    ¬d.Fails (.invalidUtf8 offset) := by
  intro hi
  have hf := h.stream_failure
  cases hi
  case truncated hn _ _ _ _ _ => cases hn.symm.trans hf
  case invalid he hr₁ hd₁ ht₁ =>
    cases h
    case stream hr₂ hd₂ ht₂ _ =>
      have ⟨_, ht⟩ := hd₁.eq_of_stuck (he ▸ hd₂) ht₁.stuck ht₂.stuck (hr₁.symm.trans hr₂)
      exact ht₂.not_broken (ht ▸ ht₁)

theorem Fails.not_decodes {e : SegmentError} (h : d.Fails e) (hf : d.failure? = none) :
    ¬Decodes d.encoding d.rest units := by
  intro hd
  cases e
  case stream => cases hf.symm.trans h.stream_failure
  case invalidUtf8 =>
    have ⟨_, _, _, he, hr, hg, ht, hn, _⟩ := h.stuck
    exact hn (hg.eq_nil_of_stuck ht (hr ▸ he ▸ hd))
  all_goals nomatch h

theorem Fails.unique {e₁ e₂ : SegmentError} (h₁ : d.Fails e₁) (h₂ : d.Fails e₂) : e₁ = e₂ := by
  have hi {offset₁ offset₂ : Nat} (h₁ : d.Fails (.invalidUtf8 offset₁))
      (h₂ : d.Fails (.invalidUtf8 offset₂)) : offset₁ = offset₂ := by
    have ⟨_, _, _, _, hr₁, hd₁, ht₁, _, ho₁⟩ := h₁.stuck
    have ⟨_, _, _, _, hr₂, hd₂, ht₂, _, ho₂⟩ := h₂.stuck
    rw [ho₁, ho₂, (hd₁.eq_of_stuck hd₂ ht₁ ht₂ (hr₁.symm.trans hr₂)).1]
  cases e₁ <;> cases e₂
  case invalidUtf8.invalidUtf8 => rw [hi h₁ h₂]
  case stream.invalidUtf8      => exact absurd h₂ h₁.not_invalid
  case invalidUtf8.stream      => exact absurd h₁ h₂.not_invalid
  case stream.stream =>
    rw [Option.some_inj.mp (h₁.stream_failure.symm.trans h₂.stream_failure)]
  all_goals nomatch h₁, h₂

-- From `d₁` to `d₂` a block is read: `used` is decoded as `units`, and what stays of the bytes is
-- the beginning of a character.
structure Takes (d₁ d₂ : Decoder) (block used : List UInt8) (units : List UInt16) : Prop where
  decodes  : Decodes d₁.encoding used units
  bytes    : d₁.pending ++ block = used ++ d₂.pending
  offset   : d₂.offset = d₁.offset + used.length
  source   : d₂.source = d₁.source
  encoding : d₂.encoding = d₁.encoding
  atEnd    : d₂.atEnd = false
  sound    : d₂.Sound

theorem decodePending_ok (h : d₁.decodePending = .ok (units, d₂)) :
    ∃ cs : List Char, d₁.pending = cs.flatMap Utf8.ofChar ++ d₂.pending ∧ units = Utf16.ofChars cs ∧
      Utf8.Beginning d₂.pending ∧
      d₂ = { d₁ with
        pending := d₂.pending, offset := d₁.offset + (cs.flatMap Utf8.ofChar).length } := by
  rw [decodePending] at h
  cases hw : Utf8.wholeLength d₁.pending <;> simp only [hw] at h
  case error => contradiction
  case ok whole =>
    have ⟨cs, hc, hp, hl, hb⟩ := Utf8.decode_take_wholeLength hw
    simp only [hc] at h
    cases h
    exact ⟨cs, hp, rfl, hb, by rw [hl]⟩

-- The whole characters are always read, so it fails only where no character can follow.
theorem decodePending_error {e : SegmentError} (h : d.decodePending = .error e) :
    ∃ (cs : List Char) (tail : List UInt8),
      e = .invalidUtf8 (d.offset + (cs.flatMap Utf8.ofChar).length) ∧
      d.pending = cs.flatMap Utf8.ofChar ++ tail ∧ Utf8.Broken tail := by
  rw [decodePending] at h
  cases hw : Utf8.wholeLength d.pending <;> simp only [hw] at h
  case error fault =>
    have ⟨cs, tail, hp, hl, ht⟩ := Utf8.wholeLength_error hw
    cases h
    exact ⟨cs, tail, by rw [hl], hp, ht⟩
  case ok whole =>
    have ⟨cs, hc, _⟩ := Utf8.decode_take_wholeLength hw
    simp only [hc] at h
    contradiction

theorem decodeBlock_takes (hs : d₁.Sound) (ha : d₁.atEnd = false)
    (h : d₁.decodeBlock bytes = .ok (units, d₂)) : ∃ used, Takes d₁ d₂ bytes used units := by
  rw [decodeBlock] at h
  split at h
  case h_1 he =>
    cases h
    exact ⟨bytes, he ▸ .latin1 _, by simp [hs.latin1 he], rfl, rfl, rfl, ha,
      ⟨hs.pending, hs.latin1, hs.atEnd⟩⟩
  case h_2 he =>
    have ⟨cs, hb, hu, hp, hd⟩ := decodePending_ok h
    rw [hd]
    exact ⟨cs.flatMap Utf8.ofChar, he ▸ hu ▸ .ofChars cs, hb, rfl, rfl, rfl, ha,
      ⟨hp, by simp [he], by simp [ha]⟩⟩

theorem decodeBlock_ok (hs : d₁.Sound) (ha : d₁.atEnd = false) (hb : bytes ≠ [])
    (h : d₁.decodeBlock bytes = .ok (units, d₂)) (source : Source) :
    ∃ used, Advance { d₁ with source := .bytes bytes :: source } { d₂ with source } used units := by
  have ⟨used, ht⟩ := decodeBlock_takes hs ha h
  have ha₂ := ht.atEnd
  refine ⟨used, ht.decodes, ?rest, ht.offset, ht.encoding, ?failure, ?atEnd, ?sound⟩
  case rest =>
    simp only [rest, ha, ha₂, Source.delivered_bytes hb]
    simp [← List.append_assoc, ← ht.bytes]
  case failure => simp [failure?, ha, ha₂, Source.failure?_bytes hb]
  case atEnd   => simp [ha]
  case sound   => exact ⟨ht.sound.pending, ht.sound.latin1, ht.sound.atEnd⟩

theorem decodeBlock_error {e : SegmentError} (ha : d.atEnd = false) (hb : bytes ≠ [])
    (h : d.decodeBlock bytes = .error e) (source : Source) :
    Fails { d with source := .bytes bytes :: source } e := by
  rw [decodeBlock] at h
  split at h
  case h_1 => contradiction
  case h_2 he =>
    obtain ⟨cs, tail, rfl, hp, ht⟩ := decodePending_error h
    refine .invalid he ?_ (.ofChars cs) (ht.append source.delivered)
    simp only [rest, ha, Source.delivered_bytes hb]
    simp_all [← List.append_assoc]

-- What may come of asking `d₁` for `wanted` units.
inductive Filled (d₁ : Decoder) (wanted : Nat) :
    Except SegmentError Unit × List UInt16 × Decoder → Prop
  | ok {d₂ : Decoder} {used : List UInt8} {units : List UInt16} :
    Advance d₁ d₂ used units → (wanted ≤ units.length ∨ d₂.atEnd) →
    Filled d₁ wanted (.ok (), units, d₂)
  | error {d₂ : Decoder} {e : SegmentError} {units : List UInt16} :
    Fails d₁ e → Filled d₁ wanted (.error e, units, d₂)

theorem Filled.after {result : Except SegmentError Unit} {more : List UInt16}
    (h : Advance d₁ d₂ used units) (hf : Filled d₂ (wanted - units.length) (result, more, d₃)) :
    Filled d₁ wanted (result, units ++ more, d₃) := by
  cases hf
  case ok ha hw =>
    exact .ok (h.trans ha) (hw.imp_left fun hw => by rw [List.length_append]; omega)
  case error hf => exact .error (h.fails hf)

theorem interrupted_advance (hs : d.Sound) (source : Source) :
    Advance { d with source := .interrupted :: source } { d with source } [] [] where
  decodes  := .nil _
  rest     := rfl
  offset   := rfl
  encoding := rfl
  failure  := rfl
  atEnd    := id
  sound    := ⟨hs.pending, hs.latin1, hs.atEnd⟩

-- At the end of the source the decoder is done, unless it is inside a character.
theorem end_filled (hs : d.Sound) (ha : d.atEnd = false) (hr : source.delivered = [])
    (hf : source.failure? = none) (tail : Source) :
    Filled { d with source } wanted
      (if d.pending.isEmpty then .ok () else .error (.invalidUtf8 d.offset), [],
        { d with source := tail, atEnd := true }) := by
  by_cases hp : d.pending = []
  case pos =>
    rw [if_pos (by simp [hp])]
    have h : Advance { d with source } { d with source := tail, atEnd := true } [] [] := by
      refine ⟨.nil _, ?_, rfl, rfl, ?_, fun _ => rfl, hs.pending, hs.latin1, fun _ => hp⟩
      · simp [rest, ha, hp, hr]
      · simp [failure?, ha, hf]
    exact .ok h (.inr rfl)
  case neg =>
    rw [if_neg (by simp [hp])]
    have he : d.encoding = .utf8 := by
      by_contra he
      exact hp (hs.latin1 (by cases h : d.encoding <;> simp_all))
    have hr : rest { d with source } = [] ++ d.pending := by simp [rest, ha, hr]
    have hf : Fails { d with source } (.invalidUtf8 (d.offset + 0)) :=
      @Fails.truncated { d with source } _ _ _ (by simp [failure?, ha, hf]) he hr (.ofChars [])
        hs.pending hp
    exact .error hf

theorem fillFrom_filled (hs : d₁.Sound) (wanted : Nat) (source : Source) :
    Filled { d₁ with source } wanted (d₁.fillFrom wanted source) := by
  fun_induction fillFrom d₁ wanted source
  case case1 source d wanted h =>
    have hs' : { d with source }.Sound := ⟨hs.pending, hs.latin1, hs.atEnd⟩
    exact .ok (.refl hs') (by simpa using h)
  case case2 d wanted h =>
    exact end_filled hs (by simp_all) rfl rfl _
  case case3 d wanted h source =>
    exact end_filled hs (by simp_all) rfl rfl _
  case case4 d wanted h source hi =>
    exact .after (interrupted_advance hs source) (hi hs)
  case case5 d wanted h failure source =>
    have ha : d.atEnd = false := by simp_all
    let d₁ : Decoder := { d with source := .failed failure :: source }
    have hf : d₁.failure? = some failure := by simp [failure?, d₁, ha, Source.failure?]
    have hr : d₁.rest = [] ++ d.pending := by simp [rest, d₁, ha, Source.delivered]
    exact .error (.stream hf hr (.nil _) hs.pending)
  case case6 d₁ wanted h bytes source hb units d₂ hd result more d₃ hf hi =>
    have ⟨_, ha⟩ := decodeBlock_ok hs (by simp_all) hb hd source
    exact .after ha (hf ▸ hi ⟨ha.sound.pending, ha.sound.latin1, ha.sound.atEnd⟩)
  case case7 d wanted h bytes source hb e hd =>
    exact .error (decodeBlock_error (by simp_all) hb hd source)

-- A lookahead that is filled holds more than the budget, or all that there is.
theorem fill_cases (hs : d₁.Sound) (budget : Nat) (lookahead : List UInt16) :
    (∃ d₂ used units, d₁.fill budget lookahead = (.ok (), lookahead ++ units, d₂) ∧
      Advance d₁ d₂ used units ∧ (budget < (lookahead ++ units).length ∨ d₂.atEnd)) ∨
    ∃ e filled d₂, d₁.fill budget lookahead = (.error e, filled, d₂) ∧ d₁.Fails e := by
  have hf := fillFrom_filled hs (lacking (budget + 1) lookahead) d₁.source
  rcases hd : d₁.fillFrom (lacking (budget + 1) lookahead) d₁.source with ⟨result, units, d₂⟩
  rw [hd] at hf
  simp only [fill, hd]
  cases hf
  case ok used ha hw =>
    refine .inl ⟨d₂, used, units, rfl, ha, hw.imp_left fun hw => ?_⟩
    rw [lacking_eq] at hw
    rw [List.length_append]
    omega
  case error e hf => exact .inr ⟨e, _, d₂, rfl, hf⟩

end Decoder

end ResourceEmbedding
