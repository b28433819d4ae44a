import ResourceEmbedding.Text.Utf16
import ResourceEmbedding.Proofs.Text.Utf8
import Mathlib.Data.List.Basic
import Mathlib.Tactic

namespace ResourceEmbedding.Utf16

variable {u v : UInt16} {units rest : List UInt16} {c : Char} {cs ds : List Char}

theorem isHigh_iff : isHigh u ↔ 0xD800 ≤ u.toNat ∧ u.toNat ≤ 0xDBFF := by
  simp [isHigh, UInt16.le_iff_toNat_le]

theorem isLow_iff : isLow u ↔ 0xDC00 ≤ u.toNat ∧ u.toNat ≤ 0xDFFF := by
  simp [isLow, UInt16.le_iff_toNat_le]

theorem not_isHigh_of_isLow (h : isLow u) : isHigh u = false := by
  have hl := isLow_iff.mp h
  simp only [← Bool.not_eq_true, isHigh_iff]
  omega

-- A unit that stands for a character of its own.
structure Plain (u : UInt16) : Prop where
  notHigh : isHigh u = false
  notLow  : isLow u = false

theorem plain_iff : Plain u ↔ u.toNat < 0xD800 ∨ 0xDFFF < u.toNat := by
  have h : Plain u ↔ isHigh u = false ∧ isLow u = false :=
    ⟨fun h => ⟨h.notHigh, h.notLow⟩, fun h => ⟨h.1, h.2⟩⟩
  simp only [h, ← Bool.not_eq_true, isHigh_iff, isLow_iff]
  omega

theorem ofChar_plain (h : c.toNat < 0x10000) :
    ∃ u, ofChar c = [u] ∧ u.toNat = c.toNat ∧ Plain u := by
  have hn : c.toNat.toUInt16.toNat = c.toNat := by simp; omega
  have hv := toNat_valid c
  refine ⟨c.toNat.toUInt16, by simp [ofChar, h], hn, plain_iff.mpr ?_⟩
  omega

theorem ofChar_pair (h : ¬c.toNat < 0x10000) :
    ∃ u v, ofChar c = [u, v] ∧ isHigh u ∧ isLow v ∧ pair u v = c := by
  have hv := toNat_valid c
  have hu : (0xD800 + (c.toNat - 0x10000) / 0x400).toUInt16.toNat =
    0xD800 + (c.toNat - 0x10000) / 0x400 := by simp; omega
  have hl : (0xDC00 + (c.toNat - 0x10000) % 0x400).toUInt16.toNat =
    0xDC00 + (c.toNat - 0x10000) % 0x400 := by simp; omega
  refine ⟨_, _, by simp only [ofChar, h, if_false]; rfl, ?high, ?low, ?pair⟩
  case high => rw [isHigh_iff, hu]; omega
  case low  => rw [isLow_iff, hl]; omega
  case pair =>
    rw [pair, hu, hl, ofNat_eq_iff (by omega)]
    omega

theorem ofChar_of_plain (h : Plain u) : ofChar (.ofNat u.toNat) = [u] := by
  have hp := plain_iff.mp h
  have hn := u.toNat_lt
  have hc : (Char.ofNat u.toNat).toNat = u.toNat := toNat_ofNat (by omega)
  simp only [ofChar, hc]
  rw [if_pos (by omega)]
  simp

theorem ofChar_of_pair (hu : isHigh u) (hv : isLow v) : ofChar (pair u v) = [u, v] := by
  have hu := isHigh_iff.mp hu
  have hv := isLow_iff.mp hv
  have hc : (pair u v).toNat = 0x10000 + (u.toNat - 0xD800) * 0x400 + (v.toNat - 0xDC00) :=
    toNat_ofNat (by omega)
  simp only [ofChar, hc]
  rw [if_neg (by omega)]
  simp [← UInt16.toNat_inj]
  omega

theorem ofChar_ne_nil (c : Char) : ofChar c ≠ [] := by
  simp only [ofChar]
  split_ifs <;> simp

theorem not_isLow_head_ofChar (c : Char) : ∀ u ∈ (ofChar c).head?, isLow u = false := by
  by_cases hc : c.toNat < 0x10000
  case pos =>
    have ⟨u, hu, _, hp⟩ := ofChar_plain hc
    simpa [hu] using hp.notLow
  case neg =>
    have ⟨u, v, hu, hh, _⟩ := ofChar_pair hc
    have hn : ¬isLow u := fun hl => by simp [not_isHigh_of_isLow hl] at hh
    simpa [hu] using hn

theorem length_ofChar_le (c : Char) : (ofChar c).length ≤ (Utf8.ofChar c).length := by
  simp only [ofChar, Utf8.ofChar]
  split_ifs <;> simp
  all_goals omega

theorem length_ofChars_le (cs : List Char) :
    (ofChars cs).length ≤ (cs.flatMap Utf8.ofChar).length := by
  induction cs
  case nil => simp [ofChars]
  case cons c cs hi =>
    have := length_ofChar_le c
    simp only [ofChars, List.flatMap_cons, List.length_append] at hi ⊢
    omega

theorem ofChars_cons : ofChars (c :: cs) = ofChar c ++ ofChars cs :=
  List.flatMap_cons ..

theorem length_ofChar_le_two (c : Char) : (ofChar c).length ≤ 2 := by
  simp only [ofChar]
  split_ifs <;> simp

-- Behind the beginning of a character come no more units than bytes, but for one: the first of the
-- characters takes at least one of the bytes, and may have two units.
theorem length_ofChars_le_succ {pending block tail : List UInt8} (hp : Utf8.Beginning pending)
    (h : pending ++ block = cs.flatMap Utf8.ofChar ++ tail) :
    (ofChars cs).length ≤ block.length + 1 := by
  cases cs
  case nil => simp [ofChars]
  case cons c cs =>
    rw [List.flatMap_cons, List.append_assoc] at h
    have hc : pending.length < (Utf8.ofChar c).length := by
      by_contra hc
      have hc : Utf8.ofChar c <+: pending :=
        List.prefix_of_prefix_length_le ⟨_, h.symm⟩ ⟨block, rfl⟩ (Nat.not_lt.mp hc)
      exact hp.stuck c hc
    have hn := congrArg List.length h
    have := length_ofChar_le_two c
    have := length_ofChars_le cs
    simp only [ofChars_cons, List.length_append] at hn ⊢
    omega

theorem ofChars_append : ofChars (cs ++ ds) = ofChars cs ++ ofChars ds :=
  List.flatMap_append ..

theorem ofChars_flatten (css : List (List Char)) :
    ofChars css.flatten = (css.map ofChars).flatten := by
  induction css
  case nil => rfl
  case cons cs css hi =>
    rw [List.flatten_cons, ofChars_append, hi, List.map_cons, List.flatten_cons]

theorem ofString_join (texts : List String) :
    ofString (String.join texts) = texts.flatMap ofString := by
  rw [ofString, String.toList_join, List.flatMap_def, ofChars_flatten, List.map_map, List.flatMap_def]
  rfl

-- What was read before does not matter for what comes.
theorem decodeOnto_eq :
    (done : List (Option Char)) → (units : List UInt16) →
    decodeOnto done units = done.reverse ++ decode units
  | done, [] | done, [u] => by simp [decode, decodeOnto]
  | done, u :: v :: rest => by
    simp only [decode, decodeOnto]
    split_ifs <;> simp [decodeOnto_eq (_ :: _)]

theorem decode_plain (h : Plain u) (rest : List UInt16) :
    decode (u :: rest) = some (.ofNat u.toNat) :: decode rest := by
  cases rest <;> simp [decode, decodeOnto, h.notHigh, h.notLow, decodeOnto_eq [_]]

theorem decode_pair (hu : isHigh u) (hv : isLow v) (rest : List UInt16) :
    decode (u :: v :: rest) = some (pair u v) :: decode rest := by
  simp [decode, decodeOnto, hu, hv, decodeOnto_eq [_]]

theorem decode_ofChar_append (c : Char) (rest : List UInt16) :
    decode (ofChar c ++ rest) = some c :: decode rest := by
  by_cases h : c.toNat < 0x10000
  case pos =>
    have ⟨u, hc, hn, hp⟩ := ofChar_plain h
    simp [hc, decode_plain hp, hn]
  case neg =>
    have ⟨u, v, hc, hu, hv, hp⟩ := ofChar_pair h
    simp [hc, decode_pair hu hv, hp]

theorem decode_ofChars (cs : List Char) : decode (ofChars cs) = cs.map some := by
  induction cs
  case nil => rfl
  case cons c cs hi => rw [ofChars_cons, decode_ofChar_append, hi, List.map_cons]

theorem ofChars_inj (h : ofChars cs = ofChars ds) : cs = ds := by
  have h := congrArg decode h
  rw [decode_ofChars, decode_ofChars] at h
  exact List.map_injective_iff.mpr (Option.some_injective _) h

theorem decode_nil : decode [] = [] :=
  rfl

-- A low surrogate is unpaired if it comes first, a high one if no low one follows.
theorem decode_unpaired (h : isLow u ∨ isHigh u ∧ ∀ v ∈ rest.head?, isLow v = false) :
    decode (u :: rest) = none :: decode rest := by
  cases rest
  case nil =>
    have hs : isHigh u ∨ isLow u := h.symm.imp And.left id
    simp [decode, decodeOnto, hs]
  case cons v tl =>
    rcases h with hl | ⟨hh, hv⟩
    · simp [decode, decodeOnto, not_isHigh_of_isLow hl, hl, decodeOnto_eq [_]]
    · have hv : isLow v = false := hv v rfl
      simp [decode, decodeOnto, hh, hv, decodeOnto_eq [_]]

-- A unit is read by itself, or with its partner, or as a surrogate that has none.
theorem decode_cons_cases (u : UInt16) (rest : List UInt16) :
    Plain u ∨ (∃ v tl, rest = v :: tl ∧ isHigh u ∧ isLow v) ∨
      decode (u :: rest) = none :: decode rest := by
  by_cases hp : Plain u
  case pos => exact .inl hp
  case neg =>
    refine .inr ?_
    by_cases hl : isLow u
    case pos => exact .inr (decode_unpaired (.inl hl))
    case neg =>
      have hl : isLow u = false := by simpa using hl
      have hh : isHigh u := by
        by_contra hh
        exact hp ⟨by simpa using hh, hl⟩
      by_cases hv : ∀ v ∈ rest.head?, isLow v = false
      case pos => exact .inr (decode_unpaired (.inr ⟨hh, hv⟩))
      case neg =>
        cases rest
        case nil         => exact absurd nofun hv
        case cons v tail => exact .inl ⟨v, tail, rfl, hh, by simpa using hv⟩

-- Units in which every surrogate has its partner are those of the characters read.
theorem eq_ofChars_of_decode (h : decode units = cs.map some) : units = ofChars cs := by
  induction cs generalizing units <;> cases units
  case nil.nil => rfl
  case nil.cons u rest =>
    have h := congrArg List.length h
    rcases decode_cons_cases u rest with hp | ⟨v, tl, rfl, hu, hv⟩ | hd
    · simp [decode_plain hp] at h
    · simp [decode_pair hu hv] at h
    · simp [hd] at h
  case cons.nil => simp [decode_nil] at h
  case cons.cons c cs hi u rest =>
    rcases decode_cons_cases u rest with hp | ⟨v, tl, rfl, hu, hv⟩ | hd
    · simp only [decode_plain hp, List.map_cons, List.cons.injEq, Option.some.injEq] at h
      simp [ofChars_cons, ← h.1, ofChar_of_plain hp, ← hi h.2]
    · simp only [decode_pair hu hv, List.map_cons, List.cons.injEq, Option.some.injEq] at h
      simp [ofChars_cons, ← h.1, ofChar_of_pair hu hv, ← hi h.2]
    · simp [hd] at h

theorem mapM_id_eq_some {os : List (Option α)} {as : List α} :
    os.mapM id = some as ↔ os = as.map some := by
  induction os generalizing as
  case nil => cases as <;> simp
  case cons o os hi => cases o <;> cases as <;> simp [Option.bind_eq_some_iff, hi, and_left_comm]

theorem toString?_eq_some_iff {s : String} : toString? units = some s ↔ units = ofString s := by
  simp only [toString?, Option.map_eq_some_iff, mapM_id_eq_some, ofString]
  constructor
  case mp =>
    intro ⟨cs, hd, hs⟩
    rw [eq_ofChars_of_decode hd, ← hs, String.toList_ofList]
  case mpr =>
    intro h
    exact ⟨s.toList, h ▸ decode_ofChars _, String.ofList_toList⟩

def lossy (units : List UInt16) : List Char :=
  (decode units).map (·.getD replacement)

theorem lossy_ofChar_append (c : Char) (rest : List UInt16) :
    lossy (ofChar c ++ rest) = c :: lossy rest := by
  rw [lossy, decode_ofChar_append, List.map_cons, Option.getD_some, lossy]

theorem lossy_plain (h : Plain u) (rest : List UInt16) :
    lossy (u :: rest) = .ofNat u.toNat :: lossy rest := by
  rw [lossy, decode_plain h, List.map_cons, Option.getD_some, lossy]

theorem lossy_pair (hu : isHigh u) (hv : isLow v) (rest : List UInt16) :
    lossy (u :: v :: rest) = pair u v :: lossy rest := by
  rw [lossy, decode_pair hu hv, List.map_cons, Option.getD_some, lossy]

theorem lossy_unpaired (h : isLow u ∨ isHigh u ∧ ∀ v ∈ rest.head?, isLow v = false) :
    lossy (u :: rest) = replacement :: lossy rest := by
  rw [lossy, decode_unpaired h, List.map_cons, Option.getD_none, lossy]

-- The units of bytes are characters of their own.
theorem toNat_lt_of_mem_bytes {bytes : List UInt8} (h : u ∈ bytes.map (·.toUInt16)) :
    u.toNat < 0x100 := by
  obtain ⟨b, _, rfl⟩ := List.mem_map.mp h
  exact UInt8.toNat_toUInt16 b ▸ b.toNat_lt

theorem plain_of_mem_bytes {bytes : List UInt8} (h : u ∈ bytes.map (·.toUInt16)) : Plain u := by
  have := toNat_lt_of_mem_bytes h
  exact plain_iff.mpr (by omega)

-- Where every unit is plain, even the lossy reading is exact.
theorem toStringLossy_plain (h : ∀ u ∈ units, Plain u) :
    toStringLossy units = .ofList (units.map fun u => .ofNat u.toNat) := by
  have hd : decode units = units.map fun u => some (Char.ofNat u.toNat) := by
    induction units
    case nil => rfl
    case cons u rest hi =>
      have ⟨hu, hr⟩ := List.forall_mem_cons.mp h
      rw [decode_plain hu, hi hr, List.map_cons]
  simp [toStringLossy, hd, Function.comp_def]

end ResourceEmbedding.Utf16
