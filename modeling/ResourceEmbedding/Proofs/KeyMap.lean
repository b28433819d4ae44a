import ResourceEmbedding.KeyMap
import Mathlib.Data.List.Nodup
import Mathlib.Data.String.Basic

namespace ResourceEmbedding

theorem lookup_cons_ite [BEq κ] [LawfulBEq κ] [DecidableEq κ] (key : κ) (e : κ × β)
    (entries : List (κ × β)) :
    (e :: entries).lookup key = if key = e.1 then some e.2 else entries.lookup key := by
  by_cases h : key = e.1
  case pos => rw [if_pos h, h, List.lookup_cons_self]
  case neg => rw [if_neg h, List.lookup_cons, beq_eq_false_iff_ne.mpr h]

theorem mem_of_lookup_eq_some [BEq κ] [LawfulBEq κ] {entries : List (κ × β)} {key : κ} {value : β}
    (h : entries.lookup key = some value) : (key, value) ∈ entries := by
  have ⟨_, _, he, _⟩ := List.lookup_eq_some_iff.mp h
  simp [he]

-- Where no key comes twice, a look-up finds whatever is there.
theorem lookup_eq_some_iff_mem [BEq κ] [LawfulBEq κ] {entries : List (κ × β)} {key : κ} {value : β}
    (h : (entries.map (·.1)).Nodup) : entries.lookup key = some value ↔ (key, value) ∈ entries := by
  constructor
  case mp => exact mem_of_lookup_eq_some
  case mpr =>
    intro hm
    have ⟨before, after, he⟩ := List.append_of_mem hm
    refine List.lookup_eq_some_iff.mpr ⟨before, after, he, fun e hb => ?_⟩
    rw [he, List.map_append, List.map_cons, List.nodup_append] at h
    exact bne_iff_ne.mpr (h.2.2 e.1 (List.mem_map_of_mem hb) key (by simp)).symm

namespace KeyMap

variable {m : KeyMap β} {key key₁ key₂ : String} {value : β} {f : Option β → β}

theorem nodup_keys (m : KeyMap β) : (m.entries.map (·.1)).Nodup :=
  List.pairwise_map.mpr (m.sorted.imp ne_of_lt)

theorem mem_entries_iff : (key, value) ∈ m.entries ↔ m.get? key = some value :=
  (lookup_eq_some_iff_mem m.nodup_keys).symm

theorem lookup_upsertEntry {entries : List (String × β)} (h : entries.Pairwise (·.1 < ·.1)) :
    (upsertEntry key₁ f entries).lookup key₂ =
      if key₂ = key₁ then some (f (entries.lookup key₁)) else entries.lookup key₂ := by
  induction entries
  case nil => rw [upsertEntry, lookup_cons_ite]; rfl
  case cons head entries hi =>
    obtain ⟨below, h⟩ := List.pairwise_cons.mp h
    simp only [upsertEntry]
    split
    case isTrue lt =>
      have hn : (head :: entries).lookup key₁ = none := by
        refine List.lookup_eq_none_iff.mpr fun e he => bne_iff_ne.mpr ?_
        cases he
        case head    => exact ne_of_lt lt
        case tail he => exact ne_of_lt (lt.trans (below e he))
      rw [hn, lookup_cons_ite]
    case isFalse =>
      split
      case isTrue hk =>
        rw [lookup_cons_ite, lookup_cons_ite, lookup_cons_ite, if_pos hk, hk]
        split <;> rfl
      case isFalse hk =>
        rw [lookup_cons_ite, lookup_cons_ite, lookup_cons_ite, hi h, if_neg hk]
        split <;> simp_all [Ne.symm hk]

theorem get?_upsert :
    (m.upsert key₁ f).get? key₂ = if key₂ = key₁ then some (f (m.get? key₁)) else m.get? key₂ :=
  lookup_upsertEntry m.sorted

theorem get?_insert :
    (m.insert key₁ value).get? key₂ = if key₂ = key₁ then some value else m.get? key₂ :=
  get?_upsert

theorem get?_foldl_insert {pairs : List (String × β)} :
    (pairs.foldl (fun m (key, value) => m.insert key value) m).get? key =
      (pairs.reverse.lookup key).or (m.get? key) := by
  induction pairs generalizing m
  case nil => rfl
  case cons pair pairs hi =>
    rw [List.foldl_cons, hi, get?_insert, List.reverse_cons, List.lookup_append, Option.or_assoc]
    rw [lookup_cons_ite]
    split <;> rfl

theorem get?_ofList {pairs : List (String × β)} :
    (ofList pairs).get? key = pairs.reverse.lookup key := by
  rw [ofList, get?_foldl_insert]
  exact Option.or_none

theorem perm_entries_ofList {pairs : List (String × β)} (h : (pairs.map (·.1)).Nodup) :
    (ofList pairs).entries.Perm pairs := by
  have hr : (pairs.reverse.map (·.1)).Nodup := by rwa [List.map_reverse, List.nodup_reverse]
  have he : (ofList pairs).entries.Nodup := (nodup_keys _).of_map
  refine (List.perm_ext_iff_of_nodup he h.of_map).mpr fun (key, value) => ?_
  rw [mem_entries_iff, get?_ofList, lookup_eq_some_iff_mem hr, List.mem_reverse]

-- A new key above all others comes last, so the entries of a map are put in one behind the other.
theorem upsertEntry_of_below {entries : List (String × β)} (h : ∀ e ∈ entries, e.1 < key) :
    upsertEntry key f entries = entries ++ [(key, f none)] := by
  induction entries
  case nil => rfl
  case cons head entries hi =>
    obtain ⟨below, h⟩ := List.forall_mem_cons.mp h
    rw [upsertEntry, if_neg below.asymm, if_neg below.ne', hi h, List.cons_append]

theorem entries_foldl_insert {pairs : List (String × β)}
    (h : (m.entries ++ pairs).Pairwise (·.1 < ·.1)) :
    (pairs.foldl (fun m (key, value) => m.insert key value) m).entries = m.entries ++ pairs := by
  induction pairs generalizing m
  case nil => exact (List.append_nil _).symm
  case cons pair pairs hi =>
    have hb : ∀ e ∈ m.entries, e.1 < pair.1 := fun e hm =>
      (List.pairwise_append.mp h).2.2 e hm pair List.mem_cons_self
    have he : (m.insert pair.1 pair.2).entries = m.entries ++ [pair] := upsertEntry_of_below hb
    have hs : m.entries ++ pair :: pairs = (m.insert pair.1 pair.2).entries ++ pairs := by
      rw [he, List.append_assoc, List.singleton_append]
    rw [List.foldl_cons, hs]
    exact hi (hs ▸ h)

theorem ofList_entries (m : KeyMap β) : ofList m.entries = m :=
  KeyMap.ext (entries_foldl_insert m.sorted)

def cell? (t : KeyMap (KeyMap β)) (slot : String × String) : Option β :=
  (t.get? slot.1).bind (·.get? slot.2)

def putCell (t : KeyMap (KeyMap β)) (cell : (String × String) × β) : KeyMap (KeyMap β) :=
  t.upsert cell.1.1 fun row => (row.getD default).insert cell.1.2 cell.2

def ofCells (cells : List ((String × String) × β)) : KeyMap (KeyMap β) :=
  cells.foldl putCell default

variable {t : KeyMap (KeyMap β)} {slot : String × String} {cell : (String × String) × β}
variable {cells : List ((String × String) × β)}

theorem cell?_putCell :
    (t.putCell cell).cell? slot = if slot = cell.1 then some cell.2 else t.cell? slot := by
  simp only [cell?, putCell, get?_upsert, Prod.ext_iff]
  by_cases hr : slot.1 = cell.1.1
  case neg => simp [hr]
  case pos =>
    simp only [hr, true_and, if_true, Option.bind_some, get?_insert]
    cases t.get? cell.1.1 <;> rfl

theorem cell?_foldl_putCell :
    (cells.foldl putCell t).cell? slot = (cells.reverse.lookup slot).or (t.cell? slot) := by
  induction cells generalizing t
  case nil => rfl
  case cons cell cells hi =>
    rw [List.foldl_cons, hi, cell?_putCell, List.reverse_cons, List.lookup_append, Option.or_assoc]
    rw [lookup_cons_ite]
    split <;> rfl

-- Where no two cells are in one place, the table holds them all, and no others.
theorem cell?_ofCells (h : (cells.map (·.1)).Nodup) :
    (ofCells cells).cell? slot = some value ↔ (slot, value) ∈ cells := by
  have hr : (cells.reverse.map (·.1)).Nodup := by rwa [List.map_reverse, List.nodup_reverse]
  have hd : (default : KeyMap (KeyMap β)).cell? slot = none := rfl
  rw [ofCells, cell?_foldl_putCell, hd, Option.or_none, lookup_eq_some_iff_mem hr, List.mem_reverse]

def Dense (t : KeyMap (KeyMap β)) : Prop :=
  ∀ key row, t.get? key = some row → ∃ column value, row.get? column = some value

theorem Dense.putCell (h : t.Dense) (cell : (String × String) × β) : (t.putCell cell).Dense := by
  intro key row hr
  rw [KeyMap.putCell, get?_upsert] at hr
  split at hr
  case isTrue =>
    cases hr
    exact ⟨cell.1.2, cell.2, by rw [get?_insert, if_pos rfl]⟩
  case isFalse => exact h key row hr

theorem dense_ofCells (cells : List ((String × String) × β)) : (ofCells cells).Dense := by
  suffices h : ∀ t : KeyMap (KeyMap β), t.Dense → (cells.foldl KeyMap.putCell t).Dense from
    h default nofun
  intro t ht
  induction cells generalizing t
  case nil              => exact ht
  case cons cell _ hi   => exact hi _ (ht.putCell cell)

end KeyMap

end ResourceEmbedding
