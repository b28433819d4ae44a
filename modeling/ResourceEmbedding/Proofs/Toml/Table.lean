import ResourceEmbedding.Proofs.KeyMap
import ResourceEmbedding.Toml.Table

namespace ResourceEmbedding.Toml

-- The keys of each table are distinct, at any depth.
inductive Keyed : Toml → Prop
  | string   : Keyed (.string s)
  | integer  : Keyed (.integer n)
  | float    : Keyed (.float x)
  | boolean  : Keyed (.boolean b)
  | datetime : Keyed (.datetime d)
  | array    : (∀ item ∈ items, Keyed item) → Keyed (.array items)
  | table    : (entries.map (·.1)).Nodup → (∀ e ∈ entries, Keyed e.2) → Keyed (.table entries)

inductive Node.Keyed : Node → Prop
  | leaf   : value.Keyed → Keyed (.leaf value)
  | table  : (entries.map (·.1)).Nodup → (∀ e ∈ entries, Keyed e.2) → Keyed (.table origin entries)
  | tables : (∀ t ∈ last :: earlier, (t.map (·.1)).Nodup) →
      (∀ t ∈ last :: earlier, ∀ e ∈ t, Keyed e.2) → Keyed (.tables last earlier)

variable {value : Toml} {node : Node} {origin : Origin} {key : String} {path : List String}
variable {entries entries₂ last : TableDraft} {earlier : List TableDraft}

theorem Keyed.nodup {entries : List (String × Toml)} (h : (Toml.table entries).Keyed) :
    (entries.map (·.1)).Nodup := by
  cases h
  case table hn _ => exact hn

namespace TableDraft

structure Keyed (entries : TableDraft) : Prop where
  nodup : (entries.map (·.1)).Nodup
  nodes : ∀ e ∈ entries, e.2.Keyed

theorem keyed_nil : Keyed [] :=
  ⟨.nil, nofun⟩

theorem keyed_table_iff : (Node.table origin entries).Keyed ↔ entries.Keyed := by
  constructor
  case mp =>
    rintro (_ | ⟨hn, h⟩)
    exact ⟨hn, h⟩
  case mpr => exact fun h => .table h.nodup h.nodes

theorem keyed_tables_iff :
    (Node.tables last earlier).Keyed ↔ ∀ t ∈ last :: earlier, TableDraft.Keyed t := by
  constructor
  case mp =>
    rintro (_ | _ | ⟨hn, h⟩) t ht
    exact ⟨hn t ht, h t ht⟩
  case mpr => exact fun h => .tables (fun t ht => (h t ht).nodup) fun t ht => (h t ht).nodes

theorem Keyed.of_lookup (h : entries.Keyed) (hl : entries.lookup key = some node) : node.Keyed :=
  h.nodes _ (mem_of_lookup_eq_some hl)

-- A key stays where it is, or is new and comes last.
theorem map_fst_put (key : String) (node : Node) (entries : TableDraft) :
    (entries.put key node).map (·.1) =
      if key ∈ entries.map (·.1) then entries.map (·.1) else entries.map (·.1) ++ [key] := by
  induction entries
  case nil => rfl
  case cons e entries hi =>
    rw [put]
    split
    case isTrue hk  => simp [hk]
    case isFalse hk =>
      rw [List.map_cons, hi]
      split <;> simp_all [Ne.symm hk]

theorem mem_put {e : String × Node} (h : e ∈ entries.put key node) :
    e ∈ entries ∨ e = (key, node) := by
  induction entries
  case nil => exact .inr (List.mem_singleton.mp h)
  case cons head entries hi =>
    rw [put] at h
    split at h
    case isTrue hk =>
      cases List.mem_cons.mp h
      case inl h => exact .inr (hk ▸ h)
      case inr h => exact .inl (List.mem_cons_of_mem _ h)
    case isFalse =>
      cases List.mem_cons.mp h
      case inl h => exact .inl (h ▸ List.mem_cons_self)
      case inr h => exact (hi h).imp_left (List.mem_cons_of_mem _)

theorem Keyed.put (h : entries.Keyed) (hn : node.Keyed) (key : String) :
    (entries.put key node).Keyed := by
  constructor
  case nodup =>
    rw [map_fst_put]
    split
    case isTrue     => exact h.nodup
    case isFalse hk => simpa using h.nodup.concat hk
  case nodes =>
    intro e he
    cases mem_put he
    case inl he => exact h.nodes e he
    case inr he => exact he ▸ hn

-- A change at the end of a path keeps the keys distinct, if it keeps those of the table there.
theorem Keyed.changeAt {byKey : Bool} {change : Origin → TableDraft → Option TableDraft}
    (hc : ∀ origin entries entries₂, TableDraft.Keyed entries →
      change origin entries = some entries₂ → TableDraft.Keyed entries₂)
    (h : entries.Keyed) (hr : changeAt byKey change path origin entries = some entries₂) :
    entries₂.Keyed := by
  induction path generalizing origin entries entries₂
  case nil => exact hc _ _ _ h hr
  case cons key path hi =>
    rw [TableDraft.changeAt] at hr
    split at hr
    case h_1 =>
      obtain ⟨inner, hs, ⟨⟩⟩ := Option.bind_eq_some_iff.mp hr
      exact h.put (keyed_table_iff.mpr (hi keyed_nil hs)) key
    case h_2 => cases hr
    case h_3 origin inner hl =>
      split at hr
      case isTrue  => cases hr
      case isFalse =>
        obtain ⟨inner₂, hs, ⟨⟩⟩ := Option.bind_eq_some_iff.mp hr
        exact h.put (keyed_table_iff.mpr (hi (keyed_table_iff.mp (h.of_lookup hl)) hs)) key
    case h_4 last earlier hl =>
      obtain ⟨last₂, hs, ⟨⟩⟩ := Option.bind_eq_some_iff.mp hr
      have ⟨hl, he⟩ := List.forall_mem_cons.mp (keyed_tables_iff.mp (h.of_lookup hl))
      exact h.put (keyed_tables_iff.mpr (List.forall_mem_cons.mpr ⟨hi hl hs, he⟩)) key

theorem Keyed.addLeaf {keys : List String} (h : entries.Keyed) (hv : value.Keyed)
    (hr : addLeaf keys value origin entries = some entries₂) : entries₂.Keyed := by
  obtain ⟨key, _, hr⟩ := Option.bind_eq_some_iff.mp hr
  refine h.changeAt (fun origin entries entries₂ h ha => ?_) hr
  split at ha
  case isTrue  => cases ha
  case isFalse =>
    split at ha <;> cases ha
    exact h.put (.leaf hv) key

theorem Keyed.assign {keys : List String} (h : entries.Keyed) (hv : value.Keyed)
    (hr : entries.assign path keys value = some entries₂) : entries₂.Keyed :=
  h.changeAt (fun _ _ _ h ha => h.addLeaf hv ha) hr

theorem Keyed.openTable (h : entries.Keyed) (hr : openTable path entries = some entries₂) :
    entries₂.Keyed := by
  obtain ⟨key, _, hr⟩ := Option.bind_eq_some_iff.mp hr
  refine h.changeAt (fun origin entries entries₂ h hd => ?_) hr
  split at hd <;> cases hd
  case h_1          => exact h.put (keyed_table_iff.mpr keyed_nil) key
  case h_2 inner hl => exact h.put (keyed_table_iff.mpr (keyed_table_iff.mp (h.of_lookup hl))) key

theorem Keyed.openArrayItem (h : entries.Keyed) (hr : openArrayItem path entries = some entries₂) :
    entries₂.Keyed := by
  obtain ⟨key, _, hr⟩ := Option.bind_eq_some_iff.mp hr
  refine h.changeAt (fun origin entries entries₂ h hd => ?_) hr
  split at hd <;> cases hd
  case h_1 => exact h.put (keyed_tables_iff.mpr (by simp [keyed_nil])) key
  case h_2 newest earlier hl =>
    have hk := keyed_tables_iff.mp (h.of_lookup hl)
    exact h.put (keyed_tables_iff.mpr (List.forall_mem_cons.mpr ⟨keyed_nil, hk⟩)) key

end TableDraft

theorem map_fst_finishEntries (entries : TableDraft) :
    (finishEntries entries).map (·.1) = entries.map (·.1) := by
  induction entries
  case nil => rfl
  case cons e entries hi => rw [finishEntries, List.map_cons, List.map_cons, hi]

mutual

theorem Node.Keyed.finish {n : Node} (h : n.Keyed) : n.finish.Keyed := by
  match n with
  | .leaf value =>
    cases h with
    | leaf h => exact h
  | .table origin entries =>
    have h := TableDraft.keyed_table_iff.mp h
    rw [Node.finish]
    exact .table (map_fst_finishEntries entries ▸ h.nodup) (keyed_finishEntries h.nodes)
  | .tables last earlier =>
    have ⟨hl, he⟩ := List.forall_mem_cons.mp (TableDraft.keyed_tables_iff.mp h)
    rw [Node.finish]
    refine .array fun item hm => ?_
    cases List.mem_append.mp hm
    case inl hm => exact keyed_finishTables he item (List.mem_reverse.mp hm)
    case inr hm =>
      rw [List.mem_singleton.mp hm]
      exact .table (map_fst_finishEntries last ▸ hl.nodup) (keyed_finishEntries hl.nodes)

theorem keyed_finishEntries {nodes : List (String × Node)} (h : ∀ e ∈ nodes, e.2.Keyed) :
    ∀ e ∈ finishEntries nodes, e.2.Keyed := by
  match nodes with
  | [] => exact nofun
  | (_, _) :: _ =>
    have ⟨hn, h⟩ := List.forall_mem_cons.mp h
    rw [finishEntries]
    exact List.forall_mem_cons.mpr ⟨hn.finish, keyed_finishEntries h⟩

theorem keyed_finishTables {tables : List (List (String × Node))}
    (h : ∀ t ∈ tables, TableDraft.Keyed t) : ∀ item ∈ finishTables tables, item.Keyed := by
  match tables with
  | [] => exact nofun
  | entries :: tables =>
    have ⟨he, h⟩ := List.forall_mem_cons.mp h
    rw [finishTables]
    refine List.forall_mem_cons.mpr ⟨?_, keyed_finishTables h⟩
    exact .table (map_fst_finishEntries entries ▸ he.nodup) (keyed_finishEntries he.nodes)

end

theorem TableDraft.Keyed.finish (h : entries.Keyed) : (Toml.table (finishEntries entries)).Keyed :=
  .table (map_fst_finishEntries entries ▸ h.nodup) (keyed_finishEntries h.nodes)

end ResourceEmbedding.Toml
