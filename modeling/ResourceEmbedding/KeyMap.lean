import ResourceEmbedding.Json.Form

namespace ResourceEmbedding

-- Texts are ordered by their characters, which is also the order of their UTF-8 bytes.
@[ext]
structure KeyMap (β : Type) where
  entries : List (String × β)
  sorted : entries.Pairwise (·.1 < ·.1)

namespace KeyMap

-- Puts `f` of the value of `key`, if there is one, in the place of `key`.
def upsertEntry (key : String) (f : Option β → β) : List (String × β) → List (String × β)
  | [] => [(key, f none)]
  | (k, v) :: rest =>
    if key < k then (key, f none) :: (k, v) :: rest
    else if key = k then (k, f (some v)) :: rest
    else (k, v) :: upsertEntry key f rest

theorem key_of_mem_upsertEntry {key : String} {f : Option β → β} {entries : List (String × β)}
    {e : String × β} (h : e ∈ upsertEntry key f entries) :
    e.1 = key ∨ ∃ e' ∈ entries, e'.1 = e.1 := by
  induction entries with
  | nil => simp_all [upsertEntry]
  | cons head rest ih =>
    simp only [upsertEntry] at h
    split at h
    · grind
    · split at h <;> grind

theorem upsertEntry_sorted (key : String) (f : Option β → β) {entries : List (String × β)}
    (h : entries.Pairwise (·.1 < ·.1)) : (upsertEntry key f entries).Pairwise (·.1 < ·.1) := by
  induction entries with
  | nil => simp [upsertEntry]
  | cons head rest ih =>
    have ⟨below, tail⟩ := List.pairwise_cons.1 h
    simp only [upsertEntry]
    split
    case isTrue lt =>
      refine List.pairwise_cons.2 ⟨fun e he => ?_, h⟩
      cases he with
      | head => exact lt
      | tail _ he => exact String.lt_trans lt (below e he)
    case isFalse notLt =>
      split
      case isTrue => exact List.pairwise_cons.2 ⟨below, tail⟩
      case isFalse ne =>
        refine List.pairwise_cons.2 ⟨fun e he => ?_, ih tail⟩
        rcases key_of_mem_upsertEntry he with eq | ⟨e', he', eq⟩
        · have notLe : ¬key ≤ head.1 := fun le => ne (String.le_antisymm le (String.not_lt.1 notLt))
          exact eq ▸ String.not_le.1 notLe
        · exact eq ▸ below e' he'

def empty : KeyMap β :=
  ⟨[], .nil⟩

instance : Inhabited (KeyMap β) := ⟨empty⟩

def upsert (m : KeyMap β) (key : String) (f : Option β → β) : KeyMap β :=
  ⟨upsertEntry key f m.entries, upsertEntry_sorted key f m.sorted⟩

def insert (m : KeyMap β) (key : String) (value : β) : KeyMap β :=
  m.upsert key fun _ => value

-- The map of some pairs; of several with one key the last counts.
def ofList (pairs : List (String × β)) : KeyMap β :=
  pairs.foldl (fun m (key, value) => m.insert key value) empty

def get? (m : KeyMap β) (key : String) : Option β :=
  m.entries.lookup key

def keys (m : KeyMap β) : List String :=
  m.entries.map (·.1)

def values (m : KeyMap β) : List β :=
  m.entries.map (·.2)

def size (m : KeyMap β) : Nat :=
  m.entries.length

instance [JsonForm β] : JsonForm (KeyMap β) where
  toJson m := .object (m.entries.map fun (key, value) => (key, toJson value))
  ofJson? j := do
    let pairs ← (← j.fields?).mapM fun (key, value) => do return (key, ← ofJson? value)
    return ofList pairs

end KeyMap

end ResourceEmbedding
