import ResourceEmbedding.Proofs.Json.Text
import ResourceEmbedding.Proofs.KeyMap

namespace ResourceEmbedding

open Json

theorem mapM_map_eq_some {f : γ → δ} {g : δ → Option γ} {cs : List γ}
    (h : ∀ c ∈ cs, g (f c) = some c) : (cs.map f).mapM g = some cs := by
  induction cs
  case nil => rfl
  case cons c cs hi =>
    have ⟨hc, hs⟩ := List.forall_mem_cons.mp h
    rw [List.map_cons, List.mapM_cons, hc, hi hs]
    rfl

-- Values that are written without other numbers than integers, so that their texts are read.
class IntegralForm (α : Type) [JsonForm α] : Prop where
  integral (a : α) : (toJson a).Integral

section IntegralForm

variable [JsonForm α] [IntegralForm α]

@[simp] theorem integral_toJson (a : α) : (toJson a).Integral :=
  IntegralForm.integral a

instance : IntegralForm Bool := ⟨.bool⟩

instance : IntegralForm String := ⟨.string⟩

instance : IntegralForm Nat := ⟨fun n => .number n⟩

instance : IntegralForm (List α) := ⟨fun _ => .array (by simp)⟩

instance : IntegralForm (KeyMap α) where
  integral _ := .object (List.forall_mem_map.mpr fun e _ => integral_toJson e.2)

theorem integralForm_ofNames {all : List γ} {name : γ → String} :
    @IntegralForm γ (.ofNames all name) :=
  @IntegralForm.mk γ (.ofNames all name) fun c => .string (name c)

end IntegralForm

variable [JsonForm α] {a b : α} {fields : List (String × Json)} {name : String}

-- The value is read back from its JSON form, and from the texts of that.
structure Recovers (a : α) : Prop where
  value   : ofJson? (toJson a) = some a
  compact : (read? (toJson a).compact).bind ofJson? = some a
  pretty  : (read? (toJson a).pretty).bind ofJson? = some a

def SameForm (a b : α) : Prop :=
  toJson a = toJson b ∨ (toJson a).compact = (toJson b).compact ∨
    (toJson a).pretty = (toJson b).pretty

namespace Recovers

theorem of_value [IntegralForm α] (h : ofJson? (toJson a) = some a) : Recovers a where
  value   := h
  compact := by rw [Json.compact, (integral_toJson a).read?_write, Option.bind_some, h]
  pretty  := by rw [Json.pretty, (integral_toJson a).read?_write, Option.bind_some, h]

theorem eq_of_sameForm (ha : Recovers a) (hb : Recovers b) (h : SameForm a b) : a = b := by
  apply Option.some_inj.mp
  rcases h with h | h | h
  · rw [← ha.value, h, hb.value]
  · rw [← ha.compact, h, hb.compact]
  · rw [← ha.pretty, h, hb.pretty]

theorem bool (b : Bool) : Recovers b :=
  .of_value rfl

theorem string (s : String) : Recovers s :=
  .of_value rfl

theorem nat {n : Nat} (h : n < 0x10000000000000000) : Recovers n := by
  have hb : (0 ≤ (n : Int) && (n : Int) < 0x10000000000000000) = true := by simp; omega
  exact .of_value (if_pos hb)

theorem list [IntegralForm α] {as : List α} (h : ∀ a ∈ as, Recovers a) : Recovers as :=
  .of_value (mapM_map_eq_some fun a ha => (h a ha).value)

theorem keyMap [IntegralForm α] {m : KeyMap α} (h : ∀ a ∈ m.values, Recovers a) : Recovers m := by
  apply of_value
  simp only [toJson, ofJson?, fields?, Option.bind_eq_bind, Option.bind_some]
  rw [mapM_map_eq_some, Option.bind_some, KeyMap.ofList_entries]
  · rfl
  · intro e he
    rw [(h e.2 (List.mem_map_of_mem he)).value]
    rfl

theorem ofNames {all : List γ} {name : γ → String} {c : γ} (hm : c ∈ all)
    (hn : (all.map name).Nodup) : @Recovers γ (.ofNames all name) c := by
  refine @of_value γ (.ofNames all name) c integralForm_ofNames ?_
  show all.find? (name · == name c) = some c
  cases hf : all.find? (name · == name c)
  case none   => exact absurd (List.find?_eq_none.mp hf c hm) (by simp)
  case some d =>
    have hd : name d = name c := by simpa using List.find?_some hf
    exact congrArg some (List.inj_on_of_nodup_map hn (List.mem_of_find?_eq_some hf) hm hd)

end Recovers

namespace Json

theorem field?_of_mem {x : Json} (hn : (fields.map (·.1)).Nodup) (hm : (name, x) ∈ fields) :
    (Json.object fields).field? name = some x := by
  have hr : (fields.reverse.map (·.1)).Nodup := by rwa [List.map_reverse, List.nodup_reverse]
  exact (lookup_eq_some_iff_mem hr).mpr (List.mem_reverse.mpr hm)

theorem field?_of_notMem (h : name ∉ fields.map (·.1)) :
    (Json.object fields).field? name = none := by
  refine List.lookup_eq_none_iff.mpr fun e he => bne_iff_ne.mpr ?_
  rintro rfl
  exact h (List.mem_map_of_mem (List.mem_reverse.mp he))

theorem required?_of_mem (hn : (fields.map (·.1)).Nodup) (hm : (name, toJson a) ∈ fields)
    (h : Recovers a) : (Json.object fields).required? name = some a := by
  rw [required?, field?_of_mem hn hm, Option.bind_some, h.value]

theorem optional?_of_mem (hn : (fields.map (·.1)).Nodup) (hm : (name, toJson a) ∈ fields)
    (h : Recovers a) (hv : toJson a ≠ .null) :
    (Json.object fields).optional? name = some (some a) := by
  rw [optional?, field?_of_mem hn hm]
  split
  case h_1 he => contradiction
  case h_2 he => exact absurd (Option.some_inj.mp he) hv
  case h_3 he =>
    cases he
    rw [h.value, Option.map_some]

theorem optional?_of_notMem (hm : name ∉ fields.map (·.1)) :
    (Json.object fields).optional? name = some (none : Option α) := by
  rw [optional?, field?_of_notMem hm]

-- A record is read one field after the other, each time with what is read from the others.

theorem bind_some_of {x : Option γ} {f : γ → Option δ} {c : γ} {d : δ} (h : x = some c)
    (hf : f c = some d) : x >>= f = some d :=
  h ▸ hf

variable {c : γ}

theorem bind_required {f : α → Option γ} (hn : (fields.map (·.1)).Nodup)
    (hm : (name, toJson a) ∈ fields) (h : Recovers a) (hf : f a = some c) :
    (Json.object fields).required? name >>= f = some c :=
  bind_some_of (required?_of_mem hn hm h) hf

theorem bind_optional {f : Option α → Option γ} (hn : (fields.map (·.1)).Nodup)
    (hm : (name, toJson a) ∈ fields) (h : Recovers a) (hv : toJson a ≠ .null)
    (hf : f (some a) = some c) : (Json.object fields).optional? name >>= f = some c :=
  bind_some_of (optional?_of_mem hn hm h hv) hf

theorem bind_optional_absent {f : Option α → Option γ} (hm : name ∉ fields.map (·.1))
    (hf : f none = some c) : (Json.object fields).optional? name >>= f = some c :=
  bind_some_of (optional?_of_notMem hm) hf

end Json

end ResourceEmbedding
