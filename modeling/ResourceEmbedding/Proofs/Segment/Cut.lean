import ResourceEmbedding.Segment.Splitter
import ResourceEmbedding.Proofs.Text.Utf16
import Mathlib.Data.Nat.Find
import Mathlib.Tactic

namespace ResourceEmbedding

variable {budget count used n : Nat} {u : UInt16} {units more : List UInt16}

theorem one_le_unitCost (u : UInt16) : 1 ≤ unitCost u := by
  simp only [unitCost]
  split_ifs <;> omega

theorem unitCost_le_three (u : UInt16) : unitCost u ≤ 3 := by
  simp only [unitCost]
  split_ifs <;> omega

theorem unitCost_of_not_plain (h : ¬Utf16.Plain u) : unitCost u = 3 := by
  have hs := mt Utf16.plain_iff.mpr h
  simp only [unitCost, ← UInt16.toNat_inj, UInt16.lt_iff_toNat_lt]
  split_ifs <;> simp_all <;> omega

theorem unitsCost_nil : unitsCost [] = 0 :=
  rfl

theorem unitsCost_cons : unitsCost (u :: units) = unitCost u + unitsCost units :=
  rfl

theorem unitsCost_append : unitsCost (units ++ more) = unitsCost units + unitsCost more := by
  induction units
  case nil => rw [List.nil_append, unitsCost_nil, Nat.zero_add]
  case cons u units hi => rw [List.cons_append, unitsCost_cons, unitsCost_cons, hi, Nat.add_assoc]

theorem length_le_unitsCost (units : List UInt16) : units.length ≤ unitsCost units := by
  induction units
  case nil => exact Nat.le_refl _
  case cons u units hi =>
    have := one_le_unitCost u
    rw [unitsCost_cons, List.length_cons]
    omega

def affordable (budget : Nat) (units : List UInt16) : Nat :=
  Nat.findGreatest (fun n => unitsCost (units.take n) ≤ budget) units.length

theorem affordable_le_length : affordable budget units ≤ units.length :=
  Nat.findGreatest_le _

theorem unitsCost_take_affordable : unitsCost (units.take (affordable budget units)) ≤ budget :=
  Nat.findGreatest_spec (P := fun n => unitsCost (units.take n) ≤ budget) (Nat.zero_le _)
    (by simp [unitsCost_nil])

theorem le_affordable (hn : n ≤ units.length) (h : unitsCost (units.take n) ≤ budget) :
    n ≤ affordable budget units :=
  Nat.le_findGreatest hn h

theorem affordable_le_budget : affordable budget units ≤ budget := by
  have h₁ := length_le_unitsCost (units.take (affordable budget units))
  have h₂ := @unitsCost_take_affordable budget units
  have h₃ := @affordable_le_length budget units
  rw [List.length_take] at h₁
  omega

theorem affordable_nil : affordable budget [] = 0 :=
  Nat.le_zero.mp affordable_le_length

theorem affordable_cons :
    affordable budget (u :: units) =
      if unitCost u ≤ budget then affordable (budget - unitCost u) units + 1 else 0 := by
  have h₁ := @unitsCost_take_affordable budget (u :: units)
  split
  case isTrue hu =>
    apply Nat.le_antisymm
    case h₁ =>
      cases hn : affordable budget (u :: units)
      case zero => omega
      case succ n =>
        have hl := hn ▸ @affordable_le_length budget (u :: units)
        rw [hn, List.take_succ_cons, unitsCost_cons] at h₁
        simp only [List.length_cons] at hl
        have := @le_affordable (budget - unitCost u) n units (by omega) (by omega)
        omega
    case h₂ =>
      have h₂ := @unitsCost_take_affordable (budget - unitCost u) units
      have hl := @affordable_le_length (budget - unitCost u) units
      apply le_affordable
      case hn => simpa using hl
      case h  => rw [List.take_succ_cons, unitsCost_cons]; omega
  case isFalse hu =>
    cases hn : affordable budget (u :: units)
    case zero => rfl
    case succ n =>
      rw [hn, List.take_succ_cons, unitsCost_cons] at h₁
      omega

theorem affordable_append (h : budget < units.length) :
    affordable budget (units ++ more) = affordable budget units := by
  induction units generalizing budget
  case nil => simp at h
  case cons u units hi =>
    have := one_le_unitCost u
    rw [List.length_cons] at h
    simp only [List.cons_append, affordable_cons]
    split
    case isTrue  => rw [hi (by omega)]
    case isFalse => rfl

-- Whether a cut after `n` units has the halves of a surrogate pair at its two sides.
def insidePair (units : List UInt16) (n : Nat) : Bool :=
  units[n - 1]?.any Utf16.isHigh && units[n]?.any Utf16.isLow

-- The length of the next piece: all that the budget affords, less the last unit of several where
-- the cut would come inside a surrogate pair.
def pieceLength (budget : Nat) (units : List UInt16) : Nat :=
  let n := affordable budget units
  if 1 < n && insidePair units n then n - 1 else n

theorem pieceLength_le : pieceLength budget units ≤ affordable budget units := by
  simp only [pieceLength]
  split <;> omega

theorem pieceLength_le_length : pieceLength budget units ≤ units.length :=
  pieceLength_le.trans affordable_le_length

theorem pieceLength_nil : pieceLength budget [] = 0 :=
  Nat.le_zero.mp pieceLength_le_length

theorem pieceLength_pos (hb : leastBudget ≤ budget) (h : units ≠ []) :
    0 < pieceLength budget units := by
  cases units
  case nil => contradiction
  case cons u units =>
    have h₁ := unitCost_le_three u
    have hu : unitCost u ≤ budget := h₁.trans hb
    have h₂ : 0 < affordable budget (u :: units) := by simp [affordable_cons, hu]
    simp only [pieceLength]
    split <;> simp_all

theorem unitsCost_take_mono (h : count ≤ n) :
    unitsCost (units.take count) ≤ unitsCost (units.take n) := by
  have ht := List.take_append_drop count (units.take n)
  rw [List.take_take, Nat.min_eq_left h] at ht
  rw [← ht, unitsCost_append]
  omega

theorem unitsCost_take_pieceLength :
    unitsCost (units.take (pieceLength budget units)) ≤ budget :=
  (unitsCost_take_mono pieceLength_le).trans unitsCost_take_affordable

-- A lookahead that is longer than the budget shows the unit behind the cut, too.
theorem pieceLength_append (h : budget < units.length) :
    pieceLength budget (units ++ more) = pieceLength budget units := by
  have hl := @affordable_le_budget budget units
  have hp (hn : affordable budget units < units.length) :
      insidePair (units ++ more) (affordable budget units) =
        insidePair units (affordable budget units) := by
    simp only [insidePair]
    rw [List.getElem?_append_left hn, List.getElem?_append_left (by omega)]
  simp only [pieceLength, affordable_append h, hp (by omega)]

def pieces (budget : Nat) (units : List UInt16) : List Segment :=
  if pieceLength budget units = 0 then []
  else .ofUnits (units.take (pieceLength budget units)) ::
    pieces budget (units.drop (pieceLength budget units))
termination_by units.length
decreasing_by
  have := @pieceLength_le_length budget units
  rw [List.length_drop]
  omega

theorem pieces_nil : pieces budget [] = [] := by
  rw [pieces, if_pos pieceLength_nil]

theorem pieces_of_pos (h : pieceLength budget units ≠ 0) :
    pieces budget units = .ofUnits (units.take (pieceLength budget units)) ::
      pieces budget (units.drop (pieceLength budget units)) := by
  rw [pieces, if_neg h]

theorem flatMap_units_pieces (hb : leastBudget ≤ budget) (units : List UInt16) :
    (pieces budget units).flatMap (·.units) = units := by
  induction units using pieces.induct budget
  case case1 units h =>
    have : units = [] := by
      by_contra hn
      exact (pieceLength_pos hb hn).ne' h
    simp [this, pieces_nil]
  case case2 units h hi =>
    rw [pieces_of_pos h, List.flatMap_cons, hi]
    simp [Segment.ofUnits]

theorem units_subset_of_mem_pieces {s : Segment} (hb : leastBudget ≤ budget)
    (h : s ∈ pieces budget units) : s.units ⊆ units := by
  intro u hu
  have hm := List.mem_flatMap.mpr ⟨s, h, hu⟩
  rwa [flatMap_units_pieces hb] at hm

-- What every segment is to be.
structure Segment.Fits (budget : Nat) (s : Segment) : Prop where
  nonempty : s.units ≠ []
  measured : s.encodedLength = unitsCost s.units
  within   : s.encodedLength ≤ budget

theorem fits_of_mem_pieces {s : Segment} (h : s ∈ pieces budget units) : s.Fits budget := by
  induction units using pieces.induct budget
  case case1 units hn => simp [pieces, hn] at h
  case case2 units hn hi =>
    rw [pieces_of_pos hn, List.mem_cons] at h
    cases h
    case inl h =>
      subst h
      have hl := @pieceLength_le_length budget units
      refine ⟨?nonempty, rfl, unitsCost_take_pieceLength⟩
      case nonempty =>
        intro he
        have := congrArg List.length he
        simp only [Segment.ofUnits, List.length_take, List.length_nil] at this
        omega
    case inr h => exact hi h

-- What adds up over units adds up over the pieces of them, whatever the budget is.
theorem total_pieces {size : Segment → Nat} (hb : leastBudget ≤ budget)
    (hn : size (.ofUnits []) = 0)
    (ha : ∀ before after, size (.ofUnits (before ++ after)) =
      size (.ofUnits before) + size (.ofUnits after)) (units : List UInt16) :
    total size (pieces budget units) = size (.ofUnits units) := by
  induction units using pieces.induct budget
  case case1 units h =>
    have : units = [] := by
      by_contra hu
      exact (pieceLength_pos hb hu).ne' h
    rw [this, pieces_nil, hn]
    rfl
  case case2 units h hi =>
    calc
      _ = size (.ofUnits (units.take (pieceLength budget units))) +
            total size (pieces budget (units.drop (pieceLength budget units))) := by
        rw [pieces_of_pos h]
        rfl
      _ = size (.ofUnits units) := by rw [hi, ← ha, List.take_append_drop]

-- The scan of the splitter is the reference's longest run, counted on from where it stands ...
theorem longestWithin_eq (h : used ≤ budget) :
    longestWithin budget count used units =
      (count + affordable (budget - used) units,
        used + unitsCost (units.take (affordable (budget - used) units))) := by
  induction units generalizing count used
  case nil => simp [longestWithin, affordable_nil, unitsCost_nil]
  case cons u units hi =>
    rw [longestWithin, affordable_cons]
    split
    case isTrue hu =>
      rw [hi hu, if_pos (by omega), List.take_succ_cons, unitsCost_cons, Nat.sub_add_eq]
      simp only [Prod.mk.injEq]
      omega
    case isFalse hu =>
      rw [if_neg (by omega)]
      simp [unitsCost_nil]

theorem partsPair_eq (h : 0 < n) : partsPair units n = insidePair units n := by
  have h₁ : units[n - 1]? = (units.drop (n - 1))[0]? := by simp
  have h₂ : units[n]? = (units.drop (n - 1))[1]? := by simp [Nat.sub_add_cancel h]
  rw [partsPair, insidePair, h₁, h₂]
  match units.drop (n - 1) with
  | [] | [_] | _ :: _ :: _ => simp

theorem unitsCost_take_of_insidePair (h : 0 < n) (hp : insidePair units n) :
    unitsCost (units.take n) = unitsCost (units.take (n - 1)) + surrogateCost := by
  simp only [insidePair, Bool.and_eq_true, Option.any_eq_true] at hp
  have ⟨⟨u, hu, hh⟩, _⟩ := hp
  have hs : ¬Utf16.Plain u := fun hn => by simp [hn.notHigh] at hh
  have ht : units.take n = units.take (n - 1) ++ [u] := by
    rw [← Nat.sub_add_cancel h, List.take_add_one, hu]
    simp
  rw [ht, unitsCost_append, unitsCost_cons, unitCost_of_not_plain hs]
  rfl

-- ... and its cut ends the reference's piece, at its cost.
theorem cut_eq (budget : Nat) (units : List UInt16) :
    cut budget units =
      (pieceLength budget units, unitsCost (units.take (pieceLength budget units))) := by
  simp only [cut, longestWithin_eq (Nat.zero_le budget), pieceLength, Nat.sub_zero, Nat.zero_add]
  by_cases h : 1 < affordable budget units
  case neg => simp [h]
  case pos =>
    have hn := Nat.zero_lt_of_lt h
    rw [partsPair_eq hn]
    cases hp : insidePair units (affordable budget units)
    case false => simp
    case true  => simp [h, unitsCost_take_of_insidePair hn hp]

end ResourceEmbedding
