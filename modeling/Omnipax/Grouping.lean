import Mathlib.Algebra.BigOperators.Group.List.Basic
import Mathlib.Algebra.Order.Group.Int
import Mathlib.Data.List.Dedup
import Mathlib.Tactic.Ring

/-!
# Rows by a key

`groupBy` as a query has it: one group for each key that occurs, with its rows.
Sums over the groups of some keys are sums over the rows that have one of them,
when the keys are named once.
-/

namespace Grouping

variable {α κ : Type} [DecidableEq κ]

def having (key : α → Option κ) (k : κ) (rows : List α) : List α :=
  rows.filter fun r => key r == some k

def groupBy (key : α → κ) (rows : List α) : List (κ × List α) :=
  (rows.map key).dedup.map fun k => (k, rows.filter fun r => key r == k)

/-! ## One row -/

theorem sum_ite_eq {ks : List κ} (h : ks.Nodup) (k : κ) (n : Int) :
    (ks.map fun k' => if k = k' then n else 0).sum = if k ∈ ks then n else 0 := by
  induction ks with
  | nil => rfl
  | cons k' ks ih =>
      obtain ⟨hnot, hnodup⟩ := List.nodup_cons.mp h
      rw [List.map_cons, List.sum_cons, ih hnodup]
      by_cases hk : k = k'
      · subst hk
        rw [if_pos rfl, if_neg hnot, if_pos (List.mem_cons_self ..), add_zero]
      · rw [if_neg hk, zero_add]
        simp [hk]

theorem sum_key {ks : List κ} (h : ks.Nodup) (k? : Option κ) (n : Int) :
    (ks.map fun k => if k? == some k then n else 0).sum = if k?.any (· ∈ ks) then n else 0 := by
  cases k? with
  | none => simp
  | some k =>
      have hk := sum_ite_eq h k n
      simpa using hk

/-! ## All rows -/

theorem sum_having {ks : List κ} (h : ks.Nodup) (key : α → Option κ) (f : α → Int)
    (rows : List α) :
    (ks.map fun k => ((having key k rows).map f).sum).sum
      = ((rows.filter fun r => (key r).any (· ∈ ks)).map f).sum := by
  induction rows with
  | nil => simp [having]
  | cons r rows ih =>
      have hcons (k : κ) : ((having key k (r :: rows)).map f).sum
          = (if key r == some k then f r else 0) + ((having key k rows).map f).sum := by
        rw [having, List.filter_cons]
        split
        · rw [List.map_cons, List.sum_cons]
          rfl
        · rw [zero_add]
          rfl
      have hright : (((r :: rows).filter fun r => (key r).any (· ∈ ks)).map f).sum
          = (if (key r).any (· ∈ ks) then f r else 0)
            + ((rows.filter fun r => (key r).any (· ∈ ks)).map f).sum := by
        rw [List.filter_cons]
        split
        · rw [List.map_cons, List.sum_cons]
        · rw [zero_add]
      rw [List.map_congr_left fun k _ => hcons k, List.sum_map_add, sum_key h, ih, hright]

theorem sum_having_of_mem {ks : List κ} (h : ks.Nodup) (key : α → Option κ) (f : α → Int)
    {rows : List α} (hrows : ∀ r ∈ rows, (key r).any (· ∈ ks) = true) :
    (ks.map fun k => ((having key k rows).map f).sum).sum = (rows.map f).sum := by
  rw [sum_having h, List.filter_eq_self.mpr hrows]

/-! ## Groups -/

/-- A value that each group of the key replaces, of which there is one or none. -/
theorem foldl_group (key : α → κ) (rows : List α) (k : κ) (f : List α → Int) (hf : f [] = 0) :
    (groupBy key rows).foldl (fun x g => if g.1 = k then f g.2 else x) 0
      = f (rows.filter fun r => key r == k) := by
  have hfold (ks : List κ) (h : ks.Nodup) (x : Int) :
      (ks.map fun k' => (k', rows.filter fun r => key r == k')).foldl
          (fun x g => if g.1 = k then f g.2 else x) x
        = if k ∈ ks then f (rows.filter fun r => key r == k) else x := by
    induction ks generalizing x with
    | nil => rfl
    | cons k' ks ih =>
        obtain ⟨hnot, hnodup⟩ := List.nodup_cons.mp h
        rw [List.map_cons, List.foldl_cons, ih hnodup]
        by_cases hk : k' = k
        · subst hk
          rw [if_neg hnot, if_pos rfl, if_pos (List.mem_cons_self ..)]
        · rw [if_neg hk]
          simp [Ne.symm hk]
  rw [groupBy, hfold _ (List.nodup_dedup _)]
  split
  · rfl
  · rename_i hnot
    rw [List.filter_eq_nil_iff.mpr fun r hr hkey => hnot ?_, hf]
    exact List.mem_dedup.mpr (List.mem_map.mpr ⟨r, hr, beq_iff_eq.mp hkey⟩)

theorem sum_map_one (rows : List α) : (rows.map fun _ => (1 : Int)).sum = rows.length := by
  simp

theorem foldl_groups (key : α → κ) (rows : List α) (included : κ → Bool) :
    (groupBy key rows).foldl (fun n g => if included g.1 then n + g.2.length else n) 0
      = rows.countP fun r => included (key r) := by
  have hfold (ks : List κ) (n : Nat) :
      (((ks.map fun k => (k, rows.filter fun r => key r == k)).foldl
          (fun n g => if included g.1 then n + g.2.length else n) n : Nat) : Int)
        = n + ((ks.filter included).map fun k =>
            ((having (fun r => some (key r)) k rows).map fun _ => (1 : Int)).sum).sum := by
    induction ks generalizing n with
    | nil => simp
    | cons k ks ih =>
        rw [List.map_cons, List.foldl_cons, ih, List.filter_cons]
        cases included k with
        | false => rfl
        | true =>
            have hsame : (having (fun r => some (key r)) k rows).length
                = (rows.filter fun r => key r == k).length := rfl
            rw [if_pos rfl, if_pos rfl, List.map_cons, List.sum_cons, sum_map_one, hsame]
            push_cast
            ring
  refine Int.natCast_inj.mp ?_
  rw [groupBy, hfold, sum_having ((List.nodup_dedup _).filter _), sum_map_one,
    List.countP_eq_length_filter, Nat.cast_zero, zero_add]
  refine congrArg (fun l : List α => (l.length : Int)) (List.filter_congr fun r hr => ?_)
  have hmem : key r ∈ (rows.map key).dedup := List.mem_dedup.mpr (List.mem_map_of_mem hr)
  rw [Option.any_some]
  simp only [List.mem_filter, hmem, true_and, Bool.decide_eq_true]

end Grouping
