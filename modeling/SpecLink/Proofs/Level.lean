import Mathlib.Data.List.Lex
import Mathlib.Data.Nat.Basic
import Mathlib.Order.Lattice
import SpecLink.Level

/-!
# The order of levels

A level ranks as the list of its numbers and a missing level as the empty list, in the order of
lists that compares item by item. Main statement: `eq_greatest_iff`, which level of some is the
greatest.
-/
namespace SpecLink.SpecLevel

/-- The numbers that decide where a level stands; a missing level has none. -/
def rank : Option SpecLevel → List Nat
  | none => []
  | some level => level.parts.map UInt32.toNat

theorem partsBelow_iff (a b : List UInt32) :
    partsBelow a b = true ↔ a.map UInt32.toNat < b.map UInt32.toNat := by
  -- The lists are compared in step, number by number.
  fun_induction partsBelow a b with
  | case1 => simp
  | case2 => simp
  | case3 => simp
  | case4 a as b bs ih =>
    rw [Bool.or_eq_true, Bool.and_eq_true, decide_eq_true_eq, beq_iff_eq, ih, List.map_cons,
      List.map_cons, List.cons_lt_cons_iff, UInt32.lt_iff_toNat_lt, UInt32.toNat_inj]

/-- The order of levels is the order of their ranks. -/
theorem isBelow_iff (a b : Option SpecLevel) : isBelow a b = true ↔ rank a < rank b := by
  cases a with
  | none => cases b <;> simp [isBelow, rank, parts]
  | some a =>
    cases b with
    | none => simp [isBelow, rank]
    | some b => exact partsBelow_iff a.parts b.parts

theorem rank_injective : Function.Injective rank := by
  intro a b same
  have mapInjective : Function.Injective (List.map UInt32.toNat) :=
    List.map_injective_iff.2 fun x y => UInt32.toNat_inj.1
  cases a with
  | none => cases b <;> simp [rank, parts] at same ⊢
  | some a =>
    cases b with
    | none => simp [rank, parts] at same
    | some b =>
      have sameParts : a.parts = b.parts := mapInjective same
      cases a
      cases b
      simpa [parts] using sameParts

theorem rank_keep (top level : Option SpecLevel) :
    rank (if isBelow top level then level else top) = max (rank top) (rank level) := by
  by_cases below : rank top < rank level
  · rw [if_pos ((isBelow_iff top level).2 below), max_eq_right below.le]
  · rw [if_neg (mt (isBelow_iff top level).1 below), max_eq_left (not_lt.1 below)]

theorem rank_greatest (levels : List (Option SpecLevel)) :
    rank (greatest levels) = (levels.map rank).foldl max [] := by
  have general (start : Option SpecLevel) :
      rank (levels.foldl (fun top level => if isBelow top level then level else top) start) =
        (levels.map rank).foldl max (rank start) := by
    induction levels generalizing start with
    | nil => rfl
    -- The search keeps the greater of two levels, so ranks are folded with the maximum.
    | cons first rest ih => rw [List.foldl_cons, ih, rank_keep, List.map_cons, List.foldl_cons]
  exact general none

theorem le_foldl_max {α : Type} [LinearOrder α] (items : List α) (start : α) :
    start ≤ items.foldl max start ∧ ∀ item ∈ items, item ≤ items.foldl max start := by
  induction items generalizing start with
  | nil => exact ⟨le_rfl, fun item member => absurd member List.not_mem_nil⟩
  | cons first rest ih =>
    obtain ⟨startLe, restLe⟩ := ih (max start first)
    refine ⟨(le_max_left start first).trans startLe, fun item member => ?_⟩
    rcases List.mem_cons.1 member with rfl | member
    · exact (le_max_right start item).trans startLe
    · exact restLe item member

theorem rank_le_greatest {levels : List (Option SpecLevel)} {level : Option SpecLevel}
    (member : level ∈ levels) : rank level ≤ rank (greatest levels) := by
  rw [rank_greatest]
  exact (le_foldl_max (levels.map rank) []).2 (rank level) (List.mem_map_of_mem member)

/-- The greatest of some levels is one of them, unless there are none. -/
theorem greatest_mem {levels : List (Option SpecLevel)} (nonempty : levels ≠ []) :
    greatest levels ∈ levels := by
  -- The search starts at a missing level, which need not be one of them.
  have general (start : Option SpecLevel) :
      levels.foldl (fun top level => if isBelow top level then level else top) start ∈
        start :: levels := by
    clear nonempty
    induction levels generalizing start with
    | nil => exact List.mem_singleton_self start
    | cons first rest ih =>
      rcases List.mem_cons.1 (ih (if isBelow start first then first else start)) with same | later
      · rw [List.foldl_cons, same]
        split <;> simp
      · exact List.mem_cons_of_mem _ (List.mem_cons_of_mem _ later)
  rcases List.mem_cons.1 (general none) with missing | member
  · -- A missing level at the top means that every level is missing.
    obtain ⟨level, member⟩ := List.exists_mem_of_ne_nil levels nonempty
    have top : greatest levels = none := missing
    have least : rank level ≤ [] := by simpa [top, rank] using rank_le_greatest member
    have same : level = none := rank_injective (le_antisymm least (not_lt.1 (List.not_lt_nil _)))
    rw [top, ← same]
    exact member
  · exact member

/-- A level of some is the greatest exactly if none of them ranks above it. -/
theorem eq_greatest_iff {levels : List (Option SpecLevel)} {level : Option SpecLevel}
    (member : level ∈ levels) :
    level = greatest levels ↔ ∀ other ∈ levels, rank other ≤ rank level := by
  constructor
  · rintro rfl other present
    exact rank_le_greatest present
  · intro highest
    -- Two levels that rank alike are the same level.
    have top := highest (greatest levels) (greatest_mem (List.ne_nil_of_mem member))
    exact rank_injective (le_antisymm (rank_le_greatest member) top)

end SpecLink.SpecLevel
