import Mathlib.Data.List.Basic
import SpecLink.Grouping

/-!
# How items are grouped

The first item of each key is kept, in order (`firstOfEach`), and the groups stand in the order of
these items (`groupsBy`). Put one behind the other, the groups have all items, those of a key in
order (`filter_flatten_groupsBy`), and keys in the order in which they first appear
(`pairwise_flatten_groupsBy`). No other list is like that (`eq_of_filter_eq`).
-/
namespace SpecLink.Grouping

variable {α β : Type} [DecidableEq β] {key : α → β} {items : List α}

/-! The first item of each key. -/

theorem firstOfEach_sublist (key : α → β) (items : List α) :
    (firstOfEach key items).Sublist items := by
  induction items with
  | nil => exact .slnil
  | cons a rest ih => exact (List.filter_sublist.trans ih).cons_cons a

/-- A further item is kept if its key is new. -/
theorem firstOfEach_concat (items : List α) (a : α) :
    firstOfEach key (items ++ [a]) =
      if ∃ b ∈ items, key b = key a then firstOfEach key items else firstOfEach key items ++ [a] := by
  induction items with
  | nil => simp [firstOfEach]
  | cons first rest ih =>
    rw [List.cons_append, firstOfEach, firstOfEach, ih]
    by_cases same : key first = key a
    · -- The first item has the key, so the last one is left out either way.
      have listed : ∃ b ∈ first :: rest, key b = key a := ⟨first, List.mem_cons_self, same⟩
      rw [if_pos listed]
      split <;> simp [same]
    · have listed : (∃ b ∈ first :: rest, key b = key a) ↔ ∃ b ∈ rest, key b = key a := by
        simp [same]
      simp only [listed]
      split
      · rfl
      · simp [Ne.symm same]

/-- The keys that are kept are all there are. -/
theorem exists_firstOfEach_iff {k : β} :
    (∃ a ∈ firstOfEach key items, key a = k) ↔ ∃ a ∈ items, key a = k := by
  constructor
  · rintro ⟨a, kept, same⟩
    exact ⟨a, mem_of_mem_firstOfEach kept, same⟩
  · rintro ⟨a, member, rfl⟩
    exact exists_mem_firstOfEach member

theorem mem_map_firstOfEach {k : β} :
    k ∈ (firstOfEach key items).map key ↔ ∃ a ∈ items, key a = k := by
  rw [List.mem_map, exists_firstOfEach_iff]

/-- Of the items with a key the first one is kept. -/
theorem filter_firstOfEach (items : List α) (k : β) :
    (firstOfEach key items).filter (fun a => key a = k) =
      (items.find? fun a => key a = k).toList := by
  induction items with
  | nil => rfl
  | cons first rest ih =>
    rw [firstOfEach, List.filter_cons, List.filter_filter]
    by_cases here : key first = k
    · -- What is left of the rest has other keys.
      simp [here]
    · have others : (firstOfEach key rest).filter
          (fun a => decide (key a = k) && decide (key a ≠ key first)) =
            (firstOfEach key rest).filter fun a => key a = k := by
        refine List.filter_congr fun a _ => ?_
        by_cases there : key a = k <;> simp [there, Ne.symm here]
      rw [others, ih, if_neg (by simpa using here), List.find?_cons_of_neg (by simpa using here)]

/-- What is kept is the first item of its key. -/
theorem find?_of_mem_firstOfEach {a : α} (kept : a ∈ firstOfEach key items) :
    items.find? (fun b => key b = key a) = some a := by
  have listed : a ∈ (firstOfEach key items).filter fun b => key b = key a :=
    List.mem_filter.2 ⟨kept, decide_eq_true rfl⟩
  rw [filter_firstOfEach] at listed
  exact Option.mem_toList.1 listed

/-- To leave out keys makes no difference to the others. -/
theorem firstOfEach_filter (keep : β → Bool) (items : List α) :
    firstOfEach key (items.filter fun a => keep (key a)) =
      (firstOfEach key items).filter fun a => keep (key a) := by
  induction items with
  | nil => rfl
  | cons first rest ih =>
    rw [List.filter_cons, firstOfEach, List.filter_cons]
    split
    · rw [firstOfEach, ih, List.filter_filter, List.filter_filter]
      simp only [Bool.and_comm]
    next dropped =>
      -- Nothing that is kept has the key that is left out.
      rw [ih, List.filter_filter]
      refine List.filter_congr fun a _ => ?_
      by_cases same : key a = key first <;> simp [same, dropped]

/-- If no two items have one key, all are kept. -/
theorem firstOfEach_eq_self (distinct : items.Pairwise fun a b => key a ≠ key b) :
    firstOfEach key items = items := by
  induction items with
  | nil => rfl
  | cons first rest ih =>
    obtain ⟨apart, distinct⟩ := List.pairwise_cons.1 distinct
    rw [firstOfEach, ih distinct]
    refine congrArg (first :: ·) (List.filter_eq_self.2 fun b later => ?_)
    exact decide_eq_true (Ne.symm (apart b later))

/-- An item is kept if no other has its key. -/
theorem filter_firstOfEach_alone (key : α → β) (items : List α) :
    (firstOfEach key items).filter (fun a => items.countP (fun b => key b = key a) = 1) =
      items.filter fun a => items.countP (fun b => key b = key a) = 1 := by
  rw [← firstOfEach_filter fun k => items.countP (fun b => key b = k) = 1]
  refine firstOfEach_eq_self (List.pairwise_iff_forall_sublist.2 fun {a b} both same => ?_)
  -- Of two items with one key neither would be the only one.
  have once := of_decide_eq_true (List.mem_filter.1 (both.subset List.mem_cons_self)).2
  have twice := (both.trans List.filter_sublist).countP_le (p := fun c => key c = key a)
  rw [once] at twice
  simp [same] at twice

/-! The groups. -/

theorem eq_filter_of_mem_groupsBy {group : List α} (listed : group ∈ groupsBy key items) {a : α}
    (member : a ∈ group) : group = items.filter fun b => key b = key a := by
  obtain ⟨first, -, rfl⟩ := List.mem_map.1 listed
  obtain ⟨-, same⟩ := List.mem_filter.1 member
  rw [of_decide_eq_true same]

theorem mem_of_mem_groupsBy {group : List α} (listed : group ∈ groupsBy key items) {a : α}
    (member : a ∈ group) : a ∈ items := by
  rw [eq_filter_of_mem_groupsBy listed member] at member
  exact (List.mem_filter.1 member).1

theorem key_eq_of_mem_groupsBy {group : List α} (listed : group ∈ groupsBy key items) {a b : α}
    (here : a ∈ group) (there : b ∈ group) : key a = key b := by
  rw [eq_filter_of_mem_groupsBy listed there] at here
  exact of_decide_eq_true (List.mem_filter.1 here).2

theorem ne_nil_of_mem_groupsBy {group : List α} (listed : group ∈ groupsBy key items) :
    group ≠ [] := by
  obtain ⟨first, kept, rfl⟩ := List.mem_map.1 listed
  exact List.ne_nil_of_mem (List.mem_filter.2 ⟨mem_of_mem_firstOfEach kept, decide_eq_true rfl⟩)

omit [DecidableEq β] in
/-- What is left out gives nothing. -/
theorem flatMap_filter {γ : Type} {keep : α → Prop} [DecidablePred keep] (f : α → List γ)
    (items : List α) : (items.filter fun a => keep a).flatMap f =
      items.flatMap fun a => if keep a then f a else [] := by
  induction items with
  | nil => rfl
  | cons a rest ih =>
    by_cases kept : keep a
    · rw [List.filter_cons_of_pos (by simpa using kept), List.flatMap_cons, List.flatMap_cons,
        if_pos kept, ih]
    · rw [List.filter_cons_of_neg (by simpa using kept), List.flatMap_cons, if_neg kept, ih,
        List.nil_append]

/-- The groups have the items of each key, in order. -/
theorem filter_flatten_groupsBy (key : α → β) (items : List α) (k : β) :
    (groupsBy key items).flatten.filter (fun a => key a = k) =
      items.filter fun a => key a = k := by
  -- A group with the key keeps all its items, and any other none.
  have group (first : α) : (items.filter fun a => key a = key first).filter (fun a => key a = k) =
      if key first = k then items.filter fun a => key a = k else [] := by
    rw [List.filter_filter]
    split
    next same => simp [same]
    next different =>
      refine List.filter_eq_nil_iff.2 fun a _ => ?_
      simp only [Bool.and_eq_true, decide_eq_true_eq, not_and]
      exact fun there same => different (same.symm.trans there)
  rw [groupsBy, ← List.flatMap_def, List.filter_flatMap]
  simp only [group]
  rw [← flatMap_filter, filter_firstOfEach]
  -- The key has one group if an item has the key, and none otherwise.
  cases found : items.find? fun a => key a = k with
  | some first => simp
  | none => exact (List.filter_eq_nil_iff.2 (List.find?_eq_none.1 found)).symm

/-- Lists that agree on each key have the same items. -/
theorem perm_of_filter_eq {xs ys : List α}
    (same : ∀ k, xs.filter (fun a => key a = k) = ys.filter fun a => key a = k) : xs.Perm ys := by
  classical
  refine List.perm_iff_count.2 fun a => ?_
  have count (zs : List α) : (zs.filter fun b => key b = key a).count a = zs.count a :=
    List.count_filter (decide_eq_true rfl)
  rw [← count xs, same, count ys]

/-- Grouping keeps the items. -/
theorem flatten_groupsBy_perm (key : α → β) (items : List α) :
    (groupsBy key items).flatten.Perm items :=
  perm_of_filter_eq (filter_flatten_groupsBy key items)

/-- The groups with a further item, which joins the group of its key or begins one behind the
others. -/
def place (key : α → β) (groups : List (List α)) (a : α) : List (List α) :=
  if ∃ group ∈ groups, ∃ b ∈ group, key b = key a then
    groups.map fun group => if ∃ b ∈ group, key b = key a then group ++ [a] else group
  else groups ++ [[a]]

theorem exists_mem_groupsBy_iff {k : β} :
    (∃ group ∈ groupsBy key items, ∃ b ∈ group, key b = k) ↔ ∃ b ∈ items, key b = k := by
  constructor
  · rintro ⟨group, listed, b, member, same⟩
    exact ⟨b, mem_of_mem_groupsBy listed member, same⟩
  · rintro ⟨b, member, same⟩
    have grouped := (flatten_groupsBy_perm key items).mem_iff.2 member
    obtain ⟨group, listed, inGroup⟩ := List.mem_flatten.1 grouped
    exact ⟨group, listed, b, inGroup, same⟩

/-- What a further item does to the groups. -/
theorem groupsBy_concat (items : List α) (a : α) :
    groupsBy key (items ++ [a]) = place key (groupsBy key items) a := by
  -- The groups are filtered from all items, so the further one is behind those of its key.
  have grown (first) (kept : first ∈ firstOfEach key items) :
      (items ++ [a]).filter (fun b => key b = key first) =
        if ∃ b ∈ items.filter fun b => key b = key first, key b = key a
        then (items.filter fun b => key b = key first) ++ [a]
        else items.filter fun b => key b = key first := by
    have inGroup : first ∈ items.filter fun b => key b = key first :=
      List.mem_filter.2 ⟨mem_of_mem_firstOfEach kept, decide_eq_true rfl⟩
    rw [List.filter_append]
    by_cases same : key a = key first
    · rw [if_pos ⟨first, inGroup, same.symm⟩, List.filter_singleton, decide_eq_true same, cond_true]
    · rw [if_neg, List.filter_singleton, decide_eq_false same, cond_false, List.append_nil]
      rintro ⟨b, member, there⟩
      exact same (there.symm.trans (of_decide_eq_true (List.mem_filter.1 member).2))
  rw [place, groupsBy, firstOfEach_concat]
  by_cases seen : ∃ b ∈ items, key b = key a
  · rw [if_pos seen, if_pos (exists_mem_groupsBy_iff.2 seen), groupsBy, List.map_map]
    exact List.map_congr_left grown
  · -- No group has the key, so none grows.
    have alone : (items ++ [a]).filter (fun b => key b = key a) = [a] := by
      have none : items.filter (fun b => key b = key a) = [] :=
        List.filter_eq_nil_iff.2 fun b member same => seen ⟨b, member, of_decide_eq_true same⟩
      rw [List.filter_append, none, List.nil_append, List.filter_singleton, decide_eq_true rfl,
        cond_true]
    rw [if_neg seen, if_neg (mt exists_mem_groupsBy_iff.1 seen), List.map_append,
      List.map_singleton, alone, groupsBy]
    refine congrArg (· ++ [[a]]) (List.map_congr_left fun first kept => ?_)
    rw [grown first kept, if_neg]
    rintro ⟨b, member, same⟩
    exact seen ⟨b, (List.mem_filter.1 member).1, same⟩

/-- Items can be grouped one by one. -/
theorem foldl_place (front rest : List α) :
    rest.foldl (place key) (groupsBy key front) = groupsBy key (front ++ rest) := by
  induction rest generalizing front with
  | nil => rw [List.foldl_nil, List.append_nil]
  | cons a rest ih =>
    rw [List.foldl_cons, ← groupsBy_concat, ih, List.append_assoc, List.singleton_append]

/-- The groups of one item have the items whose key no other has. -/
theorem flatten_single_groupsBy (key : α → β) (items : List α) :
    ((groupsBy key items).filter fun group => group.length == 1).flatten =
      items.filter fun a => items.countP (fun b => key b = key a) = 1 := by
  have length : (fun group : List α => group.length == 1) ∘
      (fun first => items.filter fun a => key a = key first) =
        fun first => decide (items.countP (fun b => key b = key first) = 1) := by
    funext first
    rw [Function.comp_apply, ← List.countP_eq_length_filter]
    rfl
  rw [groupsBy, List.filter_map, ← List.flatMap_def, length, filter_firstOfEach_alone]
  refine (List.flatMap_congr fun a listed => ?_).trans (List.flatMap_singleton' _)
  -- The item is in its group, which has only one.
  obtain ⟨member, once⟩ := List.mem_filter.1 listed
  have once := of_decide_eq_true once
  rw [List.countP_eq_length_filter] at once
  obtain ⟨only, single⟩ := List.length_eq_one_iff.1 once
  have inGroup : a ∈ items.filter fun b => key b = key a :=
    List.mem_filter.2 ⟨member, decide_eq_true rfl⟩
  rw [single, List.mem_singleton] at inGroup
  rw [single, inGroup]

/-! The order of the groups. -/

/-- Where a key first appears, behind all items if it does not. -/
def firstAt (key : α → β) (items : List α) (k : β) : Nat := items.findIdx fun a => key a = k

theorem firstAt_cons_self {a : α} {k : β} (same : key a = k) (rest : List α) :
    firstAt key (a :: rest) k = 0 := by
  simp [firstAt, List.findIdx_cons, same]

theorem firstAt_cons_of_ne {a : α} {k : β} (different : key a ≠ k) (rest : List α) :
    firstAt key (a :: rest) k = firstAt key rest k + 1 := by
  simp [firstAt, List.findIdx_cons, different]

theorem firstAt_append {front : List α} {k : β} (absent : ∀ a ∈ front, key a ≠ k) (rest : List α) :
    firstAt key (front ++ rest) k = firstAt key rest k + front.length := by
  have behind : front.findIdx (fun a => key a = k) = front.length :=
    List.findIdx_eq_length.2 fun a member => decide_eq_false (absent a member)
  rw [firstAt, List.findIdx_append, behind, if_neg (Nat.lt_irrefl _), firstAt]

/-- No two keys first appear at one place. -/
theorem firstAt_inj {k l : β} (appears : ∃ a ∈ items, key a = k)
    (same : firstAt key items k = firstAt key items l) : k = l := by
  -- The item at the place where a key first appears has the key.
  have found {m : β} (inside : firstAt key items m < items.length) :
      key items[firstAt key items m] = m := of_decide_eq_true (List.findIdx_getElem (w := inside))
  have inside : firstAt key items k < items.length :=
    List.findIdx_lt_length.2 (by simpa using appears)
  rw [← found inside]
  simp only [same]
  exact found (same ▸ inside)

/-- What is kept stands in the order in which the keys first appear. -/
theorem pairwise_firstAt_firstOfEach (key : α → β) (items : List α) :
    (firstOfEach key items).Pairwise fun a b =>
      firstAt key items (key a) < firstAt key items (key b) := by
  induction items with
  | nil => exact .nil
  | cons first rest ih =>
    -- Behind the first item only other keys are kept, and each of them appears one place later.
    have different {b : α} (kept : b ∈ (firstOfEach key rest).filter fun b => key b ≠ key first) :
        key first ≠ key b := Ne.symm (of_decide_eq_true (List.mem_filter.1 kept).2)
    refine List.pairwise_cons.2 ⟨fun b kept => ?_, ?_⟩
    · rw [firstAt_cons_self rfl, firstAt_cons_of_ne (different kept)]
      exact Nat.succ_pos _
    · refine (ih.filter _).imp_of_mem fun {a b} kept kept' before => ?_
      rw [firstAt_cons_of_ne (different kept), firstAt_cons_of_ne (different kept')]
      exact Nat.succ_lt_succ before

theorem pairwise_groupsBy (key : α → β) (items : List α) :
    (groupsBy key items).Pairwise fun group later => ∀ a ∈ group, ∀ b ∈ later,
      firstAt key items (key a) < firstAt key items (key b) := by
  refine List.pairwise_map.2 ((pairwise_firstAt_firstOfEach key items).imp ?_)
  intro first later before a member b member'
  rw [of_decide_eq_true (List.mem_filter.1 member).2, of_decide_eq_true (List.mem_filter.1 member').2]
  exact before

/-- The groups stand in the order in which their keys first appear. -/
theorem pairwise_flatten_groupsBy (key : α → β) (items : List α) :
    (groupsBy key items).flatten.Pairwise fun a b =>
      firstAt key items (key a) ≤ firstAt key items (key b) := by
  refine List.pairwise_flatten.2 ⟨fun group listed => ?_, ?_⟩
  · refine List.pairwise_of_forall_mem_list fun a here b there => Nat.le_of_eq ?_
    rw [key_eq_of_mem_groupsBy listed here there]
  · exact (pairwise_groupsBy key items).imp fun before a member b member' =>
      Nat.le_of_lt (before a member b member')

/-- Lists that agree on each key are equal if their keys stand in one order. -/
theorem eq_of_filter_eq {rank : β → Nat} {xs ys : List α}
    (injective : ∀ a ∈ xs, ∀ b ∈ ys, rank (key a) = rank (key b) → key a = key b)
    (ordered : xs.Pairwise fun a b => rank (key a) ≤ rank (key b))
    (ordered' : ys.Pairwise fun a b => rank (key a) ≤ rank (key b))
    (same : ∀ k, xs.filter (fun a => key a = k) = ys.filter fun a => key a = k) : xs = ys := by
  induction xs generalizing ys with
  | nil => exact (perm_of_filter_eq same).nil_eq
  | cons a rest ih =>
    have perm := perm_of_filter_eq same
    cases ys with
    | nil => exact perm.eq_nil
    | cons b rest' =>
      obtain ⟨first, behind⟩ := List.pairwise_cons.1 ordered
      obtain ⟨first', behind'⟩ := List.pairwise_cons.1 ordered'
      -- Each of the first items is in the other list, at its front or behind its first item.
      have below : rank (key a) ≤ rank (key b) := by
        rcases List.mem_cons.1 (perm.mem_iff.2 List.mem_cons_self) with rfl | later
        · exact Nat.le_refl _
        · exact first b later
      have above : rank (key b) ≤ rank (key a) := by
        rcases List.mem_cons.1 (perm.mem_iff.1 List.mem_cons_self) with rfl | later
        · exact Nat.le_refl _
        · exact first' a later
      have keys : key a = key b :=
        injective a List.mem_cons_self b List.mem_cons_self (Nat.le_antisymm below above)
      obtain rfl : a = b := by
        have heads := same (key b)
        rw [List.filter_cons_of_pos (by simp [keys]), List.filter_cons_of_pos (by simp)] at heads
        exact (List.cons.inj heads).1
      -- Without the common first item the lists still agree on each key.
      refine congrArg (a :: ·) (ih ?_ behind behind' fun k => ?_)
      · exact fun c member d member' =>
          injective c (List.mem_cons_of_mem _ member) d (List.mem_cons_of_mem _ member')
      · have tails := same k
        rw [List.filter_cons, List.filter_cons] at tails
        split at tails
        · exact (List.cons.inj tails).2
        · exact tails

/-- Keys first appear in one order in some sources and in what comes of them, as long as something
comes of each source, and with the key that the source is labelled with. -/
theorem firstAt_flatMap_le_iff {γ : Type} {source : γ → List α} {label : γ → β}
    (nonempty : ∀ c, source c ≠ []) (labelled : ∀ c, ∀ a ∈ source c, key a = label c)
    (sources : List γ) (k l : β) :
    firstAt key (sources.flatMap source) k ≤ firstAt key (sources.flatMap source) l ↔
      firstAt label sources k ≤ firstAt label sources l := by
  induction sources with
  | nil => rfl
  | cons c rest ih =>
    have front : firstAt key ((c :: rest).flatMap source) (label c) = 0 := by
      obtain ⟨a, others, made⟩ := List.exists_cons_of_ne_nil (nonempty c)
      rw [List.flatMap_cons, made, List.cons_append, firstAt_cons_self]
      exact labelled c a (made ▸ List.mem_cons_self)
    have behind {m : β} (different : label c ≠ m) : firstAt key ((c :: rest).flatMap source) m =
        firstAt key (rest.flatMap source) m + (source c).length := by
      rw [List.flatMap_cons, firstAt_append]
      exact fun a member same => different ((labelled c a member).symm.trans same)
    -- The source comes first for its own key; any other key is moved back by what comes of it.
    by_cases here : label c = k
    · subst here
      rw [front, firstAt_cons_self rfl]
      exact iff_of_true (Nat.zero_le _) (Nat.zero_le _)
    · by_cases there : label c = l
      · subst there
        have some := List.length_pos_of_ne_nil (nonempty c)
        rw [front, behind here, firstAt_cons_self rfl, firstAt_cons_of_ne here]
        omega
      · rw [behind here, behind there, firstAt_cons_of_ne here, firstAt_cons_of_ne there,
          Nat.add_le_add_iff_right, Nat.add_le_add_iff_right, ih]

end SpecLink.Grouping
