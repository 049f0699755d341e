import ComplianceScanner.Metrics.Basic
import Mathlib.Algebra.BigOperators.Group.Finset.Basic
import Mathlib.Algebra.GroupWithZero.Nat

/-!
# Counters

A counter is told apart by its label and runs over at `UInt64.size`. What becomes of a whole family is
said by a list of labels: each is counted once for each time that it stands there. As long as no counter
runs over, the sum of the family grows by the length of the list.
-/

namespace ComplianceScanner.CounterFamily

def total (family : CounterFamily) : Nat :=
  (family.toList.map fun (_, count) => count.toNat).sum

/-- From one family to the other just these labels are counted. -/
def Counts (before after : CounterFamily) (labels : List String) : Prop :=
  ∀ label, after.value label = before.value label + .ofNat (labels.count label)

/-- No counter runs over when these labels are counted. -/
def Fits (family : CounterFamily) (labels : List String) : Prop :=
  ∀ label, (family.value label).toNat + labels.count label < UInt64.size

@[simp]
theorem value_empty (label : String) : value ∅ label = 0 := by
  simp [value]

theorem value_add (family : CounterFamily) (label other : String) (count : UInt64) :
    (family.add label count).value other =
      family.value other + if label = other then count else 0 := by
  rw [value, add, Std.ExtTreeMap.getElem?_insert]
  by_cases heq : label = other
  · rw [if_pos (Std.LawfulEqCmp.compare_eq_iff_eq.mpr heq), if_pos heq, heq]
    rfl
  · rw [if_neg (mt Std.LawfulEqCmp.compare_eq_iff_eq.mp heq), if_neg heq, UInt64.add_zero]
    rfl

theorem value_of_mem_toList {family : CounterFamily} {label : String} {count : UInt64}
    (hmem : (label, count) ∈ family.toList) : family.value label = count := by
  rw [value, Std.ExtTreeMap.mem_toList_iff_getElem?_eq_some.mp hmem, Option.getD_some]

theorem mem_keys_of_value_ne_zero {family : CounterFamily} {label : String}
    (hvalue : family.value label ≠ 0) : label ∈ family.keys := by
  rw [Std.ExtTreeMap.mem_keys]
  by_contra hmem
  exact hvalue (by simp [value, Std.ExtTreeMap.getElem?_eq_none hmem])

/-- The sum may be taken over any labels that include all those that were counted. -/
theorem total_eq_sum {family : CounterFamily} {labels : Finset String}
    (hlabels : ∀ label, family.value label ≠ 0 → label ∈ labels) :
    family.total = ∑ label ∈ labels, (family.value label).toNat := by
  have hkeys : family.toList.map (fun (_, count) => count.toNat) =
      family.keys.map fun label => (family.value label).toNat := by
    rw [← Std.ExtTreeMap.map_fst_toList_eq_keys, List.map_map]
    apply List.map_congr_left
    rintro ⟨label, count⟩ hmem
    simp [value_of_mem_toList hmem]
  have hnodup : family.keys.Nodup := Std.ExtTreeMap.nodup_keys
  rw [total, hkeys, ← List.sum_toFinset _ hnodup]
  apply Finset.sum_congr_of_eq_on_inter
  · intro label _ hmem
    have hvalue : family.value label = 0 := by
      by_contra hne
      exact hmem (hlabels label hne)
    simp [hvalue]
  · intro label _ hmem
    have hvalue : family.value label = 0 := by
      by_contra hne
      exact hmem (List.mem_toFinset.mpr (mem_keys_of_value_ne_zero hne))
    simp [hvalue]
  · intro label _ _
    rfl

@[simp]
theorem total_empty : total ∅ = 0 := by
  have hsum : total ∅ = ∑ label ∈ (∅ : Finset String), (value ∅ label).toNat :=
    total_eq_sum (by simp)
  simpa using hsum

theorem fits_empty {labels : List String} (hlength : labels.length < UInt64.size) :
    Fits ∅ labels := by
  intro label
  rw [value_empty]
  calc (0 : UInt64).toNat + labels.count label
    _ ≤ labels.length := by simpa using List.count_le_length
    _ < UInt64.size := hlength

theorem counts_add (family : CounterFamily) (label : String) (count : Nat) :
    family.Counts (family.add label count.toUInt64) (List.replicate count label) := by
  intro other
  rw [value_add, List.count_replicate]
  by_cases heq : label = other <;> simp [heq]

namespace Counts

variable {a b c : CounterFamily} {labels labels' : List String}

theorem refl (a : CounterFamily) : a.Counts a [] := by
  simp [Counts]

theorem trans (h : a.Counts b labels) (h' : b.Counts c labels') :
    a.Counts c (labels ++ labels') := by
  intro label
  rw [h', h, List.count_append, UInt64.ofNat_add, UInt64.add_assoc]

theorem perm (h : a.Counts b labels) (hperm : labels.Perm labels') : a.Counts b labels' := by
  intro label
  rw [h, hperm.count_eq]

theorem toNat_value (h : a.Counts b labels) {label : String}
    (hfits : (a.value label).toNat + labels.count label < UInt64.size) :
    (b.value label).toNat = (a.value label).toNat + labels.count label := by
  have hcount : labels.count label < UInt64.size := by omega
  rw [h, UInt64.toNat_add, UInt64.toNat_ofNat_of_lt' hcount]
  exact Nat.mod_eq_of_lt hfits

/-- Unless a counter runs over, the sum of the counters tells how often something was counted. -/
theorem total_eq (h : a.Counts b labels) (hfits : a.Fits labels) :
    b.total = a.total + labels.length := by
  let all := a.keys.toFinset ∪ labels.toFinset
  have ha : ∀ label, a.value label ≠ 0 → label ∈ all := by
    intro label hvalue
    exact Finset.mem_union_left _ (List.mem_toFinset.mpr (mem_keys_of_value_ne_zero hvalue))
  have hb : ∀ label, b.value label ≠ 0 → label ∈ all := by
    intro label hvalue
    by_contra hmem
    have hzero : a.value label = 0 := by
      by_contra hne
      exact hmem (ha label hne)
    have hnone : labels.count label = 0 := by
      apply List.count_eq_zero_of_not_mem
      intro hlabel
      exact hmem (Finset.mem_union_right _ (List.mem_toFinset.mpr hlabel))
    exact hvalue (by rw [h, hzero, hnone]; rfl)
  have hlength : ∑ label ∈ all, labels.count label = labels.length := by
    rw [← List.sum_toFinset_count_eq_length labels]
    refine (Finset.sum_subset Finset.subset_union_right ?_).symm
    intro label _ hmem
    exact List.count_eq_zero_of_not_mem (mt List.mem_toFinset.mpr hmem)
  calc b.total
    _ = ∑ label ∈ all, (b.value label).toNat := total_eq_sum hb
    _ = ∑ label ∈ all, ((a.value label).toNat + labels.count label) := by
      apply Finset.sum_congr rfl
      intro label _
      exact h.toNat_value (hfits label)
    _ = a.total + labels.length := by rw [Finset.sum_add_distrib, ← total_eq_sum ha, hlength]

end Counts

end ComplianceScanner.CounterFamily
