import Mathlib

/-!
# Sorting by a key

A sort that compares by a key puts a list into ascending order of the keys, and leaves the elements with one
key as they stand. So an element comes before another one because of its key, or because it stood before it
already.

* `Compares`: comparisons that are those of a key;
* `Compares.ascending_mergeSort`, `Compares.filter_mergeSort`: the keys, and the elements with one key;
* `Compares.mergeSort_pairwise`: why an element comes before another one.
-/

namespace ShapeOutline

/-- Elements are compared as their keys are. -/
def Compares {α κ : Type} [LE κ] (le : α → α → Bool) (key : α → κ) : Prop :=
  ∀ a b, le a b = true ↔ key a ≤ key b

namespace Compares

variable {α κ : Type} [LinearOrder κ] {le : α → α → Bool} {key : α → κ}

theorem trans (h : Compares le key) (a b c : α) (hab : le a b = true) (hbc : le b c = true) :
    le a c = true :=
  (h a c).mpr (((h a b).mp hab).trans ((h b c).mp hbc))

theorem total (h : Compares le key) (a b : α) : (le a b || le b a) = true := by
  rw [Bool.or_eq_true, h, h]
  exact le_total _ _

theorem ascending_mergeSort (h : Compares le key) (l : List α) :
    (l.mergeSort le).Pairwise fun a b => key a ≤ key b :=
  (List.pairwise_mergeSort h.trans h.total l).imp fun {a b} => (h a b).mp

/-- The elements with one key are left as they stand. -/
theorem filter_mergeSort (h : Compares le key) (l : List α) (k : κ) :
    (l.mergeSort le).filter (fun a => key a = k) = l.filter fun a => key a = k := by
  -- they are in order already, and so they are not rearranged
  have hequal : (l.filter fun a => key a = k).Pairwise fun a b => le a b = true := by
    rw [List.pairwise_iff_forall_sublist]
    intro a b hab
    have ha : key a = k := of_decide_eq_true (List.mem_filter.mp (hab.subset (by simp))).2
    have hb : key b = k := of_decide_eq_true (List.mem_filter.mp (hab.subset (by simp))).2
    exact (h a b).mpr (ha.trans hb.symm).le
  have hsublist : (l.filter fun a => key a = k).Sublist (l.mergeSort le) :=
    List.sublist_mergeSort h.trans h.total hequal List.filter_sublist
  have hkey := hsublist.filter fun a => key a = k
  simp only [List.filter_filter, Bool.and_self] at hkey
  exact (hkey.eq_of_length ((List.mergeSort_perm l le).filter _).length_eq.symm).symm

/-- In the sorted list an element comes before another one because of its key or, if the keys are equal,
because it stood before it. -/
theorem mergeSort_pairwise (h : Compares le key) {r : α → α → Prop} {l : List α} (hl : l.Pairwise r) :
    (l.mergeSort le).Pairwise fun a b => key a < key b ∨ key a = key b ∧ r a b := by
  rw [List.pairwise_iff_forall_sublist]
  intro a b hab
  have hle : key a ≤ key b := List.pairwise_iff_forall_sublist.mp (h.ascending_mergeSort l) hab
  rcases hle.lt_or_eq with hlt | heq
  · exact .inl hlt
  · -- two elements with one key stand as they stood in the list
    have hpair : ([a, b].filter fun c => key c = key b).Sublist l := by
      have hkept := hab.filter fun c => key c = key b
      rw [h.filter_mergeSort] at hkept
      exact hkept.trans List.filter_sublist
    rw [List.filter_eq_self.mpr (by simp [heq])] at hpair
    exact .inr ⟨heq, List.pairwise_iff_forall_sublist.mp hl hpair⟩

end Compares

end ShapeOutline
