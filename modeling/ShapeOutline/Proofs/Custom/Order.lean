import Mathlib
import ShapeOutline.Custom
import ShapeOutline.Proofs.Exact
import ShapeOutline.Proofs.Sorting

/-!
# The drawing order of custom paths

The segments of a custom path are drawn by ascending key, those with one key as they stand in the
document. The groups in which the document holds them do not matter, nor does where in the document the
segments with different keys stand: a custom path is drawn by the sequence of segments under each key.

* `CustomEntry.withKey`, `CustomEntry.eq_of_withKey`: ascending lists are known by what stands under each
  of their keys;
* `CustomPath.IsDrawingOrder`: ascending keys, and under each key the order of the document;
* `CustomPath.ordered_isDrawingOrder`, `CustomPath.IsDrawingOrder.eq_ordered`: there is exactly one such
  order;
* `CustomPath.DrawsLike`, `CustomPath.drawsLike_of_ordered`: paths that no drawing tells apart;
* `CustomPath.drawn_by_key`: when paths are drawn alike.
-/

namespace ShapeOutline

variable {α : Type}

/-! ## Entries by their keys -/

namespace CustomEntry

/-- The entries with one key, in the order in which they stand. -/
def withKey (k : ℤ) (es : List (CustomEntry α)) : List (CustomEntry α) :=
  es.filter fun e => e.order = k

/-- The keys of the entries ascend. -/
def Ascending (es : List (CustomEntry α)) : Prop := es.Pairwise fun a b => a.order ≤ b.order

variable {es fs : List (CustomEntry α)} {e f : CustomEntry α}

theorem withKey_cons_self (e : CustomEntry α) (es : List (CustomEntry α)) :
    withKey e.order (e :: es) = e :: withKey e.order es :=
  List.filter_cons_of_pos (decide_eq_true rfl)

theorem mem_withKey {k : ℤ} : e ∈ withKey k es ↔ e ∈ es ∧ e.order = k := by
  rw [withKey, List.mem_filter, decide_eq_true_iff]

/-- Lists with the same entries under each key have the same entries. -/
theorem mem_iff_of_withKey (h : ∀ k, withKey k es = withKey k fs) : e ∈ es ↔ e ∈ fs := by
  have hself (gs : List (CustomEntry α)) : e ∈ gs ↔ e ∈ withKey e.order gs := by
    rw [mem_withKey, and_iff_left rfl]
  rw [hself es, hself fs, h]

/-- The first entry of an ascending list has the least key. -/
theorem Ascending.head_le (h : Ascending (e :: es)) (hf : f ∈ e :: es) : e.order ≤ f.order := by
  rcases List.mem_cons.mp hf with rfl | hf
  · exact le_rfl
  · exact List.rel_of_pairwise_cons h hf

/-- Ascending lists are known by what stands under each of their keys. -/
theorem eq_of_withKey (hes : Ascending es) (hfs : Ascending fs)
    (h : ∀ k, withKey k es = withKey k fs) : es = fs := by
  induction es generalizing fs with
  | nil =>
    cases fs with
    | nil => rfl
    | cons f fs => exact absurd ((mem_iff_of_withKey h).mpr List.mem_cons_self) List.not_mem_nil
  | cons e es ih =>
    cases fs with
    | nil => exact absurd ((mem_iff_of_withKey h).mp List.mem_cons_self) List.not_mem_nil
    | cons f fs =>
      -- both first entries have the least key, under which they stand first
      have hle : e.order ≤ f.order := hes.head_le ((mem_iff_of_withKey h).mpr List.mem_cons_self)
      have hge : f.order ≤ e.order := hfs.head_le ((mem_iff_of_withKey h).mp List.mem_cons_self)
      have hkey : e.order = f.order := le_antisymm hle hge
      have hfirst := h e.order
      rw [withKey_cons_self, hkey, withKey_cons_self] at hfirst
      obtain rfl : e = f := (List.cons.inj hfirst).1
      have hrest (k : ℤ) : withKey k es = withKey k fs := by
        have hk := h k
        unfold withKey at hk ⊢
        rw [List.filter_cons, List.filter_cons] at hk
        split at hk
        · exact (List.cons.inj hk).2
        · exact hk
      rw [ih (List.Pairwise.of_cons hes) (List.Pairwise.of_cons hfs) hrest]

end CustomEntry

open CustomEntry (withKey Ascending)

/-! ## The drawing order -/

namespace CustomPath

/-- The entries of the document by ascending key, those with one key as they stand in the document. -/
structure IsDrawingOrder (p : CustomPath α) (es : List (CustomEntry α)) : Prop where
  perm : es.Perm p.entries
  ascending : Ascending es
  stable : ∀ k, withKey k es = withKey k p.entries

variable (p q : CustomPath α)

theorem ordered_isDrawingOrder : p.IsDrawingOrder p.ordered := by
  have hkeys : Compares (fun a b : CustomEntry α => a.order ≤ b.order) CustomEntry.order :=
    fun _ _ => decide_eq_true_iff
  exact ⟨List.mergeSort_perm _ _, hkeys.ascending_mergeSort p.entries, hkeys.filter_mergeSort p.entries⟩

variable {p q}

/-- There is no other drawing order. -/
theorem IsDrawingOrder.eq_ordered {es : List (CustomEntry α)} (h : p.IsDrawingOrder es) :
    es = p.ordered :=
  CustomEntry.eq_of_withKey h.ascending p.ordered_isDrawingOrder.ascending fun k =>
    (h.stable k).trans (p.ordered_isDrawingOrder.stable k).symm

/-- Two paths have one drawing order when the same entries stand under each key. -/
theorem ordered_eq_iff :
    p.ordered = q.ordered ↔ ∀ k, withKey k p.entries = withKey k q.entries := by
  constructor
  · intro h k
    rw [← p.ordered_isDrawingOrder.stable, h, q.ordered_isDrawingOrder.stable]
  · intro h
    have hstable (k : ℤ) : withKey k p.ordered = withKey k q.ordered := by
      rw [p.ordered_isDrawingOrder.stable, h, q.ordered_isDrawingOrder.stable]
    exact CustomEntry.eq_of_withKey p.ordered_isDrawingOrder.ascending
      q.ordered_isDrawingOrder.ascending hstable

/-- Entries with distinct keys have one drawing order, wherever they stand. -/
theorem ordered_eq_of_perm (hperm : p.entries.Perm q.entries)
    (hdistinct : (p.entries.map CustomEntry.order).Nodup) : p.ordered = q.ordered := by
  have hp := p.ordered_isDrawingOrder
  have hq := q.ordered_isDrawingOrder
  have hordered : p.ordered.Perm q.ordered := hp.perm.trans (hperm.trans hq.perm.symm)
  refine hordered.eq_of_pairwise ?_ hp.ascending hq.ascending
  intro a b ha hb hab hba
  have ha' : a ∈ p.entries := hp.perm.mem_iff.mp ha
  have hb' : b ∈ p.entries := hperm.mem_iff.mpr (hq.perm.mem_iff.mp hb)
  exact List.inj_on_of_nodup_map hdistinct ha' hb' (le_antisymm hab hba)

/-! ## Paths that are drawn alike -/

variable [Scalar α]

/-- The two paths have one drawing order and one outline in every box, whatever other paths stand before
and behind them. -/
def DrawsLike (p q : CustomPath α) : Prop :=
  p.ordered = q.ordered ∧ ∀ (before after : List (CustomPath α)) (box : Extent α),
    customOutline (before ++ p :: after) box = customOutline (before ++ q :: after) box

theorem drawsLike_of_ordered (hextent : p.extent = q.extent) (h : p.ordered = q.ordered) :
    p.DrawsLike q := by
  refine ⟨h, fun before after box => ?_⟩
  have houtline : p.outline box = q.outline box := by
    rw [outline, outline, instructions, instructions, hextent, h]
  rw [customOutline_append, customOutline_append, customOutline_cons, customOutline_cons, houtline]

/-- Custom paths with one extent are drawn alike exactly when the same entries stand under each key in
the order of the document. The drawing order is the one order of the entries with ascending keys that
leaves those with one key as they stand. In particular entries with distinct keys may be shuffled and
regrouped, and empty groups may be put in. -/
theorem drawn_by_key (hextent : p.extent = q.extent) :
    (∀ es, p.IsDrawingOrder es ↔ es = p.ordered) ∧
      ((∀ k, withKey k p.entries = withKey k q.entries) ↔ p.DrawsLike q) ∧
      (p.entries.Perm q.entries → (p.entries.map CustomEntry.order).Nodup → p.DrawsLike q) ∧
      (p.groups.filter (fun g => !g.isEmpty) = q.groups.filter (fun g => !g.isEmpty) →
        p.DrawsLike q) := by
  refine ⟨fun es => ⟨fun h => h.eq_ordered, ?_⟩, ⟨?_, ?_⟩, ?_, ?_⟩
  · rintro rfl
    exact p.ordered_isDrawingOrder
  · intro hkeys
    exact drawsLike_of_ordered hextent (ordered_eq_iff.mpr hkeys)
  · intro h
    exact ordered_eq_iff.mp h.1
  · intro hperm hdistinct
    exact drawsLike_of_ordered hextent (ordered_eq_of_perm hperm hdistinct)
  · intro hgroups
    have hentries : p.entries = q.entries := by
      rw [entries, entries, ← List.flatten_filter_not_isEmpty, hgroups,
        List.flatten_filter_not_isEmpty]
    exact drawsLike_of_ordered hextent (by rw [ordered, ordered, hentries])

/-- A line and a close under one key are drawn behind a move, whether they stand in one group or in
two. -/
theorem drawn_by_key_regrouped :
    let move : CustomEntry ℝ := ⟨-1, .moveTo ⟨0, 0⟩⟩
    let line : CustomEntry ℝ := ⟨7, .lineTo ⟨4, 2⟩⟩
    let close : CustomEntry ℝ := ⟨7, .close⟩
    let p : CustomPath ℝ := ⟨some ⟨4, 2⟩, [[line, move], [close]]⟩
    let q : CustomPath ℝ := ⟨some ⟨4, 2⟩, [[move], [], [line, close]]⟩
    p.extent = q.extent ∧ (∀ k, withKey k p.entries = withKey k q.entries) ∧ p.DrawsLike q := by
  intro move line close p q
  have hkeys : ∀ k, withKey k p.entries = withKey k q.entries := by
    intro k
    have hp : p.entries = [line, move, close] := rfl
    have hq : q.entries = [move, line, close] := rfl
    rw [hp, hq]
    by_cases hmove : move.order = k
    · rw [← hmove]
      rfl
    · simp only [withKey, List.filter_cons, decide_eq_false hmove, Bool.false_eq_true, if_false]
  have hextent : p.extent = q.extent := rfl
  obtain ⟨-, hiff, -, -⟩ := drawn_by_key hextent
  exact ⟨hextent, hkeys, hiff.mp hkeys⟩

end CustomPath

end ShapeOutline
