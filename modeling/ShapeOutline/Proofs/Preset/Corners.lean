import Mathlib
import ShapeOutline.Proofs.Path.Subpaths
import ShapeOutline.Proofs.Preset.Figures
import ShapeOutline.Proofs.Preset.Wedge

/-!
# The corners of a rectangle

A rounded corner is an arc, which ends where its ellipse does, and a cut corner is a line to a point that is
named. Both begin and end as far from the corner as the corner is large, on the two sides that meet there. So
the vertices of a rectangle are known from the sizes of its corners.

* `Corner.Restyled`, `Corner.Emptied`, `Corners.Related`: corners that are exchanged for other ones;
* `Corner.stations_turn`: where the pen stops at a corner, for every way in which it turns;
* `cornered_vertices`: the vertices of a rectangle;
* `Corners.Fit`, `holds_of_fit`: corners that leave each other room meet the sides of the box;
* `cornered_restyled`: what changes when corners are exchanged, and what does not.
-/

namespace ShapeOutline.Preset.Rectangle

/-! ## Exchanging corners -/

namespace Corner

/-- The corner is the same, or is cut instead of rounded, or is rounded instead of cut. -/
inductive Restyled : Corner ℝ → Corner ℝ → Prop
  | same (c : Corner ℝ) : Restyled c c
  | cut (d : ℝ) : Restyled (round d) (snip d)
  | rounded (d : ℝ) : Restyled (snip d) (round d)

/-- The corner is the same, or is square instead of having no extent. -/
inductive Emptied : Corner ℝ → Corner ℝ → Prop
  | same (c : Corner ℝ) : Emptied c c
  | round {d : ℝ} (hd : d ≤ 0) : Emptied (round d) square
  | snip {d : ℝ} (hd : d ≤ 0) : Emptied (snip d) square

@[simp] theorem size_square : (square : Corner ℝ).size = 0 := Exact.literal_zero

@[simp] theorem size_round (d : ℝ) : (round d).size = max d 0 := by
  rw [← Exact.literal_zero]
  rfl

@[simp] theorem size_snip (d : ℝ) : (snip d).size = max d 0 := size_round d

theorem size_nonneg (c : Corner ℝ) : 0 ≤ c.size := by
  cases c with
  | square => exact size_square.ge
  | round d => exact (le_max_right d 0).trans_eq (size_round d).symm
  | snip d => exact (le_max_right d 0).trans_eq (size_snip d).symm

variable {c c' : Corner ℝ}

theorem Restyled.size_eq (h : c.Restyled c') : c'.size = c.size := by
  cases h <;> rfl

theorem Emptied.size_eq (h : c.Emptied c') : c'.size = c.size := by
  cases h with
  | same => rfl
  | round hd => rw [size_square, size_round, max_eq_right hd]
  | snip hd => rw [size_square, size_snip, max_eq_right hd]

/-- A corner without an extent turns at once. -/
theorem turn_of_size_eq_zero (h : c.size = 0) (start x y : ℝ) : c.turn start x y = [] := by
  cases c with
  | square => rfl
  | round d =>
    rw [size_round, max_eq_right_iff, ← Exact.literal_zero] at h
    exact if_neg h.not_gt
  | snip d =>
    rw [size_snip, max_eq_right_iff, ← Exact.literal_zero] at h
    exact if_neg h.not_gt

/-- A corner with an extent turns along a quarter circle or along a line. -/
theorem turn_of_size_pos (h : 0 < c.size) (start x y : ℝ) :
    c.turn start x y = [.arcTo c.size c.size start 90] ∨ c.turn start x y = [.lineTo x y] := by
  cases c with
  | square => exact absurd h size_square.not_gt
  | round d =>
    rw [size_round, lt_max_iff, or_iff_left (lt_irrefl 0)] at h
    left
    rw [size_round, max_eq_left h.le]
    rw [← Exact.literal_zero] at h
    exact if_pos h
  | snip d =>
    rw [size_snip, lt_max_iff, or_iff_left (lt_irrefl 0), ← Exact.literal_zero] at h
    exact .inr (if_pos h)

theorem Emptied.turn_eq (h : c.Emptied c') (start x y : ℝ) :
    c'.turn start x y = c.turn start x y := by
  have hsize := h.size_eq
  cases h with
  | same => rfl
  | round hd => rw [turn_of_size_eq_zero size_square, turn_of_size_eq_zero (hsize ▸ size_square)]
  | snip hd => rw [turn_of_size_eq_zero size_square, turn_of_size_eq_zero (hsize ▸ size_square)]

/-- The point at which the corner meets the side behind it, when it has an extent. -/
noncomputable def behind (c : Corner ℝ) (q : Point ℝ) : List (Point ℝ) := if 0 < c.size then [q] else []

theorem forall_mem_behind {P : Point ℝ → Prop} {q : Point ℝ} (hq : P q) : ∀ v ∈ c.behind q, P v := by
  unfold behind
  split
  · exact List.forall_mem_singleton.mpr hq
  · exact List.forall_mem_nil P

/-- However a corner turns, the pen stops at the side behind it. -/
theorem stations_turn {p q : Point ℝ} {start : ℝ} (hq : arcTarget p c.size c.size start 90 = q)
    (is : List (Instruction ℝ)) :
    Pen.stations p (c.turn start q.x q.y ++ is) = (Pen.stations q is).map (c.behind q ++ ·) := by
  rcases c.size_nonneg.eq_or_lt with hzero | hpos
  · -- the corner takes nothing of the sides, which meet where the pen is
    have hsize : ¬0 < c.size := hzero.not_lt
    rw [arcTarget_of_not_pos fun hradii => hsize hradii.1] at hq
    rw [turn_of_size_eq_zero hzero.symm, behind, if_neg hsize, hq]
    exact Option.map_id'.symm
  · rw [behind, if_pos hpos]
    rcases turn_of_size_pos hpos start q.x q.y with harc | hline
    · rw [harc, List.singleton_append, Pen.stations_arcTo, hq]
      rfl
    · rw [hline]
      rfl

end Corner

/-! ## The vertices of a rectangle -/

variable (w h : ℝ) (c : Corners ℝ)

/-- The sides of a rectangle, each with the corner in front of it. -/
noncomputable def sides : List (Instruction ℝ) :=
  c.topLeft.turn 180 c.topLeft.size 0 ++
    .lineTo (w - c.topRight.size) 0 :: (c.topRight.turn 270 w c.topRight.size ++
      .lineTo w (h - c.bottomRight.size) :: (c.bottomRight.turn 0 (w - c.bottomRight.size) h ++
        .lineTo c.bottomLeft.size h :: c.bottomLeft.turn 90 0 (h - c.bottomLeft.size)))

theorem cornered_eq :
    cornered w h c = .drawn (.moveTo 0 c.topLeft.size :: sides w h c ++ [.close]) := by
  unfold cornered sides
  simp only [Exact.literal_ofNat, Exact.literal_zero, List.append_assoc, List.cons_append]

/-- The points at which the corners of a rectangle meet its sides, in the order in which they are drawn. -/
theorem cornered_vertices :
    (cornered w h c).vertices
      = ⟨0, c.topLeft.size⟩ :: (c.topLeft.behind ⟨c.topLeft.size, 0⟩ ++
          ⟨w - c.topRight.size, 0⟩ :: (c.topRight.behind ⟨w, c.topRight.size⟩ ++
            ⟨w, h - c.bottomRight.size⟩ :: (c.bottomRight.behind ⟨w - c.bottomRight.size, h⟩ ++
              ⟨c.bottomLeft.size, h⟩ :: c.bottomLeft.behind ⟨0, h - c.bottomLeft.size⟩))) := by
  rw [cornered_eq]
  refine Pen.vertices_draw_figure Pen.plain_scale _ _ ?_
  -- each arc leads from the one side to the other
  have htopLeft := (arcTarget_circle_forth c.topLeft.size_nonneg).2.2.1 ⟨0, c.topLeft.size⟩
  have htopRight := (arcTarget_circle_forth c.topRight.size_nonneg).2.2.2 ⟨w - c.topRight.size, 0⟩
  have hbottomRight := (arcTarget_circle_forth c.bottomRight.size_nonneg).1 ⟨w, h - c.bottomRight.size⟩
  have hbottomLeft := (arcTarget_circle_forth c.bottomLeft.size_nonneg).2.1 ⟨c.bottomLeft.size, h⟩
  simp only [zero_add, sub_self, sub_add_cancel] at htopLeft htopRight hbottomRight hbottomLeft
  have hlast := Corner.stations_turn hbottomLeft []
  rw [List.append_nil, Pen.stations_nil, Option.map_some, List.append_nil] at hlast
  rw [sides, Corner.stations_turn htopLeft, Pen.stations_lineTo, Corner.stations_turn htopRight,
    Pen.stations_lineTo, Corner.stations_turn hbottomRight, Pen.stations_lineTo, hlast]
  simp only [Option.map_some]

/-! ## Corners that are exchanged -/

/-- Each corner is related to the one in its place. -/
structure Corners.Related (R : Corner ℝ → Corner ℝ → Prop) (c c' : Corners ℝ) : Prop where
  topLeft : R c.topLeft c'.topLeft
  topRight : R c.topRight c'.topRight
  bottomRight : R c.bottomRight c'.bottomRight
  bottomLeft : R c.bottomLeft c'.bottomLeft

/-- The two corners of each side have room on it. -/
structure Corners.Fit (w h : ℝ) (c : Corners ℝ) : Prop where
  top : c.topLeft.size + c.topRight.size ≤ w
  right : c.topRight.size + c.bottomRight.size ≤ h
  bottom : c.bottomLeft.size + c.bottomRight.size ≤ w
  left : c.topLeft.size + c.bottomLeft.size ≤ h

variable {c c' : Corners ℝ}

/-- The vertices depend on nothing but the sizes of the corners. -/
theorem vertices_of_restyled (hc : c.Related Corner.Restyled c') :
    (cornered w h c').vertices = (cornered w h c).vertices := by
  obtain ⟨htopLeft, htopRight, hbottomRight, hbottomLeft⟩ := hc
  simp only [cornered_vertices, Corner.behind, htopLeft.size_eq, htopRight.size_eq, hbottomRight.size_eq,
    hbottomLeft.size_eq]

theorem cornered_of_emptied (hc : c.Related Corner.Emptied c') :
    cornered w h c' = cornered w h c := by
  obtain ⟨htopLeft, htopRight, hbottomRight, hbottomLeft⟩ := hc
  simp only [cornered_eq, sides, htopLeft.size_eq, htopRight.size_eq, hbottomRight.size_eq,
    hbottomLeft.size_eq, htopLeft.turn_eq, htopRight.turn_eq, hbottomRight.turn_eq, hbottomLeft.turn_eq]

variable {w h}

/-- Two corners with room on a side end and begin within it. -/
theorem fits_of_add_le {r s x : ℝ} (hr : 0 ≤ r) (hs : 0 ≤ s) (hroom : r + s ≤ x) :
    Fits r x ∧ Fits (x - s) x := by
  have hrest : Fits s x := ⟨hs, by linarith⟩
  exact ⟨⟨hr, by linarith⟩, hrest.rest⟩

/-- The vertices of a rectangle whose corners have room lie on the sides of its box. -/
theorem holds_of_fit (hfit : c.Fit w h) :
    ∀ v ∈ (cornered w h c).vertices, ∃ s : Side, s.Holds w h (v.x, v.y) := by
  obtain ⟨htl, htr⟩ := fits_of_add_le c.topLeft.size_nonneg c.topRight.size_nonneg hfit.top
  obtain ⟨hrt, hrb⟩ := fits_of_add_le c.topRight.size_nonneg c.bottomRight.size_nonneg hfit.right
  obtain ⟨hbl, hbr⟩ := fits_of_add_le c.bottomLeft.size_nonneg c.bottomRight.size_nonneg hfit.bottom
  obtain ⟨hlt, hlb⟩ := fits_of_add_le c.topLeft.size_nonneg c.bottomLeft.size_nonneg hfit.left
  rw [cornered_vertices]
  simp only [List.forall_mem_cons, List.forall_mem_append]
  -- at each corner, where the side in front ends and where the one behind begins
  refine ⟨⟨.left, rfl, hlt⟩, ?topLeft, ⟨.top, rfl, htr⟩, ?topRight, ⟨.right, rfl, hrb⟩, ?bottomRight,
    ⟨.bottom, rfl, hbl⟩, ?bottomLeft⟩
  case topLeft => exact Corner.forall_mem_behind ⟨.top, rfl, htl⟩
  case topRight => exact Corner.forall_mem_behind ⟨.right, rfl, hrt⟩
  case bottomRight => exact Corner.forall_mem_behind ⟨.bottom, rfl, hbr⟩
  case bottomLeft => exact Corner.forall_mem_behind ⟨.left, rfl, hlb⟩

/-- A rectangle is one closed subpath. Its vertices stay where they are when rounded corners are cut instead
and cut ones rounded, and nothing changes when corners without an extent become square. When the corners of
each side have room on it, all vertices lie on the sides of the box. -/
theorem cornered_restyled (w h : ℝ) (c : Corners ℝ) :
    (∃ q drawn, (cornered w h c).commands = .moveTo q :: drawn ++ [.close] ∧
      ∀ d ∈ drawn, d.gesture = .draw) ∧
    (∀ c', c.Related Corner.Restyled c' →
      (cornered w h c').vertices = (cornered w h c).vertices) ∧
    (∀ c', c.Related Corner.Emptied c' → cornered w h c' = cornered w h c) ∧
    (c.Fit w h → ∀ v ∈ (cornered w h c).vertices, ∃ s : Side, s.Holds w h (v.x, v.y)) := by
  refine ⟨?_, fun c' => vertices_of_restyled w h, fun c' => cornered_of_emptied w h, holds_of_fit⟩
  exact Path.commands_of_sketch_closed (cornered_drawable w h c).sketch_eq

/-- A rectangle of 20 by 10 whose corners take up the left side: one is rounded, one is cut, and one has no
extent. -/
theorem cornered_restyled_mixed :
    let c : Corners ℝ := ⟨.round 8, .snip 3, .round (-1), .round 2⟩
    let restyled : Corners ℝ := ⟨.snip 8, .round 3, .round (-1), .round 2⟩
    let emptied : Corners ℝ := ⟨.round 8, .snip 3, .square, .round 2⟩
    (∃ q drawn, (cornered 20 10 c).commands = .moveTo q :: drawn ++ [.close] ∧
      ∀ d ∈ drawn, d.gesture = .draw) ∧
    c.Related Corner.Restyled restyled ∧
    (cornered 20 10 restyled).vertices = (cornered 20 10 c).vertices ∧
    c.Related Corner.Emptied emptied ∧ cornered 20 10 emptied = cornered 20 10 c ∧
    c.Fit 20 10 ∧ ∀ v ∈ (cornered 20 10 c).vertices, ∃ s : Side, s.Holds 20 10 (v.x, v.y) := by
  intro c restyled emptied
  obtain ⟨hfigure, hrestyled, hemptied, hsides⟩ := cornered_restyled 20 10 c
  have hstyle : c.Related Corner.Restyled restyled := ⟨.cut 8, .rounded 3, .same _, .same _⟩
  have hnegative : (-1 : ℝ) ≤ 0 := by norm_num
  have hempty : c.Related Corner.Emptied emptied := ⟨.same _, .same _, .round hnegative, .same _⟩
  have hfit : c.Fit 20 10 := by
    constructor <;> norm_num [c]
  exact ⟨hfigure, hstyle, hrestyled _ hstyle, hempty, hemptied _ hempty, hfit, hsides hfit⟩

end ShapeOutline.Preset.Rectangle
