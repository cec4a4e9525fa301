import Mathlib
import ShapeOutline.Preset
import ShapeOutline.Proofs.Path.Mirror
import ShapeOutline.Proofs.Path.Polygon
import ShapeOutline.Proofs.Path.Turning
import ShapeOutline.Proofs.Preset.ArrowMeasures

/-!
# Slanted bars

The signs of inequality and of multiplication have bars that lie neither along nor across the box. Their
formulas find the corners of such a bar from sines, cosines and hypotenuses. Measured across, each bar is as
thick as its guide asks for, in a box of any proportions.

* `LinesApart`, `linesApart`: how far apart two parallel lines are;
* `IsBar`, `isBar_of_cross`: quadrilaterals with two parallel sides in a given direction;
* `Equation.isBar_slash`, `Equation.notEqualSign_eq_bars`: the sign of inequality;
* `Equation.IsArm`, `Equation.timesSign_eq_cross`: the sign of multiplication;
* `Kind.slanted_bars_thick`: the outlines of the two kinds.
-/

namespace ShapeOutline

/-! ## Lines -/

namespace Point

/-- The scalar product of two displacements, which is nothing when they are perpendicular. -/
noncomputable def dot (p q : Point ℝ) : ℝ := p.x * q.x + p.y * q.y

theorem dot_sq_add_cross_sq (p q : Point ℝ) :
    p.dot q ^ 2 + p.cross q ^ 2 = p.normSquared * q.normSquared := by
  show (p.x * q.x + p.y * q.y) ^ 2 + (p.x * q.y - p.y * q.x) ^ 2
    = (p.x * p.x + p.y * p.y) * (q.x * q.x + q.y * q.y)
  ring

theorem norm_eq_iff {p : Point ℝ} {r : ℝ} (hr : 0 ≤ r) : p.norm = r ↔ p.normSquared = r ^ 2 :=
  Real.sqrt_eq_iff_eq_sq (add_nonneg (mul_self_nonneg _) (mul_self_nonneg _)) hr

end Point

/-- The lines through `p` and `q` along `u` are the distance `r` apart: it is the least distance that any
point of the one has from the points of the other. -/
def LinesApart (p q u : Point ℝ) (r : ℝ) : Prop :=
  ∀ s, IsLeast (Set.range fun t => ((p + u.times s) - (q + u.times t)).norm) r

theorem linesApart {p q u : Point ℝ} {r : ℝ} (hr : 0 ≤ r) (hu : 0 < u.normSquared)
    (hcross : (q - p).cross u ^ 2 = r ^ 2 * u.normSquared) : LinesApart p q u r := by
  -- the square of the distance is that of the part across the lines and that of the part along them
  have hsplit (s t : ℝ) : ((p + u.times s) - (q + u.times t)).normSquared
      = r ^ 2 + ((q - p).dot u + (t - s) * u.normSquared) ^ 2 / u.normSquared := by
    have hsum := (q - p).dot_sq_add_cross_sq u
    rw [hcross] at hsum
    have hexpand : ((p + u.times s) - (q + u.times t)).normSquared
        = (q - p).normSquared + 2 * (t - s) * (q - p).dot u + (t - s) ^ 2 * u.normSquared := by
      show (p.x + u.x * s - (q.x + u.x * t)) * (p.x + u.x * s - (q.x + u.x * t))
          + (p.y + u.y * s - (q.y + u.y * t)) * (p.y + u.y * s - (q.y + u.y * t))
        = (q.x - p.x) * (q.x - p.x) + (q.y - p.y) * (q.y - p.y)
          + 2 * (t - s) * ((q.x - p.x) * u.x + (q.y - p.y) * u.y)
          + (t - s) ^ 2 * (u.x * u.x + u.y * u.y)
      ring
    rw [hexpand]
    field_simp
    linear_combination -hsum
  intro s
  constructor
  · -- the foot of the perpendicular
    refine ⟨s - (q - p).dot u / u.normSquared, (Point.norm_eq_iff hr).mpr ?_⟩
    rw [hsplit]
    field_simp
    ring
  · rintro d ⟨t, rfl⟩
    refine Real.le_sqrt_of_sq_le ?_
    show r ^ 2 ≤ ((p + u.times s) - (q + u.times t)).normSquared
    rw [hsplit]
    exact le_add_of_nonneg_right (by positivity)

/-- The polygon is a quadrilateral. Two opposite sides of it run in the direction `deg`, along lines that are
the distance `r` apart. -/
def IsBar (ps : List (Point ℝ)) (deg r : ℝ) : Prop :=
  ∃ a b c d, ps ~r [a, b, c, d] ∧ (b - a).LiesToward deg ∧ (c - d).LiesToward deg ∧
    LinesApart a d (b - a) r

theorem Point.LiesToward.normSquared_pos {p : Point ℝ} {deg : ℝ} (h : p.LiesToward deg) :
    0 < p.normSquared := by
  obtain ⟨r, hr, rfl⟩ := h
  have hunit := sinCos_sq_add_sq deg
  have hlength : (⟨r * (sinCos deg).2, r * (sinCos deg).1⟩ : Point ℝ).normSquared = r ^ 2 := by
    show r * (sinCos deg).2 * (r * (sinCos deg).2) + r * (sinCos deg).1 * (r * (sinCos deg).1) = r ^ 2
    linear_combination r ^ 2 * hunit
  rw [hlength]
  positivity

/-- A parallelogram is a bar along two of its sides, as thick as its area tells. -/
theorem isBar_of_cross {ps : List (Point ℝ)} {a b c d : Point ℝ} {deg r : ℝ} (hps : ps ~r [a, b, c, d])
    (hpar : c - d = b - a) (hdeg : (b - a).LiesToward deg) (hr : 0 ≤ r)
    (hcross : (d - a).cross (b - a) ^ 2 = r ^ 2 * (b - a).normSquared) : IsBar ps deg r :=
  ⟨a, b, c, d, hps, hdeg, hpar ▸ hdeg, linesApart hr hdeg.normSquared_pos hcross⟩

namespace Preset.Equation

/-! ## The sign of inequality -/

/-- A rectangle is a bar along its width. -/
theorem isBar_rectangle {x₁ y₁ x₂ y₂ t : ℝ} (hx : x₁ < x₂) (ht : 0 ≤ t) (hy : y₂ - y₁ = t) :
    IsBar (rectangle x₁ y₁ x₂ y₂) 0 t := by
  have hpar : (⟨x₂, y₂⟩ - ⟨x₁, y₂⟩ : Point ℝ) = ⟨x₂, y₁⟩ - ⟨x₁, y₁⟩ :=
    congrArg (Point.mk (x₂ - x₁)) (sub_self _ |>.trans (sub_self _).symm)
  refine isBar_of_cross (List.IsRotated.refl _) hpar ⟨x₂ - x₁, sub_pos.mpr hx, ?_⟩ ht ?_
  · obtain ⟨hright, -, -, -⟩ := sinCos_axes
    rw [hright, mul_one, mul_zero, ← sub_self y₁]
    rfl
  · show ((x₁ - x₁) * (y₁ - y₁) - (y₂ - y₁) * (x₂ - x₁)) ^ 2
      = t ^ 2 * ((x₂ - x₁) * (x₂ - x₁) + (y₁ - y₁) * (y₁ - y₁))
    rw [hy]
    ring

/-- A bar across the whole height that leans by `lean` to each side of its middle. The share `half` of the
top that it takes to each side makes it as thick as `t`. -/
theorem isBar_slash {x h lean half t deg : ℝ} (hdeg : (⟨-(2 * lean), h⟩ : Point ℝ).LiesToward deg)
    (ht : 0 ≤ t) (hhalf : half ^ 2 * h ^ 2 = (lean ^ 2 + (h / 2) ^ 2) * t ^ 2) :
    IsBar [⟨x + lean - half, 0⟩, ⟨x + lean + half, 0⟩, ⟨x - lean + half, h⟩, ⟨x - lean - half, h⟩]
      deg t := by
  have hside : (⟨x - lean + half, h⟩ - ⟨x + lean + half, 0⟩ : Point ℝ) = ⟨-(2 * lean), h⟩ := by
    ext
    · show x - lean + half - (x + lean + half) = -(2 * lean)
      ring
    · exact sub_zero h
  have hpar : (⟨x - lean - half, h⟩ - ⟨x + lean - half, 0⟩ : Point ℝ)
      = ⟨x - lean + half, h⟩ - ⟨x + lean + half, 0⟩ := by
    rw [hside]
    ext
    · show x - lean - half - (x + lean - half) = -(2 * lean)
      ring
    · exact sub_zero h
  -- the bar begins with its right edge, which is behind the edge at the top
  refine isBar_of_cross ⟨1, rfl⟩ hpar (hside.symm ▸ hdeg) ht ?_
  rw [hside]
  show ((x + lean - half - (x + lean + half)) * h - (0 - 0) * -(2 * lean)) ^ 2
    = t ^ 2 * (-(2 * lean) * -(2 * lean) + h * h)
  linear_combination 4 * hhalf

variable {f : Frame ℝ}

open Scalar (pin quotient direction)

/-- How far a line of a direction leans over half a height. -/
theorem liesToward_lean {h deg : ℝ} (hh : 0 < h) (hdeg : 0 < (sinCos deg).1) :
    (⟨-(2 * (h / 2 * (sinCos (deg - 90)).1 / (sinCos (deg - 90)).2)), h⟩ : Point ℝ).LiesToward deg := by
  have hturned : sinCos (deg - 90) = (-(sinCos deg).2, (sinCos deg).1) := by
    rw [← neg_sub, sinCos_neg, sinCos_quarter_turn_sub]
  refine ⟨h / (sinCos deg).1, div_pos hh hdeg, ?_⟩
  rw [hturned]
  ext
  · dsimp only
    ring
  · exact (div_mul_cancel₀ h hdeg.ne').symm

theorem halfSpan_pos {length : ℝ} (h : 0 < length) : 0 < halfSpan length := by
  rw [halfSpan, Exact.literal_ofNat 73490, Exact.literal_ofNat 200000]
  positivity

theorem exists_twoBars {names : List String} (h : f.guides.Declares names) (hthickness : "adj1" ∈ names)
    (limit : ℝ) {gap : String} (hgap : gap ∈ names) :
    ∃ g, twoBars f limit gap = .ok (f.ofHeight (pin 0 (f.value "adj1") limit), g) := by
  simp only [twoBars, Frame.adj_eq h hthickness, Frame.adj_eq h hgap, Guided.ok_bind, Exact.literal_zero]
  exact ⟨_, rfl⟩

/-- The share of the top that a slash takes to each side of its middle. -/
theorem half_slash_sq {h : ℝ} (hh : 0 < h) (lean t : ℝ) :
    (Scalar.hypot lean (h / 2) * t / (h / 2) / 2) ^ 2 * h ^ 2 = (lean ^ 2 + (h / 2) ^ 2) * t ^ 2 := by
  have hlength : (Scalar.hypot lean (h / 2) : ℝ) * Scalar.hypot lean (h / 2)
      = lean * lean + h / 2 * (h / 2) :=
    Real.mul_self_sqrt (add_nonneg (mul_self_nonneg _) (mul_self_nonneg _))
  generalize (Scalar.hypot lean (h / 2) : ℝ) = length at hlength ⊢
  have hcancel : (length * t / (h / 2) / 2) ^ 2 * h ^ 2 = (length * length) * t ^ 2 := by
    field_simp
  rw [hcancel, hlength]
  ring

theorem notEqualSign_eq_bars (h : f.guides.Declares ["adj1", "adj2", "adj3"]) (hw : 0 < f.w)
    (hh : 0 < f.h) :
    let t := f.ofHeight (pin 0 (f.value "adj1") 50000)
    ∃ upper lower slash, notEqualSign f = .ok (.cycles [upper, lower, slash]) ∧ IsBar upper 0 t ∧
      IsBar lower 0 t ∧ IsBar slash (pin 70 (f.value "adj2" / 60000) 110) t := by
  intro t
  obtain ⟨hhc, hvc, -, hhd2⟩ := f.halves
  obtain ⟨gap, hbars⟩ := exists_twoBars h (by decide) 50000 (by decide : "adj3" ∈ _)
  have ht : 0 ≤ t := by
    have hshare : Fits (pin 0 (f.value "adj1") 50000) 100000 :=
      (Exact.pin_fits (by norm_num) _).trans (by norm_num)
    show 0 ≤ f.ofHeight _
    rw [Frame.ofHeight_eq]
    exact (Frame.share_fits hshare hh.le).1
  have hwide : f.w / 2 - halfSpan f.w < f.w / 2 + halfSpan f.w := by
    linarith [halfSpan_pos hw]
  obtain ⟨hslash, hslash'⟩ := Exact.pin_mem_Icc (by norm_num : (70 : ℝ) ≤ 110) (f.value "adj2" / 60000)
  have hlean := liesToward_lean hh (sin_pos (by linarith) (by linarith : _ < (180 : ℝ)))
  simp (disch := decide) only [notEqualSign, Exact.literal_zero, Exact.literal_ofNat, hbars,
    Frame.angle_eq h, Guided.ok_bind, hhc, hvc, hhd2, Exact.quotient_eq]
  generalize pin 70 (f.value "adj2" / 60000) 110 = deg at hlean ⊢
  generalize f.h / 2 * (sinCos (deg - 90)).1 / (sinCos (deg - 90)).2 = lean at hlean ⊢
  let half : ℝ := Scalar.hypot lean (f.h / 2) * t / (f.h / 2) / 2
  refine ⟨_, _, _, congrArg Except.ok (Path.drawn_polygons [
    [(f.w / 2 - halfSpan f.w, f.h / 2 - gap - t), (f.w / 2 + halfSpan f.w, f.h / 2 - gap - t),
      (f.w / 2 + halfSpan f.w, f.h / 2 - gap), (f.w / 2 - halfSpan f.w, f.h / 2 - gap)],
    [(f.w / 2 - halfSpan f.w, f.h / 2 + gap), (f.w / 2 + halfSpan f.w, f.h / 2 + gap),
      (f.w / 2 + halfSpan f.w, f.h / 2 + gap + t), (f.w / 2 - halfSpan f.w, f.h / 2 + gap + t)],
    [(f.w / 2 + lean - half, 0), (f.w / 2 + lean + half, 0), (f.w / 2 - lean + half, f.h),
      (f.w / 2 - lean - half, f.h)]]), ?upper, ?lower, ?slash⟩
  case upper => exact isBar_rectangle hwide ht (by ring)
  case lower => exact isBar_rectangle hwide ht (by ring)
  case slash => exact isBar_slash hlean ht (half_slash_sq hh lean t)

/-! ## The sign of multiplication -/

/-- An arm of a cross along the diagonals of a box. It ends squarely, from `a` to `b`, and is as wide as `r`
there. Its sides run along the diagonal to the points `c` and `d` on the centre lines of the box, where they
meet those of the next arms. -/
structure IsArm (w h r : ℝ) (a b c d : Point ℝ) : Prop where
  square : (b - a).dot ⟨w, h⟩ = 0
  width : (b - a).norm = r
  along : (c - b).cross ⟨w, h⟩ = 0
  along' : (d - a).cross ⟨w, h⟩ = 0
  center : c.x = w / 2
  center' : d.y = h / 2
  apart : LinesApart a b ⟨w, h⟩ r

/-- Four arms that are mirror images of each other. -/
noncomputable def crossOf (w h : ℝ) (a b c d : Point ℝ) : List (Point ℝ) :=
  let across := Point.flipped w h true false
  let down := Point.flipped w h false true
  let opposite := Point.flipped w h true true
  [a, b, c, across b, across a, across d, opposite a, opposite b, down c, down b, down a, d]

/-- An arm around a point of the diagonal. -/
theorem isArm_of_direction {w h t deg : ℝ} (hw : 0 < w) (hh : 0 < h) (ht : 0 ≤ t)
    (hdeg : (⟨w, h⟩ : Point ℝ).LiesToward deg) (x y : ℝ) :
    let dx := (sinCos deg).1 * t / 2
    let dy := (sinCos deg).2 * t / 2
    IsArm w h t ⟨x - dx, y + dy⟩ ⟨x + dx, y - dy⟩
      ⟨w / 2, (w / 2 - (x + dx)) * h / w + (y - dy)⟩
      ⟨x - dx + (h / 2 - (y + dy)) * w / h, h / 2⟩ := by
  intro dx dy
  have hunit := sinCos_sq_add_sq deg
  have hpos := hdeg.normSquared_pos
  obtain ⟨r, -, hp⟩ := hdeg
  rw [Point.mk.injEq] at hp
  obtain ⟨hwide, hhigh⟩ := hp
  have hside : (⟨x + dx, y - dy⟩ - ⟨x - dx, y + dy⟩ : Point ℝ)
      = ⟨(sinCos deg).1 * t, -((sinCos deg).2 * t)⟩ := by
    ext
    · show x + dx - (x - dx) = _
      ring
    · show y - dy - (y + dy) = _
      ring
  have hsquare : (⟨(sinCos deg).1 * t, -((sinCos deg).2 * t)⟩ : Point ℝ).dot ⟨w, h⟩ = 0 := by
    show (sinCos deg).1 * t * w + -((sinCos deg).2 * t) * h = 0
    linear_combination (sinCos deg).1 * t * hwide - (sinCos deg).2 * t * hhigh
  have hwidth : (⟨(sinCos deg).1 * t, -((sinCos deg).2 * t)⟩ : Point ℝ).normSquared = t ^ 2 := by
    show (sinCos deg).1 * t * ((sinCos deg).1 * t) + -((sinCos deg).2 * t) * -((sinCos deg).2 * t) = t ^ 2
    linear_combination t ^ 2 * hunit
  constructor
  case square => rw [hside, hsquare]
  case width => rw [hside, Point.norm_eq_iff ht, hwidth]
  case along =>
    show (w / 2 - (x + dx)) * h - ((w / 2 - (x + dx)) * h / w + (y - dy) - (y - dy)) * w = 0
    rw [add_sub_cancel_right, div_mul_cancel₀ _ hw.ne', sub_self]
  case along' =>
    show (x - dx + (h / 2 - (y + dy)) * w / h - (x - dx)) * h - (h / 2 - (y + dy)) * w = 0
    rw [add_sub_cancel_left, div_mul_cancel₀ _ hh.ne', sub_self]
  case center => rfl
  case center' => rfl
  case apart =>
    refine linesApart ht hpos ?_
    -- perpendicular displacements span the product of their lengths
    have hspan := Point.dot_sq_add_cross_sq ⟨(sinCos deg).1 * t, -((sinCos deg).2 * t)⟩ ⟨w, h⟩
    rwa [hsquare, hwidth, zero_pow two_ne_zero, zero_add, ← hside] at hspan

theorem timesSign_eq_cross (h : f.guides.Declares ["adj1"]) (hw : 0 < f.w) (hh : 0 < f.h) :
    ∃ a b c d, timesSign f = .ok (.cycles [crossOf f.w f.h a b c d]) ∧
      IsArm f.w f.h (f.ofShort (pin 0 (f.value "adj1") 51965)) a b c d := by
  obtain ⟨hhc, hvc, -, -⟩ := f.halves
  obtain ⟨ht, -⟩ := Frame.ofShort_fits (Frame.ss_nonneg hw.le hh.le)
    (Exact.pin_fits (by norm_num : (0 : ℝ) ≤ 51965) (f.value "adj1"))
  have hdeg := Point.liesToward_direction fun hzero : (⟨f.w, f.h⟩ : ℂ) = 0 =>
    hw.ne' (congrArg Complex.re hzero)
  simp (disch := decide) only [timesSign, Frame.shortShare_eq h, Exact.literal_zero, Exact.literal_ofNat,
    Guided.ok_bind, hhc, hvc, Exact.quotient_eq, sub_sub]
  generalize f.ofShort (pin 0 (f.value "adj1") 51965) = t at ht ⊢
  generalize direction f.w f.h = deg at hdeg ⊢
  -- the middle of the end of the arm, wherever it is on the diagonal
  generalize (sinCos deg).2 * _ / 2 = x
  generalize (sinCos deg).1 * (Scalar.hypot f.w f.h - _) / 2 = y
  exact ⟨_, _, _, _, congrArg Except.ok (Path.polygon_eq_cycles _), isArm_of_direction hw hh ht hdeg x y⟩

end Preset.Equation

/-! ## The kinds -/

namespace Kind

open Preset.Equation
open Scalar (pin)

/-- The signs with slanted bars. -/
inductive HasSlantedBars : Kind → Prop
  | mathNotEqual : HasSlantedBars .mathNotEqual
  | mathMultiply : HasSlantedBars .mathMultiply

/-- What the outline of such a sign is: two horizontal bars and a slash that are equally thick, or a cross
whose arms are as wide as the guide says. -/
def KeepsThickness (f : Frame ℝ) (p : Path ℝ) : Kind → Prop
  | mathNotEqual =>
    let t := f.ofHeight (pin 0 (f.value "adj1") 50000)
    ∃ upper lower slash, p = .cycles [upper, lower, slash] ∧ IsBar upper 0 t ∧ IsBar lower 0 t ∧
      IsBar slash (pin 70 (f.value "adj2" / 60000) 110) t
  | mathMultiply =>
    ∃ a b c d, p = .cycles [crossOf f.w f.h a b c d] ∧
      IsArm f.w f.h (f.ofShort (pin 0 (f.value "adj1") 51965)) a b c d
  | _ => False

/-- Signs of inequality and of multiplication in a box with an extent. Whatever the guides say and whatever
the proportions of the box are, their bars are as thick as the first guide asks for. -/
theorem slanted_bars_thick {k : Kind} (hk : k.HasSlantedBars) {w h : ℝ} (hw : 0 < w) (hh : 0 < h)
    {guides : GuideSet ℝ}
    (hguides : guides.Declares ((k.guides : List (GuideDecl ℝ)).map GuideDecl.name)) :
    ∃ p, k.outline w h guides = .ok p ∧ k.KeepsThickness ⟨w, h, guides⟩ p := by
  cases hk with
  | mathNotEqual =>
    obtain ⟨upper, lower, slash, houtline, hbars⟩ :=
      notEqualSign_eq_bars (f := ⟨w, h, guides⟩) hguides hw hh
    exact ⟨_, houtline, upper, lower, slash, rfl, hbars⟩
  | mathMultiply =>
    obtain ⟨a, b, c, d, houtline, harm⟩ := timesSign_eq_cross (f := ⟨w, h, guides⟩) hguides hw hh
    exact ⟨_, houtline, a, b, c, d, rfl, harm⟩

/-- A sign of inequality of 20 by 10 whose slash is asked to be horizontal. It is 2.5 thick and leans as far
as it may. -/
theorem slanted_bars_thick_flat :
    let guides : GuideSet ℝ := ⟨⟨1⟩, [("adj1", 25000), ("adj2", 0), ("adj3", 10000)]⟩
    mathNotEqual.HasSlantedBars ∧ (0 : ℝ) < 20 ∧ (0 : ℝ) < 10 ∧
      guides.Declares ((mathNotEqual.guides : List (GuideDecl ℝ)).map GuideDecl.name) ∧
      ∃ upper lower slash, mathNotEqual.outline 20 10 guides = .ok (.cycles [upper, lower, slash]) ∧
        IsBar upper 0 (5 / 2) ∧ IsBar lower 0 (5 / 2) ∧ IsBar slash 70 (5 / 2) := by
  intro guides
  let f : Frame ℝ := ⟨20, 10, guides⟩
  have hw : (0 : ℝ) < 20 := by norm_num
  have hh : (0 : ℝ) < 10 := by norm_num
  have hguides : guides.Declares ((mathNotEqual.guides : List (GuideDecl ℝ)).map GuideDecl.name) :=
    List.forall_mem_cons.mpr
      ⟨⟨_, rfl⟩, List.forall_mem_cons.mpr ⟨⟨_, rfl⟩, List.forall_mem_singleton.mpr ⟨_, rfl⟩⟩⟩
  have hthickness : f.ofHeight (pin 0 (f.value "adj1") 50000) = 5 / 2 := by
    have hvalue : f.value "adj1" = 25000 := div_one _
    rw [hvalue, Frame.ofHeight, Exact.literal_ofNat 100000, pin]
    norm_num [f]
  have hslash : pin 70 (f.value "adj2" / 60000) 110 = (70 : ℝ) := by
    have hvalue : f.value "adj2" = 0 := div_one _
    rw [hvalue, pin]
    norm_num
  obtain ⟨p, houtline, upper, lower, slash, rfl, hupper, hlower, hslanted⟩ :=
    slanted_bars_thick .mathNotEqual hw hh hguides
  rw [hthickness] at hupper hlower
  rw [hthickness, hslash] at hslanted
  exact ⟨.mathNotEqual, hw, hh, hguides, upper, lower, slash, houtline, hupper, hlower, hslanted⟩

end Kind

end ShapeOutline
