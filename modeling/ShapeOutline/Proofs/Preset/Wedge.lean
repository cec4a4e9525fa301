import Mathlib
import ShapeOutline.Preset
import ShapeOutline.Proofs.Path.Spans
import ShapeOutline.Proofs.Preset.Bubble

/-!
# The rectangular bubble

The outline of a rectangular bubble goes around its box and makes a detour on every side. On the side that
faces the tip the detour is the wedge, and on the other sides it goes nowhere: it bends to a point of the
side itself.

* `Side.facing`: the side of a box that faces a displacement from its centre;
* `Side.facing_along`: the points within a side are faced by this side;
* `Callout.wedge_bend`: which detour is the wedge;
* `Callout.wedgeRect_outline`: the outline of the bubble.
-/

namespace ShapeOutline

variable {w h dx dy : ℝ}

/-! ## Sides of a box -/

/-- A side of a box. -/
inductive Side
  | top
  | right
  | bottom
  | left
deriving DecidableEq

namespace Side

/-- The sides on the way around the box. -/
def around : List Side := [top, right, bottom, left]

/-- The corner at which a side begins on the way around. -/
def corner (w h : ℝ) : Side → ℝ × ℝ
  | top => (0, 0)
  | right => (w, 0)
  | bottom => (w, h)
  | left => (0, h)

/-- The point of a side that is as far from the left as `x`, or as far from the top as `y`. -/
def along (w h x y : ℝ) : Side → ℝ × ℝ
  | top => (x, 0)
  | right => (w, y)
  | bottom => (x, h)
  | left => (0, y)

/-- The point lies on a side, between its corners. -/
def Holds (w h : ℝ) (p : ℝ × ℝ) : Side → Prop
  | top => p.2 = 0 ∧ Fits p.1 w
  | right => p.1 = w ∧ Fits p.2 h
  | bottom => p.2 = h ∧ Fits p.1 w
  | left => p.1 = 0 ∧ Fits p.2 h

/-- A point of a side is in the half of it to which a displacement from the centre leads: the right or the
lower one when the displacement goes there, and else the left or the upper one. -/
def InHalfToward (w h dx dy : ℝ) (p : ℝ × ℝ) : Side → Prop
  | top | bottom => if 0 < dx then w / 2 < p.1 else p.1 < w / 2
  | right | left => if 0 < dy then h / 2 < p.2 else p.2 < h / 2

/-- The side of a box that a displacement from its centre leads to, by the larger share of the box. -/
noncomputable def facing (w h dx dy : ℝ) : Side :=
  if |dx| / w > |dy| / h ∧ 0 < dx then right
  else if |dx| / w > |dy| / h ∧ dx < 0 then left
  else if |dx| / w ≤ |dy| / h ∧ 0 < dy then bottom
  else top

theorem holds_along {x y : ℝ} (hx : Fits x w) (hy : Fits y h) (s : Side) :
    s.Holds w h (s.along w h x y) := by
  cases s with
  | top => exact ⟨rfl, hx⟩
  | right => exact ⟨rfl, hy⟩
  | bottom => exact ⟨rfl, hx⟩
  | left => exact ⟨rfl, hy⟩

theorem holds_corner (hw : 0 ≤ w) (hh : 0 ≤ h) (s : Side) : s.Holds w h (s.corner w h) := by
  cases s with
  | top => exact ⟨rfl, fits_zero_iff.mpr hw⟩
  | right => exact ⟨rfl, fits_zero_iff.mpr hh⟩
  | bottom => exact ⟨rfl, fits_self_iff.mpr hw⟩
  | left => exact ⟨rfl, fits_self_iff.mpr hh⟩

/-- A displacement with the larger share along the width leads sideways. -/
theorem facing_of_sideways (hh : 0 < h) (hside : |dy| / h < |dx| / w) :
    facing w h dx dy = if 0 < dx then right else left := by
  unfold facing
  by_cases hdx : 0 < dx
  · rw [if_pos ⟨hside, hdx⟩, if_pos hdx]
  · -- a displacement without a width has no share of it
    have hne : dx ≠ 0 := by
      rintro rfl
      rw [abs_zero, zero_div] at hside
      exact hside.not_ge (div_nonneg (abs_nonneg dy) hh.le)
    have hneg : dx < 0 := lt_of_le_of_ne (not_lt.mp hdx) hne
    rw [if_neg fun hright => hdx hright.2, if_pos ⟨hside, hneg⟩, if_neg hdx]

/-- Any other displacement leads up or down. -/
theorem facing_of_not_sideways (hside : ¬|dy| / h < |dx| / w) :
    facing w h dx dy = if 0 < dy then bottom else top := by
  unfold facing
  rw [if_neg fun hright => hside hright.1, if_neg fun hleft => hside hleft.1]
  by_cases hdy : 0 < dy
  · rw [if_pos ⟨not_lt.mp hside, hdy⟩, if_pos hdy]
  · rw [if_neg fun hdown => hdy hdown.2, if_neg hdy]

/-- The way from the centre to a point within a side leads to this side. -/
theorem facing_along {x y : ℝ} (hw : 0 < w) (hh : 0 < h) (hx : |x - w / 2| < w / 2)
    (hy : |y - h / 2| < h / 2) (s : Side) :
    facing w h ((s.along w h x y).1 - w / 2) ((s.along w h x y).2 - h / 2) = s := by
  have hx' : |x - w / 2| / w < 1 / 2 := by
    rw [div_lt_iff₀ hw]
    linarith
  have hy' : |y - h / 2| / h < 1 / 2 := by
    rw [div_lt_iff₀ hh]
    linarith
  -- the other coordinate is half of its side away from the centre
  have hhalf {s : ℝ} (hs : 0 < s) : |s - s / 2| / s = 1 / 2 ∧ |0 - s / 2| / s = 1 / 2 := by
    rw [sub_half, zero_sub, abs_neg, abs_of_pos (half_pos hs)]
    have hshare : s / 2 / s = 1 / 2 := by
      field_simp
    exact ⟨hshare, hshare⟩
  cases s with
  | top =>
    have hflat : ¬|0 - h / 2| / h < |x - w / 2| / w := by
      rw [(hhalf hh).2]
      exact hx'.not_gt
    have hup : ¬0 < 0 - h / 2 := by linarith
    exact (facing_of_not_sideways hflat).trans (if_neg hup)
  | right =>
    have hside : |y - h / 2| / h < |w - w / 2| / w := by rwa [(hhalf hw).1]
    have hright : 0 < w - w / 2 := by linarith
    exact (facing_of_sideways hh hside).trans (if_pos hright)
  | bottom =>
    have hflat : ¬|h - h / 2| / h < |x - w / 2| / w := by
      rw [(hhalf hh).1]
      exact hx'.not_gt
    have hdown : 0 < h - h / 2 := by linarith
    exact (facing_of_not_sideways hflat).trans (if_pos hdown)
  | left =>
    have hside : |y - h / 2| / h < |0 - w / 2| / w := by rwa [(hhalf hw).2]
    have hleft : ¬0 < 0 - w / 2 := by linarith
    exact (facing_of_sideways hh hside).trans (if_neg hleft)

end Side

namespace Preset.Callout

open Side

/-! ## The detours of the outline -/

theorem whenPositive_eq (x y z : ℝ) : whenPositive x y z = if 0 < x then y else z := by
  unfold whenPositive
  rw [Exact.literal_zero]

namespace Wedge

/-- The point to which a side bends. -/
def bend {α : Type} (v : Wedge α) : Side → α × α
  | .top => v.top
  | .right => v.right
  | .bottom => v.bottom
  | .left => v.left

/-- Where the outline leaves a side. The lower and the left side are drawn backwards. -/
def leaves (v : Wedge ℝ) (w h : ℝ) (s : Side) : ℝ × ℝ :=
  match s with
  | .top | .right => s.along w h v.x1 v.y1
  | .bottom | .left => s.along w h v.x2 v.y2

/-- Where it returns to the side. -/
def returns (v : Wedge ℝ) (w h : ℝ) (s : Side) : ℝ × ℝ :=
  match s with
  | .top | .right => s.along w h v.x2 v.y2
  | .bottom | .left => s.along w h v.x1 v.y1

/-- Around a box with sharp corners, there is a detour behind every corner. -/
theorem outline_sharp (v : Wedge ℝ) (w h : ℝ) :
    v.outline w h 0 = .polygon (around.flatMap fun s =>
      [s.corner w h, v.leaves w h s, v.bend s, v.returns w h s]) := by
  have hsharp : decide ((0 : ℝ) < 0) = false := decide_eq_false (lt_irrefl 0)
  unfold outline
  simp only [Exact.literal_zero, hsharp]
  rfl

end Wedge

/-- A tip is to the side of a box that is made square when its share of the width is the larger one. -/
theorem sideways_pos_iff (hw : 0 < w) (hh : 0 < h) :
    0 < |dx * h / w| - |dy| ↔ |dy| / h < |dx| / w := by
  rw [sub_pos, abs_div, abs_mul, abs_of_pos hw, abs_of_pos hh, div_lt_iff₀ hh, div_mul_eq_mul_div]

/-- The two points between which a side is left, in the half of the side to which the tip is displaced. -/
structure Base (s d p q : ℝ) : Prop where
  pos : 0 < p
  lt : p < q
  lt_side : q < s
  half_lt : 0 < d → s / 2 < p
  lt_half : ¬0 < d → q < s / 2

theorem base_whenPositive {s : ℝ} (hs : 0 < s) (d : ℝ) :
    Base s d (s * whenPositive d 7 2 / 12) (s * whenPositive d 10 5 / 12) := by
  rw [whenPositive_eq, whenPositive_eq]
  by_cases hd : 0 < d
  · rw [if_pos hd, if_pos hd]
    constructor <;> intros <;> linarith
  · rw [if_neg hd, if_neg hd]
    constructor <;> intros <;> linarith

namespace Base

variable {s d p q : ℝ}

theorem fits (hb : Base s d p q) : Fits p s ∧ Fits q s :=
  ⟨⟨hb.pos.le, (hb.lt.trans hb.lt_side).le⟩, ⟨(hb.pos.trans hb.lt).le, hb.lt_side.le⟩⟩

theorem abs_sub_half_lt (hb : Base s d p q) : |p - s / 2| < s / 2 := by
  have hlt := hb.lt.trans hb.lt_side
  have hpos := hb.pos
  rw [abs_lt]
  constructor <;> linarith

theorem inHalf (hb : Base s d p q) :
    (if 0 < d then s / 2 < p else p < s / 2) ∧ (if 0 < d then s / 2 < q else q < s / 2) := by
  by_cases hd : 0 < d
  · rw [if_pos hd, if_pos hd]
    exact ⟨hb.half_lt hd, (hb.half_lt hd).trans hb.lt⟩
  · rw [if_neg hd, if_neg hd]
    exact ⟨hb.lt.trans (hb.lt_half hd), hb.lt_half hd⟩

end Base

section

variable {f : Frame ℝ}

/-- The measures of the wedge in a frame. -/
theorem wedge_bases (hw : 0 < f.w) (hh : 0 < f.h) (dx dy : ℝ) :
    Base f.w dx (wedge f dx dy).x1 (wedge f dx dy).x2 ∧
      Base f.h dy (wedge f dx dy).y1 (wedge f dx dy).y2 := by
  have hx := base_whenPositive hw dx
  have hy := base_whenPositive hh dy
  simp only [wedge, Exact.literal_ofNat]
  exact ⟨hx, hy⟩

/-- The side that faces the tip bends to it, and any other side to a point of its own. -/
theorem wedge_bend (hw : 0 < f.w) (hh : 0 < f.h) (dx dy : ℝ) (s : Side) :
    (wedge f dx dy).bend s
      = if s = facing f.w f.h dx dy then (f.w / 2 + dx, f.h / 2 + dy)
        else s.along f.w f.h (wedge f dx dy).x1 (wedge f dx dy).y1 := by
  obtain ⟨hhc, hvc, -, -⟩ := f.halves
  have hside : (0 < Scalar.abs (Scalar.quotient (dx * f.h) f.w) - Scalar.abs dy)
      ↔ |dy| / f.h < |dx| / f.w := by
    rw [Exact.quotient_eq]
    exact sideways_pos_iff hw hh
  -- the table of the formula, one side after the other
  by_cases hsideways : |dy| / f.h < |dx| / f.w
  · rw [facing_of_sideways hh hsideways]
    by_cases hdx : 0 < dx <;> cases s <;>
      simp [wedge, Wedge.bend, along, whenPositive_eq, hside, hsideways, hdx, hhc, hvc,
        Exact.literal_zero]
  · rw [facing_of_not_sideways hsideways]
    by_cases hdy : 0 < dy <;> cases s <;>
      simp [wedge, Wedge.bend, along, whenPositive_eq, hside, hsideways, hdy, hhc, hvc,
        Exact.literal_zero]

/-- Only the side that faces the tip bends to it. -/
theorem wedge_bend_eq_tip_iff (hw : 0 < f.w) (hh : 0 < f.h) (dx dy : ℝ) (s : Side) :
    (wedge f dx dy).bend s = (f.w / 2 + dx, f.h / 2 + dy) ↔ s = facing f.w f.h dx dy := by
  obtain ⟨hx, hy⟩ := wedge_bases hw hh dx dy
  rw [wedge_bend hw hh]
  by_cases hs : s = facing f.w f.h dx dy
  · rw [if_pos hs]
    exact iff_of_true rfl hs
  · rw [if_neg hs]
    refine iff_of_false (fun htip => hs ?_) hs
    -- a tip within a side is faced by this side
    have hfacing := facing_along hw hh hx.abs_sub_half_lt hy.abs_sub_half_lt s
    rw [htip, add_sub_cancel_left, add_sub_cancel_left] at hfacing
    exact hfacing.symm

end

namespace Wedge

variable {v : Wedge ℝ}

/-- The detours begin and end on their sides. -/
theorem holds_ends (hx : Base w dx v.x1 v.x2) (hy : Base h dy v.y1 v.y2) (s : Side) :
    s.Holds w h (v.leaves w h s) ∧ s.Holds w h (v.returns w h s) := by
  have hnear := holds_along hx.fits.1 hy.fits.1
  have hfar := holds_along hx.fits.2 hy.fits.2
  cases s with
  | top => exact ⟨hnear .top, hfar .top⟩
  | right => exact ⟨hnear .right, hfar .right⟩
  | bottom => exact ⟨hfar .bottom, hnear .bottom⟩
  | left => exact ⟨hfar .left, hnear .left⟩

/-- They do so in the half toward the tip. -/
theorem inHalf_ends (hx : Base w dx v.x1 v.x2) (hy : Base h dy v.y1 v.y2) (s : Side) :
    s.InHalfToward w h dx dy (v.leaves w h s) ∧ s.InHalfToward w h dx dy (v.returns w h s) := by
  cases s with
  | top => exact hx.inHalf
  | right => exact hy.inHalf
  | bottom => exact hx.inHalf.symm
  | left => exact hy.inHalf.symm

/-- They begin and end at different points. -/
theorem leaves_ne_returns (hx : Base w dx v.x1 v.x2) (hy : Base h dy v.y1 v.y2) (s : Side) :
    v.leaves w h s ≠ v.returns w h s := by
  cases s with
  | top => exact fun hsame => hx.lt.ne (congrArg Prod.fst hsame)
  | right => exact fun hsame => hy.lt.ne (congrArg Prod.snd hsame)
  | bottom => exact fun hsame => hx.lt.ne' (congrArg Prod.fst hsame)
  | left => exact fun hsame => hy.lt.ne' (congrArg Prod.snd hsame)

end Wedge

/-! ## The outline -/

/-- The outline of the rectangular bubble. It goes around the box, and behind every corner there is a detour
that leaves the side and returns to it in the half toward the tip. Exactly one detour is the wedge: the one on
the side that faces the tip bends to the tip, and every other one to a point of its own side. -/
theorem wedgeRect_outline {a1 a2 : ℝ} (hw : 0 < w) (hh : 0 < h) {guides : GuideSet ℝ}
    (h1 : guides.raw "adj1" = .ok a1) (h2 : guides.raw "adj2" = .ok a2) :
    let dx := w * a1 / 100000
    let dy := h * a2 / 100000
    ∃ leaves bend returns : Side → ℝ × ℝ,
      Kind.wedgeRectCallout.outline w h guides
        = .ok (.polygon (around.flatMap fun s => [s.corner w h, leaves s, bend s, returns s])) ∧
      (∀ s, bend s = (w / 2 + dx, h / 2 + dy) ↔ s = facing w h dx dy) ∧
      (∀ s, s ≠ facing w h dx dy → s.Holds w h (bend s)) ∧
      ∀ s, s.Holds w h (s.corner w h) ∧ s.Holds w h (leaves s) ∧ s.Holds w h (returns s) ∧
        leaves s ≠ returns s ∧
        s.InHalfToward w h dx dy (leaves s) ∧ s.InHalfToward w h dx dy (returns s) := by
  intro dx dy
  let f : Frame ℝ := ⟨w, h, guides⟩
  let v : Wedge ℝ := wedge f dx dy
  obtain ⟨hx, hy⟩ := wedge_bases (f := f) hw hh dx dy
  have houtline : Kind.wedgeRectCallout.outline w h guides = .ok (v.outline w h 0) := by
    show wedgeRect f = _
    rw [wedgeRect, tipOffset_eq (f := f) h1 h2, Guided.ok_bind, Frame.ofWidth, Frame.ofHeight,
      Exact.literal_ofNat 100000, Exact.literal_zero]
    rfl
  rw [v.outline_sharp] at houtline
  refine ⟨v.leaves w h, v.bend, v.returns w h, houtline, wedge_bend_eq_tip_iff hw hh dx dy, ?_, ?_⟩
  · intro s hs
    have hbend : v.bend s = s.along w h v.x1 v.y1 := (wedge_bend hw hh dx dy s).trans (if_neg hs)
    rw [hbend]
    exact holds_along hx.fits.1 hy.fits.1 s
  · intro s
    obtain ⟨hleaves, hreturns⟩ := Wedge.holds_ends hx hy s
    obtain ⟨hleaves', hreturns'⟩ := Wedge.inHalf_ends hx hy s
    exact ⟨holds_corner hw.le hh.le s, hleaves, hreturns, Wedge.leaves_ne_returns hx hy s, hleaves',
      hreturns'⟩

/-- A bubble of 200 by 100 with its tip below it on the left: the lower side bends to the tip. -/
theorem wedgeRect_outline_below :
    let guides : GuideSet ℝ := ⟨⟨1⟩, [("adj1", -20833), ("adj2", 62500)]⟩
    (0 : ℝ) < 200 ∧ (0 : ℝ) < 100 ∧ guides.raw "adj1" = .ok (-20833) ∧
      guides.raw "adj2" = .ok 62500 ∧
      ∃ leaves bend returns : Side → ℝ × ℝ,
        Kind.wedgeRectCallout.outline 200 100 guides
          = .ok (.polygon (around.flatMap fun s => [s.corner 200 100, leaves s, bend s, returns s])) ∧
        (∀ s, bend s = (200 / 2 + 200 * (-20833) / 100000, 100 / 2 + 100 * 62500 / 100000)
          ↔ s = .bottom) ∧
        (leaves .bottom).1 < 200 / 2 ∧ (returns .bottom).1 < 200 / 2 := by
  intro guides
  have h1 : guides.raw "adj1" = .ok (-20833) := congrArg Except.ok (div_one (-20833 : ℝ))
  have h2 : guides.raw "adj2" = .ok 62500 := congrArg Except.ok (div_one (62500 : ℝ))
  have hw : (0 : ℝ) < 200 := by norm_num
  have hh : (0 : ℝ) < 100 := by norm_num
  obtain ⟨leaves, bend, returns, houtline, hbend, -, hsides⟩ := wedgeRect_outline hw hh h1 h2
  have hdx : ¬(0 : ℝ) < 200 * (-20833) / 100000 := by norm_num
  have hdy : (0 : ℝ) < 100 * 62500 / 100000 := by norm_num
  have hflat : ¬|(100 * 62500 / 100000 : ℝ)| / 100 < |(200 * (-20833) / 100000 : ℝ)| / 200 := by
    norm_num [abs_of_neg, abs_of_pos]
  have hfacing : facing 200 100 (200 * (-20833) / 100000) (100 * 62500 / 100000) = .bottom :=
    (facing_of_not_sideways hflat).trans (if_pos hdy)
  rw [hfacing] at hbend
  obtain ⟨-, -, -, -, hleaves, hreturns⟩ := hsides .bottom
  exact ⟨hw, hh, h1, h2, leaves, bend, returns, houtline, hbend, (if_neg hdx).mp hleaves,
    (if_neg hdx).mp hreturns⟩

end Preset.Callout

end ShapeOutline
