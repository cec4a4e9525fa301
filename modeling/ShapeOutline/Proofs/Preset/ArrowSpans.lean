import Mathlib
import ShapeOutline.Proofs.Preset.ArrowMeasures
import ShapeOutline.Proofs.Preset.Table

/-!
# Arrows span their boxes

An arrow of which all guides are moved into limits stays in its box whatever its guides say, and it still
reaches all sides of the box. Arrows along the height are arrows along the width with exchanged axes.

* `SpansBox`: in every frame, the formula gives an outline that spans the box of the frame;
* `BlockArrow.Bend`, `BlockArrow.Turn`: arrows that turn once, and that turn round;
* `BlockArrow.right_spansBox`, `ArrowCallout.right_spansBox` and their like: the formulas;
* `Kind.clampedArrow_spans`: the outlines of the kinds.
-/

namespace ShapeOutline

open Scalar (pin)

namespace Preset

variable {f : Frame ℝ}

/-! ## The formulas -/

/-- In every frame that holds the named guides, the formula gives an outline that spans the box of the
frame. -/
def SpansBox (names : List String) (formula : Frame ℝ → Guided (Path ℝ)) : Prop :=
  ∀ f : Frame ℝ, 0 ≤ f.w → 0 ≤ f.h → f.guides.Declares names →
    ∃ p, formula f = .ok p ∧ p.Spans f.w f.h

theorem SpansBox.transposed {names : List String} {formula : Frame ℝ → Guided (Path ℝ)}
    (h : SpansBox names formula) :
    SpansBox names fun f => (formula f.transposed).map Path.transposed := by
  intro f hw hh hf
  obtain ⟨p, hp, hspans⟩ := h f.transposed hh hw hf
  exact ⟨_, congrArg (Except.map Path.transposed) hp, hspans.transposed⟩

namespace BlockArrow

theorem right_spansBox : SpansBox ["adj1", "adj2"] right := by
  intro f hw hh h
  obtain ⟨shaft, head, hmeasures, hshaft, hhead⟩ := shaftAndHead_fits hw hh h hw
  obtain ⟨-, hvc, -, -⟩ := f.halves
  obtain ⟨hy1, hy2⟩ := hshaft.around_center
  have hx1 := hhead.rest
  rw [right, hmeasures, Guided.ok_bind]
  simp only [hvc, Exact.literal_zero]
  refine ⟨_, rfl, ?_⟩
  -- the list of vertices is at hand: all of them fit, and some are on the sides
  constructor <;> simp [hw, hh, hx1, hy1, hy2]

theorem left_spansBox : SpansBox ["adj1", "adj2"] left := by
  intro f hw hh h
  obtain ⟨shaft, head, hmeasures, hshaft, hhead⟩ := shaftAndHead_fits hw hh h hw
  obtain ⟨-, hvc, -, -⟩ := f.halves
  obtain ⟨hy1, hy2⟩ := hshaft.around_center
  rw [left, hmeasures, Guided.ok_bind]
  simp only [hvc, Exact.literal_zero]
  refine ⟨_, rfl, ?_⟩
  constructor <;> simp [hw, hh, hhead, hy1, hy2]

theorem up_spansBox : SpansBox ["adj1", "adj2"] up := left_spansBox.transposed

theorem down_spansBox : SpansBox ["adj1", "adj2"] down := right_spansBox.transposed

theorem notchedRight_spansBox : SpansBox ["adj1", "adj2"] notchedRight := by
  intro f hw hh h
  obtain ⟨shaft, head, hmeasures, hshaft, hhead⟩ := shaftAndHead_fits hw hh h hw
  obtain ⟨-, hvc, -, hhd2⟩ := f.halves
  obtain ⟨hy1, hy2⟩ := hshaft.around_center
  have hx2 := hhead.rest
  -- the notch is as deep as the head is at the width of the shaft
  have hnotch : Fits (shaft * head / (f.h / 2)) head := by
    have hheight : 0 ≤ f.h / 2 := hshaft.1.trans hshaft.2
    refine ⟨div_nonneg (mul_nonneg hshaft.1 hhead.1) hheight, div_le_of_le_mul₀ hheight hhead.1 ?_⟩
    rw [mul_comm head]
    exact mul_le_mul_of_nonneg_right hshaft.2 hhead.1
  rw [notchedRight, hmeasures, Guided.ok_bind]
  simp only [hvc, hhd2, Exact.literal_zero, Exact.quotient_eq]
  refine ⟨_, rfl, ?_⟩
  constructor <;> simp [hw, hh, hx2, hy1, hy2, hnotch.trans hhead.2]

theorem leftRight_spansBox : SpansBox ["adj1", "adj2"] leftRight := by
  intro f hw hh h
  obtain ⟨-, hvc, hwd2, -⟩ := f.halves
  have hlimit : 0 ≤ f.w / 2 := div_nonneg hw zero_le_two
  obtain ⟨shaft, head, hmeasures, hshaft, hhead⟩ := shaftAndHead_fits hw hh h hlimit
  obtain ⟨hy1, hy2⟩ := hshaft.around_center
  have hx2 := hhead.trans (half_le_self hw)
  have hx3 := hx2.rest
  rw [leftRight, hwd2, hmeasures, Guided.ok_bind]
  simp only [hvc, Exact.literal_zero]
  refine ⟨_, rfl, ?_⟩
  constructor <;> simp [hw, hh, hx2, hx3, hy1, hy2]

theorem upDown_spansBox : SpansBox ["adj1", "adj2"] upDown := leftRight_spansBox.transposed

theorem quad_spansBox : SpansBox ["adj1", "adj2", "adj3"] quad := by
  intro f hw hh h
  obtain ⟨hhc, hvc, -, -⟩ := f.halves
  obtain ⟨⟨x1, dx2, dx3⟩, hmeasures, hm⟩ := heads_fit hw hh h fits_half_rest
  obtain ⟨hx1, hy1⟩ := hm.length_fits
  obtain ⟨⟨hhead_x, hshaft_x⟩, ⟨hhead_y, hshaft_y⟩⟩ := hm.half_fits
  simp only [quad, Exact.literal_zero, Exact.literal_ofNat, hhc, hvc, hmeasures, Guided.ok_bind]
  refine ⟨_, rfl, ?_⟩
  constructor <;>
    simp [hw, hh, hx1, hy1, hx1.rest, hy1.rest, hhead_x.around_center, hhead_y.around_center,
      hshaft_x.around_center, hshaft_y.around_center]

theorem leftRightUp_spansBox : SpansBox ["adj1", "adj2", "adj3"] leftRightUp := by
  intro f hw hh h
  obtain ⟨hhc, -, -, -⟩ := f.halves
  obtain ⟨⟨x1, dx2, dx3⟩, hmeasures, hm⟩ := heads_fit hw hh h fits_half_rest
  obtain ⟨hx1, hy1⟩ := hm.length_fits
  obtain ⟨⟨hhead_x, hshaft_x⟩, -⟩ := hm.half_fits
  obtain ⟨hy2, hy3, hy4, hy5⟩ := hm.fits_at_end f.ss_le_h
  simp only [leftRightUp, Exact.literal_zero, Exact.literal_ofNat, hhc, hmeasures, Guided.ok_bind]
  refine ⟨_, rfl, ?_⟩
  constructor <;>
    simp [hw, hh, hx1, hy1, hx1.rest, hhead_x.around_center, hshaft_x.around_center, hy2, hy3, hy4,
      hy5]

theorem leftUp_spansBox : SpansBox ["adj1", "adj2", "adj3"] leftUp := by
  intro f hw hh h
  obtain ⟨⟨x1, dx2, dx3⟩, hmeasures, hm⟩ := heads_fit hw hh h fun _ hwidth => hwidth.rest
  obtain ⟨hx1, hy1⟩ := hm.length_fits
  obtain ⟨hx2, hx3, hx4, hx5⟩ := hm.fits_at_end f.ss_le_w
  obtain ⟨hy2, hy3, hy4, hy5⟩ := hm.fits_at_end f.ss_le_h
  simp only [leftUp, Exact.literal_zero, Exact.literal_ofNat, hmeasures, Guided.ok_bind]
  refine ⟨_, rfl, ?_⟩
  constructor <;> simp [hw, hh, hx1, hy1, hx2, hx3, hx4, hx5, hy2, hy3, hy4, hy5]

/-- The vertices of the two stripes and the arrow. -/
theorem vertices_striped (first second arrow : List (ℝ × ℝ)) :
    (Path.drawn (Instruction.polygon first ++ Instruction.polygon second
        ++ Instruction.polygon arrow)).vertices
      = (first ++ second ++ arrow).map fun q => ⟨q.1, q.2⟩ := by
  have hvertices := Pen.vertices_draw_polygons Pen.plain_scale [first, second, arrow]
  rwa [List.flatMap_cons, List.flatMap_cons, List.flatMap_singleton, List.flatten_cons,
    List.flatten_cons, List.flatten_singleton, ← List.append_assoc, ← List.append_assoc] at hvertices

theorem stripedRight_spansBox : SpansBox ["adj1", "adj2"] stripedRight := by
  intro f hw hh h
  obtain ⟨-, hvc, -, -⟩ := f.halves
  have hlimit : 0 ≤ f.w * 0.84375 := mul_nonneg hw (by norm_num)
  obtain ⟨shaft, head, hmeasures, hshaft, hhead⟩ := shaftAndHead_fits hw hh h hlimit
  have hx5 := (hhead.trans (by linarith : f.w * 0.84375 ≤ f.w)).rest
  obtain ⟨hy1, hy2⟩ := hshaft.around_center
  have hss := Frame.ss_nonneg hw hh
  have hss_w := f.ss_le_w
  have hstripes : Fits (f.ss / 32) f.w ∧ Fits (f.ss / 16) f.w ∧ Fits (f.ss / 8) f.w ∧
      Fits (f.ss * 5 / 32) f.w := by
    refine ⟨⟨?_, ?_⟩, ⟨?_, ?_⟩, ⟨?_, ?_⟩, ⟨?_, ?_⟩⟩ <;> linarith
  rw [stripedRight]
  simp only [hmeasures, hvc, Exact.literal_zero, Exact.literal_ofNat, Guided.ok_bind]
  refine ⟨_, rfl, ?_⟩
  constructor <;> rw [vertices_striped] <;> simp [hw, hh, hx5, hy1, hy2, hstripes]

/-- The inner side of a bend is no farther out than its outer side and the shaft. -/
theorem inside_bend_le {bd th m : ℝ} (hbd : bd ≤ m) (hth : th ≤ m) : th + max (bd - th) 0 ≤ m := by
  have hbend : max (bd - th) 0 ≤ m - th := max_le (sub_le_sub_right hbd th) (sub_nonneg.mpr hth)
  linarith

/-- The measures of an arrow that turns once: the width of its shaft, half the width and the length of its
head, and the radius of the bend on the outside, for which there is room below and behind the head. -/
structure Bend (f : Frame ℝ) where
  th : ℝ
  aw2 : ℝ
  ah : ℝ
  bd : ℝ
  th_fits : Fits th (aw2 * 2)
  aw2_fits : Fits aw2 (f.ss / 2)
  ah_fits : Fits ah (f.ss / 2)
  bd_fits : Fits bd (min (f.w - ah) (f.h - (aw2 - th / 2)))

namespace Bend

/-- What is drawn from the lower left corner, before the close. -/
noncomputable def instructions (m : Bend f) : List (Instruction ℝ) :=
  let dh2 := m.aw2 - m.th / 2
  let bd2 := max (m.bd - m.th) 0
  let x4 := f.w - m.ah
  [.lineTo 0 (dh2 + m.bd), .arcTo m.bd m.bd 180 90, .lineTo x4 dh2, .lineTo x4 0, .lineTo f.w m.aw2,
    .lineTo x4 (dh2 + m.th + dh2), .lineTo x4 (dh2 + m.th), .lineTo (m.th + bd2) (dh2 + m.th),
    .arcTo bd2 bd2 270 (-90), .lineTo m.th f.h]

theorem stations_eq (m : Bend f) :
    let dh2 := m.aw2 - m.th / 2
    let bd2 := max (m.bd - m.th) 0
    let x4 := f.w - m.ah
    Pen.stations ⟨0, f.h⟩ m.instructions
      = some [⟨0, dh2 + m.bd⟩, ⟨m.bd, dh2⟩, ⟨x4, dh2⟩, ⟨x4, 0⟩, ⟨f.w, m.aw2⟩, ⟨x4, dh2 + m.th + dh2⟩,
          ⟨x4, dh2 + m.th⟩, ⟨m.th + bd2, dh2 + m.th⟩, ⟨m.th, dh2 + m.th + bd2⟩, ⟨m.th, f.h⟩] := by
  obtain ⟨hforth, -, -, -⟩ := arcTarget_circle m.bd_fits.1
  obtain ⟨-, -, -, hback⟩ := arcTarget_circle (le_max_right (m.bd - m.th) 0)
  simp [instructions, hforth, hback]

theorem spans (m : Bend f) (hw : 0 ≤ f.w) (hh : 0 ≤ f.h) :
    (Path.drawn (.moveTo 0 f.h :: m.instructions ++ [.close])).Spans f.w f.h := by
  obtain ⟨hth, hth'⟩ := m.th_fits
  obtain ⟨haw2, haw2'⟩ := m.aw2_fits
  obtain ⟨hah, hah'⟩ := m.ah_fits
  obtain ⟨hbd, hroom⟩ := m.bd_fits
  obtain ⟨hroom_x, hroom_y⟩ := le_min_iff.mp hroom
  have hss_w := f.ss_le_w
  have hss_h := f.ss_le_h
  have hbend : 0 ≤ max (m.bd - m.th) 0 := le_max_right _ _
  have hbend_x : m.th + max (m.bd - m.th) 0 ≤ f.w := inside_bend_le (by linarith) (by linarith)
  have hbend_y : m.th + max (m.bd - m.th) 0 ≤ f.h - (m.aw2 - m.th / 2) :=
    inside_bend_le hroom_y (by linarith)
  have hvertices := Pen.vertices_draw_figure Pen.plain_scale 0 f.h m.stations_eq
  -- from here on only the room counts that the inner bend has, and not how it is found
  generalize max (m.bd - m.th) 0 = bd2 at hbend hbend_x hbend_y hvertices
  have hxs : Fits m.bd f.w ∧ Fits (f.w - m.ah) f.w ∧ Fits (m.th + bd2) f.w ∧ Fits m.th f.w := by
    refine ⟨⟨?_, ?_⟩, ⟨?_, ?_⟩, ⟨?_, ?_⟩, ⟨?_, ?_⟩⟩ <;> linarith
  generalize hdh2 : m.aw2 - m.th / 2 = dh2 at hroom_y hbend_y hvertices
  have hys : Fits (dh2 + m.bd) f.h ∧ Fits dh2 f.h ∧ Fits m.aw2 f.h ∧ Fits (dh2 + m.th + dh2) f.h ∧
      Fits (dh2 + m.th) f.h ∧ Fits (dh2 + m.th + bd2) f.h := by
    refine ⟨⟨?_, ?_⟩, ⟨?_, ?_⟩, ⟨?_, ?_⟩, ⟨?_, ?_⟩, ⟨?_, ?_⟩, ⟨?_, ?_⟩⟩ <;> linarith
  constructor <;> rw [Path.drawn, hvertices] <;> simp [hw, hh, hxs, hys]

end Bend

theorem bent_eq (hw : 0 ≤ f.w) (hh : 0 ≤ f.h)
    (h : f.guides.Declares ["adj1", "adj2", "adj3", "adj4"]) :
    ∃ m : Bend f, bent f = .ok (.drawn (.moveTo 0 f.h :: m.instructions ++ [.close])) := by
  simp (disch := decide) only [bent, Frame.adj_eq h, Frame.shortShare_eq h, Guided.ok_bind,
    Exact.literal_zero, Exact.literal_ofNat]
  have hss := Frame.ss_nonneg hw hh
  have hhalf : (0 : ℝ) ≤ 50000 := by norm_num
  have ha2 := Exact.pin_fits hhalf (f.value "adj2")
  have ha3 := Exact.pin_fits hhalf (f.value "adj3")
  generalize pin 0 (f.value "adj2") 50000 = a2 at ha2 ⊢
  generalize pin 0 (f.value "adj3") 50000 = a3 at ha3 ⊢
  have ha1 := Exact.pin_fits (mul_nonneg ha2.1 zero_le_two) (f.value "adj1")
  -- the radius is cut to what the head leaves of the width, and the shaft of the height
  have hth := Frame.shaft_fits hss ha1
  have haw2 := Frame.ofShort_fits hss ha2
  have hah := Frame.ofShort_fits hss ha3
  rw [f.ofShort_half] at haw2 hah
  refine ⟨⟨_, _, _, _, hth, haw2, hah, Frame.ofShort_pin_maxAdj_fits hss (le_min ?_ ?_) _⟩, rfl⟩
  · linarith [hah.2, f.ss_le_w]
  · linarith [haw2.2, hth.1, f.ss_le_h]

theorem bent_spansBox : SpansBox ["adj1", "adj2", "adj3", "adj4"] bent := by
  intro f hw hh h
  obtain ⟨m, houtline⟩ := bent_eq hw hh h
  exact ⟨_, houtline, m.spans hw hh⟩

/-- The measures of an arrow that turns round: the width of its shaft, half the width and the length of its
head, how far down the tip is, and the radius of the bends on the outside, for which there is room above the
head and on half of the way across. -/
structure Turn (f : Frame ℝ) where
  th : ℝ
  aw2 : ℝ
  ah : ℝ
  y5 : ℝ
  bd : ℝ
  th_fits : Fits th (aw2 * 2)
  aw2_fits : Fits aw2 (f.ss / 4)
  ah_nonneg : 0 ≤ ah
  y5_fits : Fits y5 f.h
  above_head : ah + th ≤ y5
  bd_fits : Fits bd (min ((f.w - (aw2 - th / 2)) / 2) (y5 - ah))

namespace Turn

/-- What is drawn from the lower left corner, before the close. -/
noncomputable def instructions (m : Turn f) : List (Instruction ℝ) :=
  let dh2 := m.aw2 - m.th / 2
  let bd2 := max (m.bd - m.th) 0
  let y4 := m.y5 - m.ah
  let x9 := f.w - dh2
  let x8 := f.w - m.aw2
  let x6 := x8 - m.aw2
  let x7 := x6 + dh2
  let x3 := m.th + bd2
  [.lineTo 0 m.bd, .arcTo m.bd m.bd 180 90, .lineTo (x9 - m.bd) 0, .arcTo m.bd m.bd 270 90,
    .lineTo x9 y4, .lineTo f.w y4, .lineTo x8 m.y5, .lineTo x6 y4, .lineTo x7 y4, .lineTo x7 x3,
    .arcTo bd2 bd2 0 (-90), .lineTo x3 m.th, .arcTo bd2 bd2 270 (-90), .lineTo m.th f.h]

theorem stations_eq (m : Turn f) :
    let dh2 := m.aw2 - m.th / 2
    let bd2 := max (m.bd - m.th) 0
    let y4 := m.y5 - m.ah
    let x9 := f.w - dh2
    let x8 := f.w - m.aw2
    let x6 := x8 - m.aw2
    let x7 := x6 + dh2
    let x3 := m.th + bd2
    Pen.stations ⟨0, f.h⟩ m.instructions
      = some [⟨0, m.bd⟩, ⟨m.bd, 0⟩, ⟨x9 - m.bd, 0⟩, ⟨x9, m.bd⟩, ⟨x9, y4⟩, ⟨f.w, y4⟩, ⟨x8, m.y5⟩,
          ⟨x6, y4⟩, ⟨x7, y4⟩, ⟨x7, x3⟩, ⟨x7 - bd2, m.th⟩, ⟨x3, m.th⟩, ⟨m.th, x3⟩, ⟨m.th, f.h⟩] := by
  obtain ⟨hleft, hup, -, -⟩ := arcTarget_circle m.bd_fits.1
  obtain ⟨-, -, hright', hup'⟩ := arcTarget_circle (le_max_right (m.bd - m.th) 0)
  simp [instructions, hleft, hup, hright', hup']

theorem spans (m : Turn f) (hw : 0 ≤ f.w) (hh : 0 ≤ f.h) :
    (Path.drawn (.moveTo 0 f.h :: m.instructions ++ [.close])).Spans f.w f.h := by
  obtain ⟨hth, hth'⟩ := m.th_fits
  obtain ⟨haw2, haw2'⟩ := m.aw2_fits
  have hah := m.ah_nonneg
  have hy5 := m.y5_fits
  have habove := m.above_head
  obtain ⟨hbd, hroom⟩ := m.bd_fits
  obtain ⟨hroom_x, hroom_y⟩ := le_min_iff.mp hroom
  have hss_w := f.ss_le_w
  have hbend : 0 ≤ max (m.bd - m.th) 0 := le_max_right _ _
  have hbend_x : m.th + max (m.bd - m.th) 0 ≤ f.w / 2 := inside_bend_le (by linarith) (by linarith)
  have hbend_y : m.th + max (m.bd - m.th) 0 ≤ m.y5 - m.ah := inside_bend_le hroom_y (by linarith)
  have hvertices := Pen.vertices_draw_figure Pen.plain_scale 0 f.h m.stations_eq
  generalize max (m.bd - m.th) 0 = bd2 at hbend hbend_x hbend_y hvertices
  have hys : Fits m.bd f.h ∧ Fits (m.y5 - m.ah) f.h ∧ Fits (m.th + bd2) f.h ∧ Fits m.th f.h := by
    refine ⟨⟨?_, ?_⟩, ⟨?_, ?_⟩, ⟨?_, ?_⟩, ⟨?_, ?_⟩⟩ <;> linarith [hy5.2]
  generalize hdh2 : m.aw2 - m.th / 2 = dh2 at hroom_x hvertices
  have hxs : Fits m.bd f.w ∧ Fits (f.w - dh2 - m.bd) f.w ∧ Fits (f.w - dh2) f.w ∧
      Fits (f.w - m.aw2) f.w ∧ Fits (f.w - m.aw2 - m.aw2) f.w ∧
      Fits (f.w - m.aw2 - m.aw2 + dh2) f.w ∧ Fits (f.w - m.aw2 - m.aw2 + dh2 - bd2) f.w ∧
      Fits (m.th + bd2) f.w ∧ Fits m.th f.w := by
    refine ⟨⟨?_, ?_⟩, ⟨?_, ?_⟩, ⟨?_, ?_⟩, ⟨?_, ?_⟩, ⟨?_, ?_⟩, ⟨?_, ?_⟩, ⟨?_, ?_⟩, ⟨?_, ?_⟩, ⟨?_, ?_⟩⟩
    all_goals linarith
  constructor <;> rw [Path.drawn, hvertices] <;> simp [hw, hh, hxs, hys, hy5]

end Turn

theorem uTurn_eq (hw : 0 ≤ f.w) (hh : 0 ≤ f.h)
    (h : f.guides.Declares ["adj1", "adj2", "adj3", "adj4", "adj5"]) :
    ∃ m : Turn f, uTurn f = .ok (.drawn (.moveTo 0 f.h :: m.instructions ++ [.close])) := by
  simp (disch := decide) only [uTurn, Frame.adj_eq h, Frame.shortShare_eq h, Guided.ok_bind,
    Exact.literal_zero, Exact.literal_ofNat, Exact.quotient_eq]
  have hss := Frame.ss_nonneg hw hh
  have hquarter : (0 : ℝ) ≤ 25000 := by norm_num
  have ha2 := Exact.pin_fits hquarter (f.value "adj2")
  generalize pin 0 (f.value "adj2") 25000 = a2 at ha2 ⊢
  have ha1 := Exact.pin_fits (mul_nonneg ha2.1 zero_le_two) (f.value "adj1")
  generalize pin 0 (f.value "adj1") (a2 * 2) = a1 at ha1 ⊢
  have ha1' : Fits a1 100000 := ha1.trans (by linarith [ha2.2])
  -- the head gets what the shaft leaves of the height, and the tip is at least below both
  have hrest := mul_nonneg (shaft_share_fits hw hh ha1').rest.1 hh
  have ha3 := Exact.pin_fits (div_nonneg hrest hss) (f.value "adj3")
  generalize pin 0 (f.value "adj3") ((100000 - a1 * f.ss / f.h) * f.h / f.ss) = a3 at ha3 ⊢
  have hlowest := head_share_fits hw hh ha1' ha3
  obtain ⟨ha5, ha5'⟩ := Exact.pin_mem_Icc hlowest.2 (f.value "adj5")
  generalize pin ((a3 + a1) * f.ss / f.h) (f.value "adj5") 100000 = a5 at ha5 ha5' ⊢
  have hth := Frame.shaft_fits hss ha1
  have haw2 := Frame.ofShort_fits hss ha2
  rw [f.ofShort_quarter] at haw2
  have hah := Frame.ofShort_fits hss ha3
  have hy5 := Frame.share_fits ⟨hlowest.1.trans ha5, ha5'⟩ hh
  rw [← f.ofHeight_eq] at hy5
  refine ⟨⟨_, _, _, _, _, hth, haw2, hah.1, hy5, above_tip hw hh ha5,
    Frame.ofShort_pin_maxAdj_fits hss (le_min ?_ ?_) _⟩, rfl⟩
  · linarith [haw2.2, hth.1, f.ss_le_w]
  · linarith [above_tip hw hh ha5, hth.1]

theorem uTurn_spansBox : SpansBox ["adj1", "adj2", "adj3", "adj4", "adj5"] uTurn := by
  intro f hw hh h
  obtain ⟨m, houtline⟩ := uTurn_eq hw hh h
  exact ⟨_, houtline, m.spans hw hh⟩

end BlockArrow

namespace ArrowCallout

theorem right_spansBox : SpansBox ["adj1", "adj2", "adj3", "adj4"] right := by
  intro f hw hh h
  obtain ⟨-, hvc, -, -⟩ := f.halves
  obtain ⟨⟨dy2, dy1, dx3, x2⟩, hmeasures, hm⟩ := parts_fit hw hh h le_rfl
  have hx3 := hm.headLength.rest
  have hy1 := hm.halfHead.around_center
  have hy2 := hm.halfShaft_fits.around_center
  simp only [right, Exact.literal_zero, Exact.literal_one, hvc, hmeasures, Guided.ok_bind]
  refine ⟨_, rfl, ?_⟩
  constructor <;> simp [hw, hh, hx3, hm.boxLength, hy1, hy2]

theorem left_spansBox : SpansBox ["adj1", "adj2", "adj3", "adj4"] left := by
  intro f hw hh h
  obtain ⟨-, hvc, -, -⟩ := f.halves
  obtain ⟨⟨dy2, dy1, x1, dx2⟩, hmeasures, hm⟩ := parts_fit hw hh h le_rfl
  have hx2 := hm.boxLength.rest
  have hy1 := hm.halfHead.around_center
  have hy2 := hm.halfShaft_fits.around_center
  simp only [left, Exact.literal_zero, Exact.literal_one, hvc, hmeasures, Guided.ok_bind]
  refine ⟨_, rfl, ?_⟩
  constructor <;> simp [hw, hh, hm.headLength, hx2, hy1, hy2]

theorem up_spansBox : SpansBox ["adj1", "adj2", "adj3", "adj4"] up := left_spansBox.transposed

theorem down_spansBox : SpansBox ["adj1", "adj2", "adj3", "adj4"] down := right_spansBox.transposed

theorem leftRight_spansBox : SpansBox ["adj1", "adj2", "adj3", "adj4"] leftRight := by
  intro f hw hh h
  obtain ⟨hhc, hvc, -, -⟩ := f.halves
  obtain ⟨⟨dy2, dy1, x1, boxLength⟩, hmeasures, hm⟩ := parts_fit hw hh h one_le_two
  have hx4 := hm.headLength.rest
  have hhalfBox : Fits (boxLength / 2) (f.w / 2) :=
    ⟨div_nonneg hm.boxLength.1 zero_le_two, div_le_div_of_nonneg_right hm.boxLength.2 zero_le_two⟩
  have hx2 := hhalfBox.around_center
  have hy1 := hm.halfHead.around_center
  have hy2 := hm.halfShaft_fits.around_center
  simp only [leftRight, Exact.literal_zero, Exact.literal_ofNat, hhc, hvc, hmeasures, Guided.ok_bind]
  refine ⟨_, rfl, ?_⟩
  constructor <;> simp [hw, hh, hm.headLength, hx4, hx2, hy1, hy2]

theorem upDown_spansBox : SpansBox ["adj1", "adj2", "adj3", "adj4"] upDown :=
  leftRight_spansBox.transposed

theorem quad_spansBox : SpansBox ["adj1", "adj2", "adj3", "adj4"] quad := by
  intro f hw hh h
  obtain ⟨hhc, hvc, -, -⟩ := f.halves
  simp (disch := decide) only [quad, Frame.adj_eq h, Guided.ok_bind, Exact.literal_zero,
    Exact.literal_ofNat, hhc, hvc]
  have hss := Frame.ss_nonneg hw hh
  have hhalf : (0 : ℝ) ≤ 50000 := by norm_num
  have ha2 := Exact.pin_fits hhalf (f.value "adj2")
  generalize pin 0 (f.value "adj2") 50000 = a2 at ha2 ⊢
  have ha1 := Exact.pin_fits (mul_nonneg ha2.1 zero_le_two) (f.value "adj1")
  generalize pin 0 (f.value "adj1") (a2 * 2) = a1 at ha1 ⊢
  have ha3 := Exact.pin_fits ha2.rest.1 (f.value "adj3")
  generalize pin 0 (f.value "adj3") (50000 - a2) = a3 at ha3 ⊢
  -- the box is at least as wide as the shafts and leaves room for the heads on both sides
  obtain ⟨ha4, ha4'⟩ := Exact.pin_mem_Icc (by linarith [ha1.2, ha3.2] : a1 ≤ 100000 - a3 * 2)
    (f.value "adj4")
  generalize pin a1 (f.value "adj4") (100000 - a3 * 2) = a4 at ha4 ha4' ⊢
  have hbox : Fits a4 100000 := ⟨ha1.1.trans ha4, by linarith [ha3.1]⟩
  have hbox_x := (Frame.half_share_fits hbox hw).around_center
  have hbox_y := (Frame.half_share_fits hbox hh).around_center
  have hm := BlockArrow.Heads.Fit.of_shares hss ha2 ha1 (ha3.trans (by linarith [ha2.1]))
  obtain ⟨hlength_x, hlength_y⟩ := hm.length_fits
  obtain ⟨⟨hhead_x, hshaft_x⟩, ⟨hhead_y, hshaft_y⟩⟩ := hm.half_fits
  refine ⟨_, rfl, ?_⟩
  constructor <;>
    simp [hw, hh, hlength_x, hlength_y, hlength_x.rest, hlength_y.rest, hhead_x.around_center,
      hhead_y.around_center, hshaft_x.around_center, hshaft_y.around_center, hbox_x, hbox_y]

end ArrowCallout

end Preset

/-! ## The kinds -/

namespace Kind

/-- The arrows of which all guides are moved into limits. -/
def clampedArrows : List Kind :=
  [rightArrow, leftArrow, upArrow, downArrow, stripedRightArrow, notchedRightArrow, leftRightArrow,
    upDownArrow, quadArrow, leftRightUpArrow, leftUpArrow, bentArrow, uturnArrow, rightArrowCallout,
    leftArrowCallout, upArrowCallout, downArrowCallout, leftRightArrowCallout, upDownArrowCallout,
    quadArrowCallout]

theorem clampedArrow_spansBox :
    ∀ k ∈ clampedArrows, ∃ p : Preset ℝ, k.preset? = some p ∧
      Preset.SpansBox (p.guides.map Prod.fst) p.outline := by
  simp only [clampedArrows, List.forall_mem_cons]
  refine ⟨?right, ?left, ?up, ?down, ?striped, ?notched, ?leftRight, ?upDown, ?quad, ?leftRightUp,
    ?leftUp, ?bent, ?uTurn, ?boxRight, ?boxLeft, ?boxUp, ?boxDown, ?boxLeftRight, ?boxUpDown, ?boxQuad,
    List.forall_mem_nil _⟩
  case right => exact ⟨_, rfl, Preset.BlockArrow.right_spansBox⟩
  case left => exact ⟨_, rfl, Preset.BlockArrow.left_spansBox⟩
  case up => exact ⟨_, rfl, Preset.BlockArrow.up_spansBox⟩
  case down => exact ⟨_, rfl, Preset.BlockArrow.down_spansBox⟩
  case striped => exact ⟨_, rfl, Preset.BlockArrow.stripedRight_spansBox⟩
  case notched => exact ⟨_, rfl, Preset.BlockArrow.notchedRight_spansBox⟩
  case leftRight => exact ⟨_, rfl, Preset.BlockArrow.leftRight_spansBox⟩
  case upDown => exact ⟨_, rfl, Preset.BlockArrow.upDown_spansBox⟩
  case quad => exact ⟨_, rfl, Preset.BlockArrow.quad_spansBox⟩
  case leftRightUp => exact ⟨_, rfl, Preset.BlockArrow.leftRightUp_spansBox⟩
  case leftUp => exact ⟨_, rfl, Preset.BlockArrow.leftUp_spansBox⟩
  case bent => exact ⟨_, rfl, Preset.BlockArrow.bent_spansBox⟩
  case uTurn => exact ⟨_, rfl, Preset.BlockArrow.uTurn_spansBox⟩
  case boxRight => exact ⟨_, rfl, Preset.ArrowCallout.right_spansBox⟩
  case boxLeft => exact ⟨_, rfl, Preset.ArrowCallout.left_spansBox⟩
  case boxUp => exact ⟨_, rfl, Preset.ArrowCallout.up_spansBox⟩
  case boxDown => exact ⟨_, rfl, Preset.ArrowCallout.down_spansBox⟩
  case boxLeftRight => exact ⟨_, rfl, Preset.ArrowCallout.leftRight_spansBox⟩
  case boxUpDown => exact ⟨_, rfl, Preset.ArrowCallout.upDown_spansBox⟩
  case boxQuad => exact ⟨_, rfl, Preset.ArrowCallout.quad_spansBox⟩

/-- Whatever the values of its guides are, an arrow with clamped guides has no vertex outside of its box,
and reaches each side of it. -/
theorem clampedArrow_spans {k : Kind} (hk : k ∈ clampedArrows) {w h : ℝ} (hw : 0 ≤ w) (hh : 0 ≤ h)
    {guides : GuideSet ℝ}
    (hguides : guides.Declares ((k.guides : List (GuideDecl ℝ)).map GuideDecl.name)) :
    ∃ p, k.outline w h guides = .ok p ∧ p.Spans w h := by
  obtain ⟨preset, hpreset, hspans⟩ := clampedArrow_spansBox k hk
  rw [guides_names hpreset] at hguides
  obtain ⟨p, hp, hbox⟩ := hspans ⟨w, h, guides⟩ hw hh hguides
  exact ⟨p, (outline_of_preset hpreset w h guides).trans hp, hbox⟩

/-- An arrow that turns round in a flat box, with a negative guide and some that are far too large. -/
theorem clampedArrow_spans_flat :
    let guides : GuideSet ℝ := ⟨⟨1⟩, [("adj1", 80000), ("adj2", 700000), ("adj3", 90000),
      ("adj4", -43750), ("adj5", 300000)]⟩
    uturnArrow ∈ clampedArrows ∧ (0 : ℝ) ≤ 1000 ∧ (0 : ℝ) ≤ 1 ∧
      guides.Declares ((uturnArrow.guides : List (GuideDecl ℝ)).map GuideDecl.name) ∧
      ∃ p, uturnArrow.outline 1000 1 guides = .ok p ∧ p.Spans 1000 1 := by
  intro guides
  have hk : uturnArrow ∈ clampedArrows := by decide
  have hw : (0 : ℝ) ≤ 1000 := by norm_num
  have hguides : guides.Declares ((uturnArrow.guides : List (GuideDecl ℝ)).map GuideDecl.name) := by
    show ∀ name ∈ ["adj1", "adj2", "adj3", "adj4", "adj5"], ∃ v, guides.get? name = some v
    simp [guides, GuideSet.get?]
  exact ⟨hk, hw, zero_le_one, hguides, clampedArrow_spans hk hw zero_le_one hguides⟩

end Kind

end ShapeOutline
