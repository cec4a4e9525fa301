import Mathlib
import ShapeOutline.Preset
import ShapeOutline.Proofs.Guide.Declared
import ShapeOutline.Proofs.Path.Inscribed
import ShapeOutline.Proofs.Path.Spans
import ShapeOutline.Proofs.Scale.Length

/-!
# The measures of arrows

The guides of an arrow are moved into limits that leave room for each other: the shaft is no wider than the
head, the heads are no longer than the box, and a tip that is turned round is below its head. A limit that
is the share of a length cuts what a guide asks for to this length, also in a box without a short side.

* `Frame.ofShort_fits`, `Frame.ofShort_pin_maxAdj_fits`, `Frame.share_fits`: shares of a box;
* `BlockArrow.shaftAndHead_fits`, `BlockArrow.heads_fit`: shafts and heads;
* `BlockArrow.head_share_fits`, `BlockArrow.above_tip`: the head of an arrow that turns round;
* `ArrowCallout.parts_fit`: heads and the box between them.
-/

namespace ShapeOutline

open Scalar (pin)

/-! ## Shares of a box -/

/-- A guide that is moved into limits from zero on. -/
theorem Exact.pin_fits {hi : ℝ} (h : 0 ≤ hi) (v : ℝ) : Fits (pin 0 v hi) hi := pin_mem_Icc h v

namespace Frame

variable {f : Frame ℝ}

theorem ss_nonneg (hw : 0 ≤ f.w) (hh : 0 ≤ f.h) : 0 ≤ f.ss := le_min hw hh

theorem ss_le_w (f : Frame ℝ) : f.ss ≤ f.w := min_le_left _ _

theorem ss_le_h (f : Frame ℝ) : f.ss ≤ f.h := min_le_right _ _

theorem ofShort_eq (f : Frame ℝ) (a : ℝ) : f.ofShort a = f.ss * a / 100000 := by
  rw [ofShort, Exact.literal_ofNat]

theorem ofHeight_eq (f : Frame ℝ) (a : ℝ) : f.ofHeight a = f.h * a / 100000 := by
  rw [ofHeight, Exact.literal_ofNat]

/-- A larger share is a larger length. -/
theorem ofShort_fits (hss : 0 ≤ f.ss) {a hi : ℝ} (ha : Fits a hi) :
    Fits (f.ofShort a) (f.ofShort hi) := by
  obtain ⟨hlo, hhi⟩ := ha
  rw [ofShort_eq, ofShort_eq]
  exact ⟨by positivity, by gcongr⟩

theorem maxAdj_eq (f : Frame ℝ) (length : ℝ) : f.maxAdj length = 100000 * length / f.ss := by
  rw [maxAdj, Exact.quotient_eq, Exact.literal_ofNat]

/-- A guide of which the limit is the share of a length. -/
theorem pin_maxAdj_fits (hss : 0 ≤ f.ss) {length : ℝ} (hlength : 0 ≤ length) (v : ℝ) :
    Fits (pin 0 v (f.maxAdj length)) (f.maxAdj length) := by
  refine Exact.pin_fits ?_ v
  rw [maxAdj_eq]
  positivity

/-- The share that it asks for is no longer than this length. -/
theorem ofShort_pin_maxAdj_fits (hss : 0 ≤ f.ss) {length : ℝ} (hlength : 0 ≤ length) (v : ℝ) :
    Fits (f.ofShort (pin 0 v (f.maxAdj length))) length := by
  refine (ofShort_fits hss (pin_maxAdj_fits hss hlength v)).trans ?_
  rw [ofShort_eq, maxAdj_eq]
  -- a box without a short side has no shares at all
  rcases hss.eq_or_lt with hzero | hpos
  · rw [← hzero, zero_mul, zero_div]
    exact hlength
  · refine le_of_eq ?_
    field_simp

/-- The whole short side. -/
theorem ofShort_whole (f : Frame ℝ) : f.ofShort 100000 = f.ss := by
  rw [ofShort_eq, mul_div_cancel_right₀]
  norm_num

theorem ofShort_half (f : Frame ℝ) : f.ofShort 50000 = f.ss / 2 := by
  rw [ofShort_eq]
  ring

theorem ofShort_quarter (f : Frame ℝ) : f.ofShort 25000 = f.ss / 4 := by
  rw [ofShort_eq]
  ring

/-- A shaft that is at most twice as wide as a share. -/
theorem shaft_fits (hss : 0 ≤ f.ss) {a1 a2 : ℝ} (ha : Fits a1 (a2 * 2)) :
    Fits (f.ofShort a1) (f.ofShort a2 * 2) := by
  have htwice : f.ofShort (a2 * 2) = f.ofShort a2 * 2 := by
    rw [ofShort_eq, ofShort_eq]
    ring
  rw [← htwice]
  exact ofShort_fits hss ha

/-- The same from the middle of the shaft. -/
theorem half_shaft_fits (hss : 0 ≤ f.ss) {a1 a2 : ℝ} (ha : Fits a1 (a2 * 2)) :
    Fits (f.ss * a1 / 200000) (f.ofShort a2) := by
  obtain ⟨hlo, hhi⟩ := shaft_fits hss ha
  have hhalf : f.ss * a1 / 200000 = f.ofShort a1 / 2 := by
    rw [ofShort_eq]
    ring
  rw [hhalf]
  constructor <;> linarith

/-- A share of the width, or of the height. -/
theorem share_fits {a s : ℝ} (ha : Fits a 100000) (hs : 0 ≤ s) : Fits (s * a / 100000) s := by
  obtain ⟨hlo, hhi⟩ := ha
  refine ⟨by positivity, ?_⟩
  calc s * a / 100000 ≤ s * 100000 / 100000 := by gcongr
    _ = s := by ring

theorem half_share_fits {a s : ℝ} (ha : Fits a 100000) (hs : 0 ≤ s) :
    Fits (s * a / 200000) (s / 2) := by
  have hhalf : s * a / 200000 = s / 2 * a / 100000 := by ring
  rw [hhalf]
  exact share_fits ha (div_nonneg hs zero_le_two)

end Frame

namespace Preset

variable {f : Frame ℝ}

/-! ## The measures of arrows -/

namespace BlockArrow

/-- The shaft is no wider than the box, and the head no longer than its limit. -/
theorem shaftAndHead_fits (hw : 0 ≤ f.w) (hh : 0 ≤ f.h) (h : f.guides.Declares ["adj1", "adj2"])
    {limit : ℝ} (hlimit : 0 ≤ limit) :
    ∃ shaft head, shaftAndHead f limit = .ok (shaft, head) ∧ Fits shaft (f.h / 2) ∧
      Fits head limit := by
  simp (disch := decide) only [shaftAndHead, Frame.adj_eq h, Frame.shortShare_eq h, Guided.ok_bind,
    Exact.literal_zero, Exact.literal_ofNat]
  have hwhole : (0 : ℝ) ≤ 100000 := by norm_num
  have hshaft := Frame.half_share_fits (Exact.pin_fits hwhole (f.value "adj1")) hh
  exact ⟨_, _, rfl, hshaft, Frame.ofShort_pin_maxAdj_fits (Frame.ss_nonneg hw hh) hlimit _⟩

/-- Heads with room for each other in a box: none is longer than the short side or wider than it, and
none is less wide than its shaft. -/
structure Heads.Fit (m : Heads ℝ) (f : Frame ℝ) : Prop where
  length : Fits m.length f.ss
  halfWidth : Fits m.halfWidth (f.ss / 2)
  halfShaft : Fits m.halfShaft m.halfWidth

/-- Heads of which the measures are shares of the short side. -/
theorem Heads.Fit.of_shares (hss : 0 ≤ f.ss) {a1 a2 a3 : ℝ} (ha2 : Fits a2 50000)
    (ha1 : Fits a1 (a2 * 2)) (ha3 : Fits a3 100000) :
    Heads.Fit ⟨f.ofShort a3, f.ofShort a2, f.ss * a1 / 200000⟩ f := by
  refine ⟨?_, ?_, Frame.half_shaft_fits hss ha1⟩
  · rw [← f.ofShort_whole]
    exact Frame.ofShort_fits hss ha3
  · rw [← f.ofShort_half]
    exact Frame.ofShort_fits hss ha2

theorem heads_fit (hw : 0 ≤ f.w) (hh : 0 ≤ f.h) (h : f.guides.Declares ["adj1", "adj2", "adj3"])
    {limit : ℝ → ℝ} (hlimit : ∀ width, Fits width 100000 → Fits (limit width) 100000) :
    ∃ m, heads f limit = .ok m ∧ m.Fit f := by
  simp (disch := decide) only [heads, Frame.adj_eq h, Frame.shortShare_eq h, Guided.ok_bind,
    Exact.literal_zero, Exact.literal_ofNat]
  have hss := f.ss_nonneg hw hh
  have hhalf : (0 : ℝ) ≤ 50000 := by norm_num
  have ha2 := Exact.pin_fits hhalf (f.value "adj2")
  generalize pin 0 (f.value "adj2") 50000 = a2 at ha2 ⊢
  have hwidth : Fits (a2 * 2) 100000 := ⟨by linarith [ha2.1], by linarith [ha2.2]⟩
  have ha1 := Exact.pin_fits hwidth.1 (f.value "adj1")
  generalize pin 0 (f.value "adj1") (a2 * 2) = a1 at ha1 ⊢
  have ha3 := Exact.pin_fits (hlimit _ hwidth).1 (f.value "adj3")
  exact ⟨_, rfl, .of_shares hss ha2 ha1 (ha3.trans (hlimit _ hwidth).2)⟩

/-- The limits for the length of a head. -/
theorem fits_half_rest (width : ℝ) (hwidth : Fits width 100000) :
    Fits ((100000 - width) / 2) 100000 := by
  obtain ⟨hlo, hhi⟩ := hwidth
  constructor <;> linarith

namespace Heads.Fit

variable {x1 dx2 dx3 : ℝ}

theorem length_fits (hm : Heads.Fit ⟨x1, dx2, dx3⟩ f) : Fits x1 f.w ∧ Fits x1 f.h :=
  ⟨hm.length.trans f.ss_le_w, hm.length.trans f.ss_le_h⟩

/-- Heads and shafts around the middle of the box. -/
theorem half_fits (hm : Heads.Fit ⟨x1, dx2, dx3⟩ f) :
    (Fits dx2 (f.w / 2) ∧ Fits dx3 (f.w / 2)) ∧ (Fits dx2 (f.h / 2) ∧ Fits dx3 (f.h / 2)) := by
  have hw : f.ss / 2 ≤ f.w / 2 := by linarith [f.ss_le_w]
  have hh : f.ss / 2 ≤ f.h / 2 := by linarith [f.ss_le_h]
  have hshaft : Fits dx3 (f.ss / 2) := hm.halfShaft.trans hm.halfWidth.2
  exact ⟨⟨hm.halfWidth.trans hw, hshaft.trans hw⟩, ⟨hm.halfWidth.trans hh, hshaft.trans hh⟩⟩

/-- A head that touches the end of a side, with its shaft in its middle. -/
theorem fits_at_end (hm : Heads.Fit ⟨x1, dx2, dx3⟩ f) {s : ℝ} (hs : f.ss ≤ s) :
    Fits (s - 2 * dx2) s ∧ Fits (s - dx2 - dx3) s ∧ Fits (s - dx2) s ∧ Fits (s - dx2 + dx3) s := by
  obtain ⟨-, ⟨hhead, hhead'⟩, ⟨hshaft, hshaft'⟩⟩ := hm
  dsimp only at hhead hhead' hshaft hshaft'
  refine ⟨⟨?_, ?_⟩, ⟨?_, ?_⟩, ⟨?_, ?_⟩, ⟨?_, ?_⟩⟩ <;> linarith

end Heads.Fit

/-- What a shaft takes of the height. -/
theorem shaft_share_fits (hw : 0 ≤ f.w) (hh : 0 ≤ f.h) {a1 : ℝ} (ha1 : Fits a1 100000) :
    Fits (a1 * f.ss / f.h) 100000 := by
  have hss := Frame.ss_nonneg hw hh
  refine ⟨div_nonneg (mul_nonneg ha1.1 hss) hh, div_le_of_le_mul₀ hh (by norm_num) ?_⟩
  exact mul_le_mul ha1.2 f.ss_le_h hss (by norm_num)

/-- A head below a turn, which gets what the shaft leaves, takes no more than the height with it. -/
theorem head_share_fits (hw : 0 ≤ f.w) (hh : 0 ≤ f.h) {a1 a3 : ℝ} (ha1 : Fits a1 100000)
    (ha3 : Fits a3 ((100000 - a1 * f.ss / f.h) * f.h / f.ss)) :
    Fits ((a3 + a1) * f.ss / f.h) 100000 := by
  have hss := Frame.ss_nonneg hw hh
  have hrest : 0 ≤ (100000 - a1 * f.ss / f.h) * f.h :=
    mul_nonneg (shaft_share_fits hw hh ha1).rest.1 hh
  have hhead : a3 * f.ss ≤ (100000 - a1 * f.ss / f.h) * f.h := mul_le_of_le_div₀ hrest hss ha3.2
  have hshaft : a1 * f.ss / f.h * f.h = a1 * f.ss := by
    -- a box without height has no short side either
    refine div_mul_cancel_of_imp fun hflat => ?_
    rw [le_antisymm (f.ss_le_h.trans_eq hflat) hss, mul_zero]
  rw [sub_mul, hshaft] at hhead
  refine ⟨div_nonneg (mul_nonneg (add_nonneg ha3.1 ha1.1) hss) hh,
    div_le_of_le_mul₀ hh (by norm_num) ?_⟩
  linarith

/-- A tip at least as far down as that has the head and the shaft above it. -/
theorem above_tip (hw : 0 ≤ f.w) (hh : 0 ≤ f.h) {a1 a3 a5 : ℝ} (ha5 : (a3 + a1) * f.ss / f.h ≤ a5) :
    f.ofShort a3 + f.ofShort a1 ≤ f.ofHeight a5 := by
  have hlow : (a3 + a1) * f.ss ≤ f.h * a5 := by
    rcases hh.eq_or_lt with hflat | hpos
    · rw [le_antisymm (f.ss_le_h.trans_eq hflat.symm) (Frame.ss_nonneg hw hh), ← hflat, mul_zero,
        zero_mul]
    · rw [mul_comm f.h]
      exact (div_le_iff₀ hpos).mp ha5
  rw [Frame.ofHeight_eq, Frame.ofShort_eq, Frame.ofShort_eq]
  linarith

end BlockArrow

namespace ArrowCallout

/-- Measures with room for each other in a box: the shaft is no wider than the head, which is no wider than
the box, and neither the head nor the inner box is longer than it. -/
structure Parts.Fit (m : Parts ℝ) (f : Frame ℝ) : Prop where
  halfHead : Fits m.halfHead (f.h / 2)
  halfShaft : Fits m.halfShaft m.halfHead
  headLength : Fits m.headLength f.w
  boxLength : Fits m.boxLength f.w

theorem Parts.Fit.halfShaft_fits {m : Parts ℝ} (hm : m.Fit f) : Fits m.halfShaft (f.h / 2) :=
  hm.halfShaft.trans hm.halfHead.2

theorem parts_fit (hw : 0 ≤ f.w) (hh : 0 ≤ f.h)
    (h : f.guides.Declares ["adj1", "adj2", "adj3", "adj4"]) {heads : ℝ} (hheads : 1 ≤ heads) :
    ∃ m, parts f heads = .ok m ∧ m.Fit f := by
  obtain ⟨-, -, -, hhd2⟩ := f.halves
  simp (disch := decide) only [parts, Frame.adj_eq h, Guided.ok_bind, Exact.literal_zero,
    Exact.literal_ofNat, Exact.quotient_eq, hhd2]
  have hss := f.ss_nonneg hw hh
  have hheight : 0 ≤ f.h / 2 := by linarith
  have hhead : 0 ≤ f.w / heads := div_nonneg hw (by linarith)
  have ha2 := Frame.pin_maxAdj_fits hss hheight (f.value "adj2")
  have hhalfHead := Frame.ofShort_pin_maxAdj_fits hss hheight (f.value "adj2")
  generalize pin 0 (f.value "adj2") (f.maxAdj (f.h / 2)) = a2 at ha2 hhalfHead ⊢
  have ha1 := Exact.pin_fits (mul_nonneg ha2.1 zero_le_two) (f.value "adj1")
  generalize pin 0 (f.value "adj1") (a2 * 2) = a1 at ha1 ⊢
  have hlength := Frame.ofShort_pin_maxAdj_fits hss hhead (f.value "adj3")
  have ha3 := Frame.pin_maxAdj_fits hss hhead (f.value "adj3")
  generalize pin 0 (f.value "adj3") (f.maxAdj (f.w / heads)) = a3 at ha3 hlength ⊢
  -- the heads take their share of the width, and the box no more than what is left
  have htaken : Fits (a3 * f.ss * heads / f.w) 100000 := by
    have hheads0 : 0 < heads := one_pos.trans_le hheads
    refine ⟨div_nonneg (mul_nonneg (mul_nonneg ha3.1 hss) hheads0.le) hw, ?_⟩
    have hroom := (le_div_iff₀ hheads0).mp hlength.2
    rw [Frame.ofShort_eq] at hroom
    exact div_le_of_le_mul₀ hw (by norm_num) (by linarith)
  have ha4 := (Exact.pin_fits htaken.rest.1 (f.value "adj4")).trans htaken.rest.2
  have hbox := Frame.share_fits ha4 hw
  exact ⟨_, rfl, hhalfHead, Frame.half_shaft_fits hss ha1, hlength.trans (div_le_self hw hheads), hbox⟩

end ArrowCallout

end Preset

end ShapeOutline
