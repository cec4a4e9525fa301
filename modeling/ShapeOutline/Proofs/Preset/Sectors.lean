import Mathlib
import ShapeOutline.Preset
import ShapeOutline.Proofs.Guide.Declared
import ShapeOutline.Proofs.Path.Inscribed
import ShapeOutline.Proofs.Path.Turning
import ShapeOutline.Proofs.Scale.Figures

/-!
# Sectors of the ellipse in a box

Pies, chords, arcs and sectors of rings have two angle guides. Their outlines begin with an arc along the
ellipse that touches the sides of the box, clockwise from the direction that the first guide names to the
direction that the second one names. It is a full turn when the two are the same.

* `Pen.radii_of_mem_step`, `Pen.radii_of_mem_run`: the arcs that a pen leaves have the radii that it is told;
* `sweepBetween_spec`: the clockwise way between two directions;
* `Arc.IsSector`: an arc along the ellipse from one direction to another;
* `isSector_sectorArc`: the arc that is drawn between two directions is one;
* `Round.sector_outline`: the outlines of these kinds.
-/

namespace ShapeOutline

/-! ## The arcs that a pen leaves -/

namespace Pen

variable {i : Instruction ℝ} {a : Arc ℝ}

theorem eq_of_arcTo_eq_ofArc {b : Arc ℝ} (h : Command.arcTo a = .ofArc b) : a = b := by
  unfold Command.ofArc at h
  split at h
  · cases h
  · exact Command.arcTo.inj h

theorem arcTo_not_mem_ready (pen : Pen ℝ) : .arcTo a ∉ pen.ready.2.2 := fun hmem =>
  Bool.false_ne_true (pen.isMove_of_mem_ready _ hmem)

theorem arcTo_not_mem_concat (pen : Pen ℝ) {c : Command ℝ} (hc : Command.arcTo a ≠ c) :
    .arcTo a ∉ pen.ready.2.2 ++ [c] := by
  intro hmem
  rcases List.mem_append.mp hmem with hmove | hlast
  · exact pen.arcTo_not_mem_ready hmove
  · exact hc (List.mem_singleton.mp hlast)

/-- An elliptical arc has the radii that are named, stretched onto the box. -/
theorem radii_of_mem_ellipticalArc (pen : Pen ℝ) {wr hr start sweep : ℝ}
    (ha : .arcTo a ∈ (pen.ellipticalArc wr hr start sweep).2) :
    a.rx = wr * pen.scale.x ∧ a.ry = hr * pen.scale.y := by
  by_cases hradii : 0 < wr ∧ 0 < hr
  · rw [ellipticalArc_of_pos pen hradii.1 hradii.2] at ha
    rcases List.mem_append.mp ha with hmove | harc
    · exact absurd hmove pen.arcTo_not_mem_ready
    · obtain rfl := eq_of_arcTo_eq_ofArc (List.mem_singleton.mp harc)
      exact ⟨rfl, rfl⟩
  · rw [ellipticalArc_of_not_pos pen hradii] at ha
    exact absurd ha (pen.arcTo_not_mem_concat nofun)

/-- An arc that one instruction leaves has the radii that it names, stretched onto the box. -/
theorem radii_of_mem_step (pen : Pen ℝ) (hi : i.isDirect = true) (ha : .arcTo a ∈ (pen.step i).2) :
    ∃ wr hr start sweep, i = .arcTo wr hr start sweep ∧
      a.rx = wr * pen.scale.x ∧ a.ry = hr * pen.scale.y := by
  cases i with
  | moveTo x y => cases List.mem_singleton.mp ha
  | lineTo x y => exact absurd ha (pen.arcTo_not_mem_concat nofun)
  | cubicTo x1 y1 x2 y2 x y => exact absurd ha (pen.arcTo_not_mem_concat nofun)
  | quadTo qx qy x y =>
    rcases List.mem_append.mp ha with hmove | hcubic
    · exact absurd hmove pen.arcTo_not_mem_ready
    · exact absurd hcubic (pen.ready.1.arcTo_not_mem_concat nofun)
  | arcTo wr hr start sweep =>
    exact ⟨wr, hr, start, sweep, rfl, pen.radii_of_mem_ellipticalArc ha⟩
  | arc spec wedge => cases hi
  | append fragment => cases hi
  | close =>
    replace ha : .arcTo a ∈ pen.closed.2 := ha
    unfold closed at ha
    split at ha
    · cases List.mem_singleton.mp ha
    · cases ha

/-- So has every arc that instructions leave. -/
theorem radii_of_mem_run (pen : Pen ℝ) {is : List (Instruction ℝ)}
    (his : ∀ i ∈ is, i.isDirect = true) (ha : .arcTo a ∈ (pen.run is).2) :
    ∃ wr hr start sweep, .arcTo wr hr start sweep ∈ is ∧
      a.rx = wr * pen.scale.x ∧ a.ry = hr * pen.scale.y := by
  induction is generalizing pen with
  | nil => cases ha
  | cons i is ih =>
    obtain ⟨hi, his⟩ := List.forall_mem_cons.mp his
    rcases List.mem_append.mp ha with hnow | hlater
    · obtain ⟨wr, hr, start, sweep, rfl, hradii⟩ := pen.radii_of_mem_step hi hnow
      exact ⟨wr, hr, start, sweep, List.mem_cons_self, hradii⟩
    · obtain ⟨wr, hr, start, sweep, hmem, hradii⟩ := ih (pen.step i).1 his hlater
      rw [pen.step_scale hi] at hradii
      exact ⟨wr, hr, start, sweep, List.mem_cons_of_mem i hmem, hradii⟩

end Pen

/-! ## Clockwise arcs along the ellipse -/

open Preset.Round (sweepBetween)

/-- The clockwise way between two directions of one turn is more than nothing and at most a full turn, and
leads from the one to the other. -/
theorem sweepBetween_spec {first second : ℝ} (hfirst : first ∈ Set.Ico 0 360)
    (hsecond : second ∈ Set.Ico 0 360) :
    0 < sweepBetween first second ∧ sweepBetween first second ≤ 360 ∧
      (sweepBetween first second = 360 ↔ first = second) ∧
      sinCos (first + sweepBetween first second) = sinCos second := by
  obtain ⟨hfirst0, hfirst360⟩ := hfirst
  obtain ⟨hsecond0, hsecond360⟩ := hsecond
  unfold sweepBetween
  dsimp only
  rw [Exact.literal_zero, Exact.literal_ofNat 360]
  split
  · next hforth =>
    refine ⟨hforth, by linarith, ?_, sinCos_add_sweep (.inl rfl)⟩
    constructor
    · intro hfull
      linarith
    · intro hsame
      linarith
  · next hback =>
    refine ⟨by linarith, by linarith, ?_, sinCos_add_sweep (.inr rfl)⟩
    constructor
    · intro hfull
      linarith
    · intro hsame
      linarith

/-- The arc runs clockwise along the ellipse that touches the sides of a box, from the point that is seen
from the centre in one direction to the point that is seen in another one, at most a full turn. -/
structure Arc.IsSector (a : Arc ℝ) (w h first second : ℝ) : Prop where
  center : a.center = ⟨w / 2, h / 2⟩
  rx : a.rx = w / 2
  ry : a.ry = h / 2
  starts : (a.startPoint - a.center).LiesToward first
  stops : (a.pointAt a.stop - a.center).LiesToward second
  sweep_pos : 0 < a.stop - a.start
  sweep_le : a.stop - a.start ≤ 360
  sweep_eq_iff : a.stop - a.start = 360 ↔ first = second

variable {w h : ℝ}

/-- The arc along the ellipse from the direction `first` over a sweep. -/
noncomputable def sectorArc (w h first sweep : ℝ) : Arc ℝ :=
  arcFrom w h (parametricAngle first (w / 2) (h / 2)) (parametricAngle first (w / 2) (h / 2))
    (parametricAngle (first + sweep) (w / 2) (h / 2))

theorem sectorArc_center (hw : 0 < w) (hh : 0 < h) (first sweep : ℝ) :
    (sectorArc w h first sweep).center = ⟨w / 2, h / 2⟩ :=
  (arcFrom_center_eq_iff hw hh).mpr rfl

/-- The points of the arc are seen from its centre in the directions that were converted. -/
theorem sectorArc_pointAt_liesToward (hw : 0 < w) (hh : 0 < h)
    (hexact : ConvertsExactly (w / 2) (h / 2)) (first sweep deg : ℝ) :
    let a := sectorArc w h first sweep
    (a.pointAt (parametricAngle deg (w / 2) (h / 2)) - a.center).LiesToward deg := by
  intro a
  rw [Arc.pointAt, ellipsePoint_sub_center]
  exact ellipsePoint_liesToward (half_pos hw) (half_pos hh) hexact deg

/-- The arc over the clockwise way between two directions is a sector. -/
theorem isSector_sectorArc (hw : 0 < w) (hh : 0 < h) (hexact : ConvertsExactly (w / 2) (h / 2))
    {first second : ℝ} (hfirst : first ∈ Set.Ico 0 360) (hsecond : second ∈ Set.Ico 0 360) :
    (sectorArc w h first (sweepBetween first second)).IsSector w h first second := by
  obtain ⟨hpos, hle, hfull, hend⟩ := sweepBetween_spec hfirst hsecond
  generalize sweepBetween first second = sweep at hpos hle hfull hend ⊢
  have hmono := parametricAngle_strictMono (w / 2) (h / 2)
  have hturn := parametricAngle_add_turns first (w / 2) (h / 2) 1
  rw [Int.cast_one, mul_one] at hturn
  have hseen := sectorArc_pointAt_liesToward hw hh hexact first sweep
  refine ⟨sectorArc_center hw hh first sweep, rfl, rfl, hseen first,
    (hseen (first + sweep)).of_sinCos_eq hend, ?_, ?_, ?_⟩
  · refine sub_pos.mpr (hmono ?_)
    exact lt_add_of_pos_right first hpos
  · -- a turn of the direction is a turn of the angle, and less than a turn is less
    have hwithin := hmono.monotone (add_le_add_right hle first)
    exact sub_le_iff_le_add'.mpr (hwithin.trans_eq hturn)
  · rw [← hfull, sub_eq_iff_eq_add', sectorArc]
    show parametricAngle (first + sweep) (w / 2) (h / 2) = parametricAngle first (w / 2) (h / 2) + 360 ↔ _
    rw [← hturn]
    exact hmono.injective.eq_iff.trans (add_right_inj first)

/-! ## The outlines -/

/-- The kinds whose outlines begin with a sector. -/
inductive Kind.IsSector : Kind → Prop
  | pie : IsSector .pie
  | chord : IsSector .chord
  | arc : IsSector .arc
  | blockArc : IsSector .blockArc

namespace Preset.Round

open Scalar (tolerance)

variable {f : Frame ℝ}

/-- The direction that an angle guide names, which is moved to the nearer end of a turn when it lies
outside. -/
noncomputable def sectorAngle (f : Frame ℝ) (name : String) : ℝ :=
  Scalar.pin 0 (f.value name / 60000) 359.99998

theorem sectorAngle_mem (f : Frame ℝ) (name : String) : sectorAngle f name ∈ Set.Ico 0 360 := by
  have hlimit : (359.99998 : ℝ) < 360 := by norm_num
  obtain ⟨hlo, hhi⟩ := Exact.pin_mem_Icc (by norm_num : (0 : ℝ) ≤ 359.99998) (f.value name / 60000)
  exact ⟨hlo, hhi.trans_lt hlimit⟩

theorem anglePair_eq {names : List String} (h : f.guides.Declares names) {first second : String}
    (hfirst : first ∈ names) (hsecond : second ∈ names) :
    anglePair f first second
      = .ok (sectorAngle f first, sweepBetween (sectorAngle f first) (sectorAngle f second)) := by
  rw [anglePair, Frame.angle_eq h hfirst, Frame.angle_eq h hsecond, Exact.literal_zero,
    Exact.literal_ofNat 60000]
  rfl

/-- What begins at the point that is seen in a direction, with an arc in this direction. -/
theorem drawn_sector (hw : 0 < f.w) (hh : 0 < f.h) (first sweep : ℝ) (is : List (Instruction ℝ))
    (his : ∀ i ∈ is, i.isDirect = true) :
    let p := pointSeen f.hc f.vc f.wd2 f.hd2 first
    let outer := sectorArc f.w f.h first sweep
    ∃ rest, Path.drawn (.moveTo p.x p.y :: .arcTo f.wd2 f.hd2 first sweep :: is)
        = ⟨.moveTo outer.startPoint :: .arcTo outer :: rest⟩ ∧
      ∀ inner, .arcTo inner ∈ rest → ∃ wr hr start sweep,
        .arcTo wr hr start sweep ∈ is ∧ inner.rx = wr ∧ inner.ry = hr := by
  obtain ⟨hhc, hvc, hwd2, hhd2⟩ := f.halves
  rw [hhc, hvc, hwd2, hhd2]
  intro p outer
  let pen : Pen ℝ := Pen.plain.movedTo p
  have hpos : pen.position = some p := rfl
  have harc : (pen.ellipticalArc (f.w / 2) (f.h / 2) first sweep).2 = [.arcTo outer] :=
    congrArg Prod.snd
      (Pen.ellipticalArc_in_box hpos Pen.plain_scale (half_pos hw) (half_pos hh) first sweep)
  have hpoint : outer.startPoint = p := arcFrom_startPoint
  have hscale : (pen.step (.arcTo (f.w / 2) (f.h / 2) first sweep)).1.scale = ⟨1, 1⟩ :=
    (pen.step_scale rfl).trans Pen.plain_scale
  refine ⟨((pen.ellipticalArc (f.w / 2) (f.h / 2) first sweep).1.run is).2, ?_, fun inner hinner => ?_⟩
  · show Path.mk (.moveTo (Pen.plain.toBox p)
      :: ((pen.ellipticalArc (f.w / 2) (f.h / 2) first sweep).2 ++ _)) = _
    rw [harc, hpoint, Pen.toBox_of_scale_one Pen.plain_scale]
    rfl
  · obtain ⟨wr, hr, start, sweep', hmem, hrx, hry⟩ :=
      Pen.radii_of_mem_run (pen.step (.arcTo (f.w / 2) (f.h / 2) first sweep)).1 his hinner
    rw [hscale, mul_one] at hrx hry
    exact ⟨wr, hr, start, sweep', hmem, hrx, hry⟩

theorem thickness_nonneg (hw : 0 < f.w) (hh : 0 < f.h) (a : ℝ) : 0 ≤ thickness f a := by
  obtain ⟨share, hshare, -, hthickness⟩ := exists_thickness_eq f a
  rw [hthickness]
  exact mul_nonneg (le_min hw.le hh.le) hshare

variable {guides : GuideSet ℝ} {k : Kind}

/-- The outlines begin alike, and only that of a sector of a ring goes on with another arc. -/
theorem outline_eq_drawn (hk : k.IsSector) (hw : 0 < w) (hh : 0 < h)
    (hguides : guides.Declares ((k.guides : List (GuideDecl ℝ)).map GuideDecl.name)) :
    let f : Frame ℝ := ⟨w, h, guides⟩
    let first := sectorAngle f "adj1"
    let p := pointSeen f.hc f.vc f.wd2 f.hd2 first
    ∃ is, k.outline w h guides = .ok (.drawn (.moveTo p.x p.y
        :: .arcTo f.wd2 f.hd2 first (sweepBetween first (sectorAngle f "adj2")) :: is)) ∧
      (∀ i ∈ is, i.isDirect = true) ∧
      ∀ wr hr start sweep, .arcTo wr hr start sweep ∈ is →
        k = .blockArc ∧ wr ≤ w / 2 ∧ hr ≤ h / 2 := by
  intro f first p
  cases hk with
  | pie =>
    refine ⟨[.lineTo f.hc f.vc, .close], ?_, List.all_eq_true.mp rfl, fun _ _ _ _ harc => ?_⟩
    · show pie f = _
      rw [pie, anglePair_eq hguides (.head _) (.tail _ (.head _))]
      rfl
    · simp at harc
  | chord =>
    refine ⟨[.close], ?_, List.all_eq_true.mp rfl, fun _ _ _ _ harc => ?_⟩
    · show chord f = _
      rw [chord, anglePair_eq hguides (.head _) (.tail _ (.head _))]
      rfl
    · simp at harc
  | arc =>
    refine ⟨[], ?_, List.forall_mem_nil _, fun _ _ _ _ harc => ?_⟩
    · show arc f = _
      rw [arc, anglePair_eq hguides (.head _) (.tail _ (.head _))]
      rfl
    · cases harc
  | blockArc =>
    let sweep := sweepBetween first (sectorAngle f "adj2")
    let dr := thickness f (f.value "adj3")
    let inner := pointSeen f.hc f.vc (f.wd2 - dr) (f.hd2 - dr) (first + sweep)
    refine ⟨[.lineTo inner.x inner.y,
      .arcTo (f.wd2 - dr) (f.hd2 - dr) (first + sweep) (-sweep), .close], ?_,
      List.all_eq_true.mp rfl, fun wr hr _ _ harc => ?_⟩
    · show blockArc f = _
      rw [blockArc, anglePair_eq hguides (.head _) (.tail _ (.head _)), Guided.ok_bind,
        Frame.shortShare_eq hguides (.tail _ (.tail _ (.head _)))]
      rfl
    · obtain ⟨-, -, hwd2, hhd2⟩ := f.halves
      have hdr : 0 ≤ dr := thickness_nonneg (f := f) hw hh _
      obtain ⟨rfl, rfl, -⟩ : wr = f.wd2 - dr ∧ hr = f.hd2 - dr ∧ _ := by simpa using harc
      rw [hwd2, hhd2]
      exact ⟨rfl, sub_le_self _ hdr, sub_le_self _ hdr⟩

/-- Pies, chords, arcs and sectors of rings. The outline begins with an arc along the ellipse that touches
the sides of the box, from the direction of the first guide clockwise to that of the second one. It is the
only arc, but that sectors of rings have an inner one, which is no larger. -/
theorem sector_outline (hk : k.IsSector) (hw : 0 < w) (hh : 0 < h)
    (hround : w = h ∨ 2 * (tolerance : ℝ) ≤ |w - h|)
    (hguides : guides.Declares ((k.guides : List (GuideDecl ℝ)).map GuideDecl.name)) :
    let f : Frame ℝ := ⟨w, h, guides⟩
    ∃ outer rest, k.outline w h guides = .ok ⟨.moveTo outer.startPoint :: .arcTo outer :: rest⟩ ∧
      outer.IsSector w h (sectorAngle f "adj1") (sectorAngle f "adj2") ∧
      ∀ inner, .arcTo inner ∈ rest →
        k = .blockArc ∧ inner.rx ≤ outer.rx ∧ inner.ry ≤ outer.ry := by
  intro f
  have hexact : ConvertsExactly (w / 2) (h / 2) := by
    rcases hround with rfl | hfar
    · exact .inl rfl
    · right
      rw [← sub_div, abs_div, abs_two]
      linarith
  obtain ⟨is, houtline, hdirect, hothers⟩ := outline_eq_drawn hk hw hh hguides
  obtain ⟨rest, hpath, harcs⟩ := drawn_sector (f := f) hw hh (sectorAngle f "adj1")
    (sweepBetween (sectorAngle f "adj1") (sectorAngle f "adj2")) is hdirect
  refine ⟨_, rest, houtline.trans (congrArg Except.ok hpath),
    isSector_sectorArc hw hh hexact (sectorAngle_mem f "adj1") (sectorAngle_mem f "adj2"),
    fun inner hinner => ?_⟩
  obtain ⟨wr, hr, start, sweep, harc, rfl, rfl⟩ := harcs inner hinner
  exact hothers _ _ start sweep harc

/-- A sector of a ring of 200 by 100, from straight up around to the right, as a document asks for it in
units of which two are one. -/
theorem sector_outline_ring :
    let decls : List (GuideDecl ℝ) := Kind.blockArc.guides
    let guides := GuideSet.resolve decls [⟨"adj1", "val 16200000"⟩, ⟨"adj2", "val 0"⟩] ⟨2⟩
    let f : Frame ℝ := ⟨200, 100, guides⟩
    Kind.blockArc.IsSector ∧ (0 : ℝ) < 200 ∧ (0 : ℝ) < 100 ∧
      2 * (tolerance : ℝ) ≤ |200 - 100| ∧ guides.Declares (decls.map GuideDecl.name) ∧
      ∃ outer rest,
        Kind.blockArc.outline 200 100 guides
          = .ok ⟨.moveTo outer.startPoint :: .arcTo outer :: rest⟩ ∧
        outer.IsSector 200 100 (sectorAngle f "adj1") (sectorAngle f "adj2") := by
  intro decls guides f
  have hw : (0 : ℝ) < 200 := by norm_num
  have hh : (0 : ℝ) < 100 := by norm_num
  have hfar : 2 * (tolerance : ℝ) ≤ |200 - 100| := by
    have htolerance : (tolerance : ℝ) = 1e-9 := rfl
    rw [htolerance]
    norm_num
  have hguides : guides.Declares (decls.map GuideDecl.name) := GuideSet.resolve_declares decls _ _
  obtain ⟨outer, rest, houtline, hsector, -⟩ :=
    sector_outline .blockArc hw hh (.inr hfar) hguides
  exact ⟨.blockArc, hw, hh, hfar, hguides, outer, rest, houtline, hsector⟩

end Preset.Round

end ShapeOutline
