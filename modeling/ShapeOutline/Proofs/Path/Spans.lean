import Mathlib
import ShapeOutline.Preset.Frame
import ShapeOutline.Proofs.Pen.Stations

/-!
# Outlines that span a box

A path spans a box when no vertex lies outside of the box and each of its sides is reached. Formulas draw
closed figures, one after the other: a close has no vertex of its own and a move forgets where the pen was,
so the vertices are the points at which the pen stops, figure by figure.

* `Pen.vertices_draw_figure`, `Pen.vertices_draw_polygons`: the vertices of closed figures;
* `Path.vertices_transposed`: the vertices with exchanged axes;
* `arcTarget_circle_forth`, `arcTarget_circle`: quarter turns of circles, which may have no extent;
* `Fits`: lengths and coordinates along a side;
* `Point.InBox`, `Path.Spans`: a path in a box, from side to side.
-/

namespace ShapeOutline

/-! ## The vertices of closed figures -/

namespace Pen

/-- Direct instructions leave the local space as it is. -/
theorem run_scale (pen : Pen ℝ) {is : List (Instruction ℝ)} (his : ∀ i ∈ is, i.isDirect = true) :
    (pen.run is).1.scale = pen.scale := by
  induction is generalizing pen with
  | nil => rfl
  | cons i is ih =>
    obtain ⟨hi, his⟩ := List.forall_mem_cons.mp his
    show ((pen.step i).1.run is).1.scale = pen.scale
    rw [ih _ his, pen.step_scale hi]

theorem vertices_draw_append (pen : Pen ℝ) (is js : List (Instruction ℝ)) :
    (pen.draw (is ++ js)).vertices
      = (pen.draw is).vertices ++ ((pen.run is).1.draw js).vertices := by
  rw [draw, run_concat]
  exact List.filterMap_append

/-- A close has no vertex of its own. -/
theorem vertices_draw_close (pen : Pen ℝ) : (pen.draw [.close]).vertices = [] := by
  show ((pen.closed).2 ++ []).filterMap Command.endPoint? = []
  unfold closed
  split <;> rfl

variable {pen : Pen ℝ}

/-- The vertices of a closed figure are the points at which the pen stops. -/
theorem vertices_draw_figure (hscale : pen.scale = ⟨1, 1⟩) (x y : ℝ) {is : List (Instruction ℝ)}
    {qs : List (Point ℝ)} (his : stations ⟨x, y⟩ is = some qs) :
    (pen.draw (.moveTo x y :: is ++ [.close])).vertices = ⟨x, y⟩ :: qs := by
  have hbox (q : Point ℝ) : pen.toBox q = q := toBox_of_scale_one hscale q
  have hmoved (q : Point ℝ) : (pen.movedTo ⟨x, y⟩).toBox q = q := toBox_of_scale_one hscale q
  have hextent : 0 < (pen.movedTo ⟨x, y⟩).scale.x ∧ 0 < (pen.movedTo ⟨x, y⟩).scale.y := by
    show 0 < pen.scale.x ∧ 0 < pen.scale.y
    rw [hscale]
    exact ⟨one_pos, one_pos⟩
  have hpos : (pen.movedTo ⟨x, y⟩).position = some ⟨x, y⟩ := rfl
  have hrun := run_stations hpos hextent his
  simp only [hmoved] at hrun
  have hfigure : (pen.draw (.moveTo x y :: is)).vertices = ⟨x, y⟩ :: qs := by
    refine Path.vertices_eq ?_
    show some (pen.toBox ⟨x, y⟩) :: ((pen.movedTo ⟨x, y⟩).run is).2.map Command.endPoint? = _
    rw [hrun, hbox]
    rfl
  rw [vertices_draw_append, hfigure, vertices_draw_close, List.append_nil]

theorem stations_lines (p : Point ℝ) (points : List (ℝ × ℝ)) :
    stations p (points.map fun q => .lineTo q.1 q.2) = some (points.map fun q => ⟨q.1, q.2⟩) := by
  induction points generalizing p with
  | nil => rfl
  | cons q points ih => rw [List.map_cons, stations_lineTo, ih, Option.map_some, List.map_cons]

/-- The vertices of a polygon are the points that it is drawn through. -/
theorem vertices_draw_polygon (hscale : pen.scale = ⟨1, 1⟩) (points : List (ℝ × ℝ)) :
    (pen.draw (Instruction.polygon points)).vertices = points.map fun q => ⟨q.1, q.2⟩ := by
  cases points with
  | nil => rfl
  | cons p points => exact vertices_draw_figure hscale p.1 p.2 (stations_lines _ points)

theorem run_polygon_scale (pen : Pen ℝ) (points : List (ℝ × ℝ)) :
    (pen.run (Instruction.polygon points)).1.scale = pen.scale := by
  refine pen.run_scale fun i hi => ?_
  cases points with
  | nil => cases hi
  | cons p points =>
    have hlines : ∀ i ∈ points.map fun q => Instruction.lineTo q.1 q.2, i.isDirect = true :=
      List.forall_mem_map.mpr fun _ _ => rfl
    have hall : ∀ i ∈ Instruction.polygon (p :: points), i.isDirect = true :=
      List.forall_mem_append.mpr
        ⟨List.forall_mem_cons.mpr ⟨rfl, hlines⟩, List.forall_mem_singleton.mpr rfl⟩
    exact hall i hi

/-- The vertices of polygons that are drawn one after the other. -/
theorem vertices_draw_polygons (hscale : pen.scale = ⟨1, 1⟩) (figures : List (List (ℝ × ℝ))) :
    (pen.draw (figures.flatMap Instruction.polygon)).vertices
      = figures.flatten.map fun q => ⟨q.1, q.2⟩ := by
  induction figures generalizing pen with
  | nil => rfl
  | cons points figures ih =>
    have hbehind := (pen.run_polygon_scale points).trans hscale
    rw [List.flatMap_cons, vertices_draw_append, vertices_draw_polygon hscale, ih hbehind,
      List.flatten_cons, List.map_append]

end Pen

namespace Path

@[simp] theorem vertices_polygon (points : List (ℝ × ℝ)) :
    (Path.polygon points).vertices = points.map fun q => ⟨q.1, q.2⟩ :=
  Pen.vertices_draw_polygon Pen.plain_scale points

/-- The vertices of a transposed path are the transposed ones. -/
theorem vertices_transposed (p : Path ℝ) :
    p.transposed.vertices = p.vertices.map Point.transpose := by
  have hend (c : Command ℝ) : c.transposed.endPoint? = c.endPoint?.map Point.transpose := by
    cases c with
    | arcTo a => exact congrArg some (a.pointAt_transposed a.stop)
    | _ => rfl
  rw [vertices, vertices, List.map_filterMap, transposed, List.filterMap_map]
  exact List.filterMap_congr fun c _ => hend c

end Path

/-- The four quarters of a circle, of which one without an extent has nothing but its centre. -/
theorem arcTarget_circle_forth {r : ℝ} (hr : 0 ≤ r) :
    (∀ p, arcTarget p r r 0 90 = ⟨p.x - r, p.y + r⟩) ∧
      (∀ p, arcTarget p r r 90 90 = ⟨p.x - r, p.y - r⟩) ∧
      (∀ p, arcTarget p r r 180 90 = ⟨p.x + r, p.y - r⟩) ∧
      ∀ p, arcTarget p r r 270 90 = ⟨p.x + r, p.y + r⟩ := by
  rcases hr.eq_or_lt with rfl | hpos
  · -- the pen does not move along an arc without radii
    have hstays := arcTarget_of_not_pos fun hradii : (0 : ℝ) < 0 ∧ (0 : ℝ) < 0 => hradii.1.false
    simp [hstays]
  · exact arcTarget_quarters_forth hpos hpos

/-- Quarter turns of circles, forth and back. -/
theorem arcTarget_circle {r : ℝ} (hr : 0 ≤ r) :
    (∀ p, arcTarget p r r 180 90 = ⟨p.x + r, p.y - r⟩) ∧
      (∀ p, arcTarget p r r 270 90 = ⟨p.x + r, p.y + r⟩) ∧
      (∀ p, arcTarget p r r 0 (-90) = ⟨p.x - r, p.y - r⟩) ∧
      ∀ p, arcTarget p r r 270 (-90) = ⟨p.x - r, p.y + r⟩ := by
  obtain ⟨-, -, hleft, hup⟩ := arcTarget_circle_forth hr
  refine ⟨hleft, hup, ?_⟩
  rcases hr.eq_or_lt with rfl | hpos
  · have hstays := arcTarget_of_not_pos fun hradii : (0 : ℝ) < 0 ∧ (0 : ℝ) < 0 => hradii.1.false
    simp [hstays]
  · obtain ⟨hright', -, -, hup'⟩ := arcTarget_quarters_back hpos hpos
    exact ⟨hright', hup'⟩

/-! ## Lengths along a side -/

/-- The length fits into a side, or the coordinate lies along it. -/
def Fits (x s : ℝ) : Prop := 0 ≤ x ∧ x ≤ s

section

variable {x y s : ℝ}

@[simp] theorem fits_zero_iff : Fits 0 s ↔ 0 ≤ s := and_iff_right le_rfl

@[simp] theorem fits_self_iff : Fits s s ↔ 0 ≤ s := and_iff_left le_rfl

@[simp] theorem fits_half_iff : Fits (s / 2) s ↔ 0 ≤ s := by
  unfold Fits
  constructor
  · rintro ⟨hlo, -⟩
    linarith
  · intro hs
    constructor <;> linarith

theorem Fits.trans (hx : Fits x y) (hy : y ≤ s) : Fits x s := ⟨hx.1, hx.2.trans hy⟩

/-- What is left of a side. -/
theorem Fits.rest (hx : Fits x s) : Fits (s - x) s := ⟨sub_nonneg.mpr hx.2, sub_le_self s hx.1⟩

/-- As far from the middle of a side in either direction. -/
theorem Fits.around_center (hx : Fits x (s / 2)) : Fits (s / 2 - x) s ∧ Fits (s / 2 + x) s := by
  obtain ⟨hlo, hhi⟩ := hx
  refine ⟨⟨?_, ?_⟩, ⟨?_, ?_⟩⟩ <;> linarith

end

/-! ## Paths in a box -/

/-- The point is in a box, inside or on its sides. -/
def Point.InBox (p : Point ℝ) (w h : ℝ) : Prop := Fits p.x w ∧ Fits p.y h

@[simp] theorem Point.inBox_mk {x y w h : ℝ} :
    (⟨x, y⟩ : Point ℝ).InBox w h ↔ Fits x w ∧ Fits y h := Iff.rfl

/-- The vertices of the path are in a box and reach all of its sides. -/
structure Path.Spans (p : Path ℝ) (w h : ℝ) : Prop where
  inBox : ∀ v ∈ p.vertices, v.InBox w h
  left : ∃ v ∈ p.vertices, v.x = 0
  right : ∃ v ∈ p.vertices, v.x = w
  top : ∃ v ∈ p.vertices, v.y = 0
  bottom : ∃ v ∈ p.vertices, v.y = h

namespace Path

variable {w h : ℝ} {p : Path ℝ}

/-- A path that spans a box spans the box with exchanged axes when it is transposed. -/
theorem Spans.transposed (hp : p.Spans w h) : p.transposed.Spans h w := by
  have hmem {v : Point ℝ} (hv : v ∈ p.vertices) : v.transpose ∈ p.transposed.vertices := by
    rw [vertices_transposed]
    exact List.mem_map_of_mem hv
  constructor
  case inBox =>
    rw [vertices_transposed]
    exact List.forall_mem_map.mpr fun v hv => (hp.inBox v hv).symm
  case left =>
    obtain ⟨v, hv, hy⟩ := hp.top
    exact ⟨_, hmem hv, hy⟩
  case right =>
    obtain ⟨v, hv, hy⟩ := hp.bottom
    exact ⟨_, hmem hv, hy⟩
  case top =>
    obtain ⟨v, hv, hx⟩ := hp.left
    exact ⟨_, hmem hv, hx⟩
  case bottom =>
    obtain ⟨v, hv, hx⟩ := hp.right
    exact ⟨_, hmem hv, hx⟩

end Path

end ShapeOutline
