import Mathlib
import ShapeOutline.Marker
import ShapeOutline.Proofs.Path.Trace

/-!
# Directions in a mirror

Flipping a path inside its box mirrors its points and the directions in which it leaves its first point
and arrives at its end. There is one exception. The way along an arc is told from the order of its
angles, and an arc whose angles agree counts as clockwise: it stays clockwise in a mirror, so that its
directions come out reversed when exactly one axis is flipped.

* `Point.flipped`, `Point.reflected`: a position and a displacement in a flipped box;
* `Command.stalls`, `Path.stallsAt`: the arcs that go nowhere, at an end of a path;
* `Command.leaving_mapped`, `Command.arriving_mapped`: directions of single commands;
* `Path.startDirection_flipped`, `Path.endDirection_flipped`: directions at the ends of a path.
-/

namespace ShapeOutline

/-! ## Positions and displacements -/

namespace Point

section

variable {α : Type} [Scalar α]

/-- A position, flipped inside a box. -/
def flipped (w h : α) (horizontally vertically : Bool) (p : Point α) : Point α :=
  ⟨if horizontally then w - p.x else p.x, if vertically then h - p.y else p.y⟩

/-- A displacement, reflected in the flipped axes. -/
def reflected (horizontally vertically : Bool) (d : Point α) : Point α :=
  ⟨if horizontally then -d.x else d.x, if vertically then -d.y else d.y⟩

/-- A displacement, turned round if asked. -/
def turned (back : Bool) (d : Point α) : Point α := if back then -d else d

theorem neg_mk (x y : α) : -(⟨x, y⟩ : Point α) = ⟨-x, -y⟩ := rfl

end

/-- The scale of a map that flips axes. -/
noncomputable def signs (horizontally vertically : Bool) : Point ℝ :=
  ⟨if horizontally then -1 else 1, if vertically then -1 else 1⟩

/-- The offset of a map that flips axes inside a box. -/
noncomputable def corner (w h : ℝ) (horizontally vertically : Bool) : Point ℝ :=
  ⟨if horizontally then w else 0, if vertically then h else 0⟩

variable (w h : ℝ) (a b : Bool)

theorem map_signs (p : Point ℝ) : p.map (signs a b) (corner w h a b) = p.flipped w h a b := by
  ext
  · show p.x * (if a then (-1 : ℝ) else 1) + (if a then w else 0) = if a then w - p.x else p.x
    split <;> ring
  · show p.y * (if b then (-1 : ℝ) else 1) + (if b then h else 0) = if b then h - p.y else p.y
    split <;> ring

theorem flipped_sub (p q : Point ℝ) :
    p.flipped w h a b - q.flipped w h a b = (p - q).reflected a b := by
  ext
  · show (if a then w - p.x else p.x) - (if a then w - q.x else q.x)
      = if a then -(p.x - q.x) else p.x - q.x
    split <;> ring
  · show (if b then h - p.y else p.y) - (if b then h - q.y else q.y)
      = if b then -(p.y - q.y) else p.y - q.y
    split <;> ring

theorem reflected_origin : (origin : Point ℝ).reflected a b = origin := by
  unfold reflected origin
  rw [Exact.literal_zero]
  simp only [neg_zero, ite_self]

theorem neg_origin : -(origin : Point ℝ) = origin := by
  unfold origin
  rw [Exact.literal_zero]
  exact congrArg₂ mk neg_zero neg_zero

theorem turned_origin : (origin : Point ℝ).turned a = origin := by
  unfold turned
  split
  · exact neg_origin
  · rfl

theorem normSquared_reflected (d : Point ℝ) : (d.reflected a b).normSquared = d.normSquared := by
  show (if a then -d.x else d.x) * (if a then -d.x else d.x)
      + (if b then -d.y else d.y) * (if b then -d.y else d.y) = d.x * d.x + d.y * d.y
  split <;> split <;> ring

theorem normSquared_turned (d : Point ℝ) : (d.turned a).normSquared = d.normSquared := by
  unfold turned
  split
  · show -d.x * -d.x + -d.y * -d.y = d.x * d.x + d.y * d.y
    ring
  · rfl

theorem reflected_times (d : Point ℝ) (k : ℝ) :
    (d.reflected a b).times k = (d.times k).reflected a b := by
  ext
  · show (if a then -d.x else d.x) * k = if a then -(d.x * k) else d.x * k
    split <;> ring
  · show (if b then -d.y else d.y) * k = if b then -(d.y * k) else d.y * k
    split <;> ring

theorem turned_times (d : Point ℝ) (k : ℝ) : (d.turned a).times k = (d.times k).turned a := by
  unfold turned
  split
  · exact congrArg₂ mk (neg_mul _ _) (neg_mul _ _)
  · rfl

/-- What keeps the length of a displacement and commutes with multiples of it keeps whether it has a
direction. -/
theorem unit?_of_norm {f : Point ℝ → Point ℝ} {d : Point ℝ}
    (hnorm : (f d).normSquared = d.normSquared) (htimes : ∀ k, (f d).times k = f (d.times k)) :
    (f d).unit? = d.unit?.map f := by
  unfold unit? norm
  rw [hnorm]
  dsimp only
  split
  · exact congrArg some (htimes _)
  · rfl

theorem unit?_reflected (d : Point ℝ) : (d.reflected a b).unit? = d.unit?.map (reflected a b) :=
  unit?_of_norm (d.normSquared_reflected a b) (d.reflected_times a b)

theorem unit?_turned (d : Point ℝ) : (d.turned a).unit? = d.unit?.map (turned a) :=
  unit?_of_norm (d.normSquared_turned a) (d.turned_times a)

end Point

/-! ## Arcs -/

/-- Whether the command is an arc that goes nowhere. -/
def Command.stalls {α : Type} [Scalar α] : Command α → Bool
  | .arcTo a => a.start == a.stop
  | _ => false

namespace Arc

open Point (signs)

variable (f v : Bool)

theorem signs_x_neg_iff : (signs f v).x < 0 ↔ f = true := by
  cases f <;> norm_num [signs]

theorem signs_y_neg_iff : (signs f v).y < 0 ↔ v = true := by
  cases v <;> norm_num [signs]

/-- One flip reverses the order of angles, and two keep it. -/
theorem reflectAngle_le_iff (x y : ℝ) :
    reflectAngle (signs f v) x ≤ reflectAngle (signs f v) y ↔ if f = v then x ≤ y else y ≤ x := by
  unfold reflectAngle
  rw [Exact.literal_zero, Exact.literal_eq]
  simp only [signs_x_neg_iff, signs_y_neg_iff]
  cases f <;> cases v <;>
    simp only [Bool.false_eq_true, Bool.true_eq_false, if_true, if_false, neg_le_neg_iff] <;>
    constructor <;> intro <;> linarith

/-- The way along an arc: clockwise unless its stop comes before its start. -/
noncomputable def sense (a : Arc ℝ) : ℝ := if a.start ≤ a.stop then 1 else -1

theorem arcTangent_eq (a : Arc ℝ) (deg : ℝ) :
    Command.arcTangent a deg
      = ⟨-a.rx * (sinCos deg).1 * a.sense, a.ry * (sinCos deg).2 * a.sense⟩ := by
  unfold Command.arcTangent sense
  rw [Exact.literal_eq, Nat.cast_one]
  rfl

/-- An arc is travelled the other way round in a mirror, if it is travelled at all. -/
theorem sense_mapped (a : Arc ℝ) (offset : Point ℝ) :
    (a.mapped (signs f v) offset).sense
      = if f = v ∨ a.start = a.stop then a.sense else -a.sense := by
  have hle := reflectAngle_le_iff f v a.start a.stop
  show (if reflectAngle (signs f v) a.start ≤ reflectAngle (signs f v) a.stop then (1 : ℝ) else -1)
    = _
  rw [if_congr hle rfl rfl]
  unfold sense
  rcases lt_trichotomy a.start a.stop with hlt | heq | hgt
  · by_cases hfv : f = v
    · simp [hfv]
    · simp [hfv, hlt.le, hlt.ne, hlt.not_ge]
  · simp [heq]
  · by_cases hfv : f = v
    · simp [hfv]
    · simp [hfv, hgt.le, hgt.ne', hgt.not_ge]

/-- The image of an arc is travelled in the mirrored direction, or in the opposite one when the arc
goes nowhere and one axis is flipped. -/
theorem arcTangent_mapped (a : Arc ℝ) (offset : Point ℝ) (deg : ℝ) :
    Command.arcTangent (a.mapped (signs f v) offset) (reflectAngle (signs f v) deg)
      = ((Command.arcTangent a deg).reflected f v).turned (a.start == a.stop && f != v) := by
  have habs_x : |(signs f v).x| = 1 := by cases f <;> simp [signs]
  have habs_y : |(signs f v).y| = 1 := by cases v <;> simp [signs]
  have hstalls : (a.start == a.stop) = decide (a.start = a.stop) := rfl
  rw [arcTangent_eq, arcTangent_eq, sense_mapped, sinCos_reflectAngle, hstalls]
  simp only [signs_x_neg_iff, signs_y_neg_iff]
  show Point.mk (-(a.rx * |(signs f v).x|) * _ * _) (a.ry * |(signs f v).y| * _ * _) = _
  rw [habs_x, habs_y]
  unfold Point.reflected Point.turned
  -- the signs of sine and cosine and that of the way along the arc
  by_cases hstop : a.start = a.stop
  · cases f <;> cases v <;> simp [hstop, Point.neg_mk]
  · cases f <;> cases v <;> simp [hstop]

end Arc

/-! ## Commands -/

namespace Command

open Point (signs corner flipped reflected turned)

variable (w h : ℝ) (a b : Bool)

/-- The first displacement that is not negligible is so in a mirror. -/
theorem firstProper_reflected (ds : List (Point ℝ)) :
    firstProper (ds.map (reflected a b)) = (firstProper ds).reflected a b := by
  unfold firstProper
  rw [List.find?_map]
  have hlong : ((fun d : Point ℝ => decide (Scalar.tolerance * Scalar.tolerance < d.normSquared))
      ∘ reflected a b) = fun d => decide (Scalar.tolerance * Scalar.tolerance < d.normSquared) := by
    funext d
    exact congrArg (fun n => decide (Scalar.tolerance * Scalar.tolerance < n))
      (d.normSquared_reflected a b)
  rw [hlong]
  cases ds.find? fun d => decide (Scalar.tolerance * Scalar.tolerance < d.normSquared) with
  | none => exact (Point.reflected_origin a b).symm
  | some d => rfl

/-- A flipped command leaves the flipped pen in the mirrored direction. -/
theorem leaving_mapped (pen : Point ℝ) (c : Command ℝ) :
    (c.mapped (signs a b) (corner w h a b)).leaving (pen.flipped w h a b)
      = ((c.leaving pen).reflected a b).turned (c.stalls && a != b) := by
  cases c with
  | moveTo p => exact ((congrArg _ (Point.reflected_origin a b)).trans (Point.turned_origin _)).symm
  | lineTo p =>
    show p.map _ _ - _ = (p - pen).reflected a b
    rw [Point.map_signs, Point.flipped_sub]
  | cubicTo c1 c2 p =>
    show firstProper [c1.map _ _ - _, c2.map _ _ - _, p.map _ _ - _] = _
    rw [Point.map_signs, Point.map_signs, Point.map_signs, Point.flipped_sub, Point.flipped_sub,
      Point.flipped_sub]
    exact firstProper_reflected a b [c1 - pen, c2 - pen, p - pen]
  | arcTo c => exact c.arcTangent_mapped a b _ c.start
  | close => exact ((congrArg _ (Point.reflected_origin a b)).trans (Point.turned_origin _)).symm

/-- A flipped command, begun at the flipped pen, arrives in the mirrored direction. -/
theorem arriving_mapped (pen : Point ℝ) (c : Command ℝ) :
    (c.mapped (signs a b) (corner w h a b)).arriving (pen.flipped w h a b)
      = ((c.arriving pen).reflected a b).turned (c.stalls && a != b) := by
  cases c with
  | moveTo p => exact ((congrArg _ (Point.reflected_origin a b)).trans (Point.turned_origin _)).symm
  | lineTo p =>
    show p.map _ _ - _ = (p - pen).reflected a b
    rw [Point.map_signs, Point.flipped_sub]
  | cubicTo c1 c2 p =>
    show firstProper [p.map _ _ - c2.map _ _, p.map _ _ - c1.map _ _, p.map _ _ - _] = _
    rw [Point.map_signs, Point.map_signs, Point.map_signs, Point.flipped_sub, Point.flipped_sub,
      Point.flipped_sub]
    exact firstProper_reflected a b [p - c2, p - c1, p - pen]
  | arcTo c => exact c.arcTangent_mapped a b _ c.stop
  | close => exact ((congrArg _ (Point.reflected_origin a b)).trans (Point.turned_origin _)).symm

end Command

/-! ## The ends of a path -/

/-- Whether the path leaves its first point, or arrives at its end, along an arc that goes nowhere. -/
def Path.stallsAt {α : Type} [Scalar α] (p : Path α) : PathEnd → Bool
  | .head => (p.commands[1]?).any Command.stalls
  | .tail => p.commands.getLast?.any Command.stalls

open Point (signs corner)

variable (w h : ℝ) (a b : Bool)

/-- Without a flip nothing is changed. -/
theorem Command.mapped_signs_false (c : Command ℝ) :
    c.mapped (signs false false) (corner w h false false) = c := by
  have hpoint : ∀ p : Point ℝ, p.map (signs false false) (corner w h false false) = p :=
    fun p => p.map_signs w h false false
  cases c with
  | moveTo p => exact congrArg moveTo (hpoint p)
  | lineTo p => exact congrArg lineTo (hpoint p)
  | cubicTo c1 c2 p => rw [mapped, hpoint, hpoint, hpoint]
  | arcTo c =>
    have hangle : ∀ deg : ℝ, Arc.reflectAngle (signs false false) deg = deg := by
      intro deg
      unfold Arc.reflectAngle
      rw [Exact.literal_zero]
      simp only [Arc.signs_x_neg_iff, Arc.signs_y_neg_iff, Bool.false_eq_true, if_false]
    have hradius : ∀ r : ℝ, r * |(1 : ℝ)| = r := fun r => by rw [abs_one, mul_one]
    rw [mapped, Arc.mapped, hpoint, hangle, hangle]
    exact congrArg arcTo (congrArg₂ (fun rx ry => Arc.mk c.center rx ry c.start c.stop)
      (hradius c.rx) (hradius c.ry))
  | close => rfl

namespace Path

variable (p : Path ℝ)

/-- Flipping maps every command. -/
theorem flipped_commands :
    (p.flipped w h a b).commands = p.commands.map (Command.mapped (signs a b) (corner w h a b)) := by
  have hone : @OfNat.ofNat ℝ 1 (Scalar.literal 1) = 1 := Nat.cast_one
  unfold flipped
  split
  · next hfalse =>
    obtain ⟨rfl, rfl⟩ : a = false ∧ b = false := by simpa using hfalse
    rw [List.map_congr_left fun c _ => c.mapped_signs_false w h, List.map_id']
  · rw [hone, Exact.literal_zero]
    rfl

theorem flipped_carries :
    Command.Carries (Point.flipped w h a b) (Command.mapped (signs a b) (corner w h a b)) := by
  have hmap : (fun p : Point ℝ => p.map (signs a b) (corner w h a b)) = Point.flipped w h a b :=
    funext fun p => p.map_signs w h a b
  rw [← hmap]
  exact Command.mapped_carries _ _

theorem flipped_trail :
    p.trail.Follows (Point.flipped w h a b) (p.flipped w h a b).trail := by
  have htrail := (flipped_carries w h a b).trail_follows p.commands
  rw [← flipped_commands] at htrail
  exact htrail

theorem startPoint_flipped :
    (p.flipped w h a b).startPoint = p.startPoint.map (Point.flipped w h a b) := by
  unfold startPoint
  rw [flipped_commands, List.findSome?_map, List.map_findSome?]
  congr 1
  funext c
  obtain ⟨hmove, hline, hcubic, harc, -⟩ := flipped_carries w h a b
  cases c with
  | moveTo q => exact congrArg Command.endPoint? (hmove q)
  | lineTo q => exact congrArg Command.endPoint? (hline q)
  | cubicTo c1 c2 q =>
    obtain ⟨d1, d2, hq⟩ := hcubic c1 c2 q
    exact congrArg Command.endPoint? hq
  | arcTo c =>
    obtain ⟨d, hd, -, hstop⟩ := harc c
    exact (congrArg Command.endPoint? hd).trans (congrArg some hstop)
  | close => rfl

theorem endPoint_flipped :
    (p.flipped w h a b).endPoint = p.endPoint.map (Point.flipped w h a b) :=
  (p.flipped_trail w h a b).pen

/-- A flipped path leaves its first point in the mirrored direction, unless it leaves along an arc that
goes nowhere. -/
theorem startDirection_flipped :
    (p.flipped w h a b).startDirection
      = p.startDirection.map fun d =>
          (d.reflected a b).turned (p.stallsAt .head && a != b) := by
  unfold startDirection stallsAt
  rw [flipped_commands]
  match p.commands with
  | [] => rfl
  | [c] => cases c <;> rfl
  | .moveTo q :: c :: _ =>
    show ((c.mapped _ _).leaving (q.map _ _)).unit? = _
    rw [Point.map_signs, Command.leaving_mapped, Point.unit?_turned, Point.unit?_reflected,
      Option.map_map]
    rfl
  | .lineTo _ :: _ :: _ => rfl
  | .cubicTo _ _ _ :: _ :: _ => rfl
  | .arcTo _ :: _ :: _ => rfl
  | .close :: _ :: _ => rfl

/-- The last way of travel of a pen that is down, in a mirror. -/
theorem heading_mapped {t u : Trail ℝ} (ht : t.IsDown) (htu : t.Follows (Point.flipped w h a b) u)
    (c : Command ℝ) :
    (u.step (c.mapped (signs a b) (corner w h a b))).heading
      = (t.step c).heading.map fun d => (d.reflected a b).turned (c.stalls && a != b) := by
  obtain ⟨q, hq⟩ := Option.isSome_iff_exists.mp ht.pen
  obtain ⟨s, hs⟩ := Option.isSome_iff_exists.mp ht.start
  have hpen : u.pen = some (q.flipped w h a b) := by rw [htu.pen, hq]; rfl
  have hstart : u.start = some (s.flipped w h a b) := by rw [htu.start, hs]; rfl
  have harriving : (c.mapped (signs a b) (corner w h a b)).arriving (u.pen.getD Point.origin)
      = ((c.arriving (t.pen.getD Point.origin)).reflected a b).turned (c.stalls && a != b) := by
    rw [hpen, hq]
    exact c.arriving_mapped w h a b q
  cases c with
  | moveTo p => rfl
  | close =>
    show some (u.start.getD _ - u.pen.getD _) = some ((t.start.getD _ - t.pen.getD _).reflected a b)
    rw [hpen, hstart, hq, hs]
    exact congrArg some (s.flipped_sub w h a b q)
  | _ => exact congrArg some harriving

/-- A flipped path that begins with a move arrives at its end in the mirrored direction, unless it
arrives along an arc that goes nowhere. -/
theorem endDirection_flipped {p : Path ℝ}
    (hp : p.commands = [] ∨ ∃ q rest, p.commands = .moveTo q :: rest) :
    (p.flipped w h a b).endDirection
      = p.endDirection.map fun d => (d.reflected a b).turned (p.stallsAt .tail && a != b) := by
  unfold endDirection stallsAt
  rcases hp with hnil | ⟨q, rest, hmove⟩
  · rw [trail, trail, flipped_commands, hnil]
    rfl
  rcases List.eq_nil_or_concat rest with rfl | ⟨cs, c, rfl⟩
  · -- a lone move goes nowhere
    rw [trail, trail, flipped_commands, hmove]
    rfl
  · -- only the last command counts, which begins with the pen down
    rw [List.concat_eq_append, ← List.cons_append] at hmove
    have hbefore := (flipped_carries w h a b).trail_follows (.moveTo q :: cs)
    have hheading := heading_mapped w h a b (Trail.IsDown.of_move q cs) hbefore c
    have htrail : p.trail = (mk (.moveTo q :: cs)).trail.step c := by
      rw [trail, hmove, List.foldl_concat]
      rfl
    have htrail' : (p.flipped w h a b).trail
        = (mk ((.moveTo q :: cs).map (Command.mapped (signs a b) (corner w h a b)))).trail.step
          (c.mapped (signs a b) (corner w h a b)) := by
      rw [trail, flipped_commands, hmove, List.map_append, List.map_singleton, List.foldl_concat]
      rfl
    rw [htrail', hheading, htrail, hmove, List.getLast?_concat, Option.bind_map, Option.map_bind]
    congr 1
    funext d
    show ((d.reflected a b).turned _).unit? = _
    rw [Point.unit?_turned, Point.unit?_reflected, Option.map_map]
    rfl

end Path

end ShapeOutline
