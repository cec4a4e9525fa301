import Mathlib
import ShapeOutline.Proofs.Path.Continuity

/-!
# The drawn curve

A command draws a curve from where the pen is. A share of the way along it, the curve is at a point:
between the two ends of a line or a close, on the Bézier curve of a cubic, on the ellipse of an arc.
Maps of paths take the points of the curve to their images, and keep how far along the curve they are.

* `Point.between`, `Point.bezier`: the points of lines and of cubic curves;
* `Command.trace`, `Path.trace`: the point that a command reaches after a share of its way;
* `Path.exists_trace`: what begins with a move has such points everywhere;
* `Command.Carries.trace`: a change of commands that follows a map of the plane within commands
  follows it within paths;
* `Path.trace_maps`: stretching, mirroring, shifting and transposing act on the drawn curve.
-/

namespace ShapeOutline

/-! ## The points of a command -/

namespace Point

/-- The point a share `t` of the way from `p` to `q`. -/
noncomputable def between (p q : Point ℝ) (t : ℝ) : Point ℝ := p + (q - p).times t

/-- The point of the cubic Bézier curve from `p` to `q` with the control points `c1` and `c2`. -/
noncomputable def bezier (p c1 c2 q : Point ℝ) (t : ℝ) : Point ℝ :=
  p.times ((1 - t) ^ 3) + c1.times (3 * (1 - t) ^ 2 * t) + c2.times (3 * (1 - t) * t ^ 2) +
    q.times (t ^ 3)

variable (p q c1 c2 scale offset : Point ℝ) (t : ℝ)

theorem between_map :
    (p.map scale offset).between (q.map scale offset) t = (p.between q t).map scale offset := by
  ext
  · show p.x * scale.x + offset.x + (q.x * scale.x + offset.x - (p.x * scale.x + offset.x)) * t
      = (p.x + (q.x - p.x) * t) * scale.x + offset.x
    ring
  · show p.y * scale.y + offset.y + (q.y * scale.y + offset.y - (p.y * scale.y + offset.y)) * t
      = (p.y + (q.y - p.y) * t) * scale.y + offset.y
    ring

/-- The weights of the four points add up to one, so that the offset comes out once. -/
theorem bezier_map :
    bezier (p.map scale offset) (c1.map scale offset) (c2.map scale offset) (q.map scale offset) t
      = (bezier p c1 c2 q t).map scale offset := by
  ext
  · show (p.x * scale.x + offset.x) * (1 - t) ^ 3
        + (c1.x * scale.x + offset.x) * (3 * (1 - t) ^ 2 * t)
        + (c2.x * scale.x + offset.x) * (3 * (1 - t) * t ^ 2)
        + (q.x * scale.x + offset.x) * t ^ 3
      = (p.x * (1 - t) ^ 3 + c1.x * (3 * (1 - t) ^ 2 * t) + c2.x * (3 * (1 - t) * t ^ 2)
        + q.x * t ^ 3) * scale.x + offset.x
    ring
  · show (p.y * scale.y + offset.y) * (1 - t) ^ 3
        + (c1.y * scale.y + offset.y) * (3 * (1 - t) ^ 2 * t)
        + (c2.y * scale.y + offset.y) * (3 * (1 - t) * t ^ 2)
        + (q.y * scale.y + offset.y) * t ^ 3
      = (p.y * (1 - t) ^ 3 + c1.y * (3 * (1 - t) ^ 2 * t) + c2.y * (3 * (1 - t) * t ^ 2)
        + q.y * t ^ 3) * scale.y + offset.y
    ring

end Point

/-- The angle a share `t` of the way along an arc. -/
noncomputable def Arc.angleAt (a : Arc ℝ) (t : ℝ) : ℝ := a.start + t * (a.stop - a.start)

namespace Arc

variable (a : Arc ℝ) (t : ℝ)

/-- The image of an arc is travelled in the same time: its angles are reflected evenly. -/
theorem angleAt_mapped (scale offset : Point ℝ) :
    (a.mapped scale offset).angleAt t = reflectAngle scale (a.angleAt t) := by
  show reflectAngle scale a.start + t * (reflectAngle scale a.stop - reflectAngle scale a.start)
    = reflectAngle scale (a.start + t * (a.stop - a.start))
  unfold reflectAngle
  dsimp only
  -- each reflection takes an angle to a constant minus or plus it
  split <;> split <;> ring

theorem angleAt_transposed : a.transposed.angleAt t = 90 - a.angleAt t := by
  show 90 - a.start + t * (90 - a.stop - (90 - a.start)) = 90 - (a.start + t * (a.stop - a.start))
  ring

end Arc

namespace Command

/-- The point that a command reaches after a share `t` of its way, begun where `before` leaves the
pen. A move is at its point. Without a pen nothing is drawn. -/
noncomputable def trace (before : Trail ℝ) (t : ℝ) : Command ℝ → Option (Point ℝ)
  | moveTo p => some p
  | lineTo p => before.pen.map fun q => q.between p t
  | cubicTo c1 c2 p => before.pen.map fun q => q.bezier c1 c2 p t
  | arcTo a => some (a.pointAt (a.angleAt t))
  | close => before.pen.bind fun q => before.start.map fun s => q.between s t

variable {before after : Trail ℝ}

theorem trace_mapped {scale offset : Point ℝ}
    (h : before.Follows (fun p => p.map scale offset) after) (t : ℝ) (c : Command ℝ) :
    (c.mapped scale offset).trace after t
      = (c.trace before t).map fun p => p.map scale offset := by
  cases c with
  | moveTo p => rfl
  | lineTo p =>
    rw [mapped, trace, trace, h.pen, Option.map_map, Option.map_map]
    exact congrArg (fun f => before.pen.map f) (funext fun q => q.between_map p scale offset t)
  | cubicTo c1 c2 p =>
    rw [mapped, trace, trace, h.pen, Option.map_map, Option.map_map]
    exact congrArg (fun f => before.pen.map f)
      (funext fun q => q.bezier_map p c1 c2 scale offset t)
  | arcTo a =>
    rw [mapped, trace, trace, a.angleAt_mapped, a.pointAt_mapped]
    rfl
  | close =>
    rw [mapped, trace, trace, h.pen, h.start]
    cases before.pen with
    | none => rfl
    | some q =>
      cases before.start with
      | none => rfl
      | some s => exact congrArg some (q.between_map s scale offset t)

theorem trace_transposed (h : before.Follows Point.transpose after) (t : ℝ) (c : Command ℝ) :
    c.transposed.trace after t = (c.trace before t).map Point.transpose := by
  cases c with
  | moveTo p => rfl
  | lineTo p =>
    rw [transposed, trace, trace, h.pen, Option.map_map, Option.map_map]
    rfl
  | cubicTo c1 c2 p =>
    rw [transposed, trace, trace, h.pen, Option.map_map, Option.map_map]
    rfl
  | arcTo a =>
    rw [transposed, trace, trace, a.angleAt_transposed, a.pointAt_transposed]
    rfl
  | close =>
    rw [transposed, trace, trace, h.pen, h.start]
    cases before.pen <;> cases before.start <;> rfl

end Command

/-! ## The points of a path -/

/-- The trail of a path whose commands were changed follows that of the path. -/
theorem Command.Carries.trail_follows {m : Point ℝ → Point ℝ} {g : Command ℝ → Command ℝ}
    (h : Command.Carries m g) (cs : List (Command ℝ)) :
    (Path.mk cs).trail.Follows m (Path.mk (cs.map g)).trail := by
  unfold Path.trail
  -- from the end, where the trail is one step from that of what stands before
  induction cs using List.reverseRecOn with
  | nil => exact ⟨rfl, rfl⟩
  | append_singleton cs c ih =>
    rw [List.map_append, List.map_singleton, List.foldl_concat, List.foldl_concat]
    exact h.step_follows ih c

namespace Path

/-- The point that the command with index `i` reaches after a share `t` of its way. -/
noncomputable def trace (p : Path ℝ) (i : ℕ) (t : ℝ) : Option (Point ℝ) :=
  p.commands[i]?.bind fun c => c.trace (mk (p.commands.take i)).trail t

end Path

/-- Where a change of commands follows a map of the plane along each command, it does so along each
path. -/
theorem Command.Carries.trace {m : Point ℝ → Point ℝ} {g : Command ℝ → Command ℝ}
    (h : Command.Carries m g)
    (htrace : ∀ {before after : Trail ℝ}, before.Follows m after → ∀ (t : ℝ) (c : Command ℝ),
      (g c).trace after t = (c.trace before t).map m)
    (p : Path ℝ) (i : ℕ) (t : ℝ) :
    (Path.mk (p.commands.map g)).trace i t = (p.trace i t).map m := by
  show ((p.commands.map g)[i]?).bind _ = ((p.commands[i]?).bind _).map m
  rw [List.getElem?_map]
  cases p.commands[i]? with
  | none => rfl
  | some c =>
    show (g c).trace (Path.mk ((p.commands.map g).take i)).trail t = _
    rw [← List.map_take]
    exact htrace (h.trail_follows _) t c

/-- Once the pen is down it has a position, and its subpath a beginning. -/
structure Trail.IsDown {α : Type} (t : Trail α) : Prop where
  pen : t.pen.isSome = true
  start : t.start.isSome = true

namespace Trail.IsDown

variable {α : Type} [Scalar α]

theorem step {t : Trail α} (h : t.IsDown) (c : Command α) : (t.step c).IsDown := by
  cases c with
  | moveTo p => exact ⟨rfl, rfl⟩
  | close => exact ⟨h.start, h.start⟩
  | _ => exact ⟨rfl, h.start⟩

theorem foldl {t : Trail α} (h : t.IsDown) (cs : List (Command α)) :
    (cs.foldl Trail.step t).IsDown := by
  induction cs generalizing t with
  | nil => exact h
  | cons c cs ih => exact ih (h.step c)

/-- The pen is down behind commands of which the first is a move. -/
theorem of_move (q : Point α) (rest : List (Command α)) :
    (Path.mk (.moveTo q :: rest)).trail.IsDown :=
  foldl ⟨rfl, rfl⟩ rest

/-- When the pen is down, every command draws. -/
theorem exists_trace {t : Trail ℝ} (h : t.IsDown) (share : ℝ) (c : Command ℝ) :
    ∃ z, c.trace t share = some z := by
  obtain ⟨q, hq⟩ := Option.isSome_iff_exists.mp h.pen
  obtain ⟨s, hs⟩ := Option.isSome_iff_exists.mp h.start
  cases c with
  | moveTo p => exact ⟨p, rfl⟩
  | lineTo p => exact ⟨_, by rw [Command.trace, hq]; rfl⟩
  | cubicTo c1 c2 p => exact ⟨_, by rw [Command.trace, hq]; rfl⟩
  | arcTo a => exact ⟨_, rfl⟩
  | close => exact ⟨_, by rw [Command.trace, hq, hs]; rfl⟩

end Trail.IsDown

namespace Path

/-- In a path that begins with a move, every command draws. -/
theorem exists_trace {p : Path ℝ} {q : Point ℝ} {rest : List (Command ℝ)}
    (hp : p.commands = .moveTo q :: rest) {i : ℕ} (hi : i < p.size) (t : ℝ) :
    ∃ z, p.trace i t = some z := by
  obtain ⟨c, hc⟩ : ∃ c, p.commands[i]? = some c := ⟨_, List.getElem?_eq_getElem hi⟩
  rw [trace, hc, Option.bind_some]
  rw [hp] at hc ⊢
  cases i with
  | zero =>
    -- the move itself, before which there is no pen
    rw [List.getElem?_cons_zero] at hc
    obtain rfl : Command.moveTo q = c := Option.some.inj hc
    exact ⟨q, rfl⟩
  | succ i =>
    rw [List.take_succ_cons]
    exact (Trail.IsDown.of_move q (rest.take i)).exists_trace t c

/-- Axis-aligned maps and transpositions act on the drawn curve, whatever the signs of the scale are:
the point that a command of the image reaches after a share of its way is the image of the point that
the command reaches after the same share. In a path that begins with a move there is such a point for
every command. -/
theorem trace_maps (p : Path ℝ) (scale offset : Point ℝ) (i : ℕ) (t : ℝ) :
    (p.mapped scale offset).trace i t = (p.trace i t).map (fun z => z.map scale offset) ∧
      p.transposed.trace i t = (p.trace i t).map Point.transpose ∧
      ((∃ q rest, p.commands = .moveTo q :: rest) → i < p.size → ∃ z, p.trace i t = some z) := by
  refine ⟨?_, ?_, ?_⟩
  · exact (Command.mapped_carries scale offset).trace Command.trace_mapped p i t
  · exact Command.transposed_carries.trace Command.trace_transposed p i t
  · rintro ⟨q, rest, hp⟩ hi
    exact exists_trace hp hi t

end Path

end ShapeOutline
