import Mathlib
import ShapeOutline.Path.Trail
import ShapeOutline.Path.Transform
import ShapeOutline.Proofs.Exact

/-!
# Paths whose arcs begin at the pen

The text of an arc names its radii and its end, not its beginning: it is drawn from wherever the pen
is. A path says the same as its text when each arc begins where the commands before it end.

* `Path.PenContinuous`: the path begins with a move, and its arcs begin at the pen;
* `Trail.Continues`: the same for commands drawn from any position, one command at a time;
* `Command.Carries`: a change of commands that follows a map of the plane;
* `PenContinuous.mapped`, `PenContinuous.transposed`, `PenContinuous.append`: what keeps it.
-/

namespace ShapeOutline

attribute [ext] Point

variable {α : Type} [Scalar α]

/-! ## One command at a time -/

/-- An arc begins at the pen; the other commands begin wherever the pen is. -/
def Command.BeginsAt (pen : Option (Point α)) : Command α → Prop
  | .arcTo a => pen = some a.startPoint
  | _ => True

/-- Each arc among the commands begins where the pen is when it is drawn. -/
def Trail.Continues : Trail α → List (Command α) → Prop
  | _, [] => True
  | t, c :: rest => c.BeginsAt t.pen ∧ (t.step c).Continues rest

/-- The pen never jumps: the path is empty or begins with a move, and each of its arcs begins where
the commands before it end. -/
structure Path.PenContinuous (p : Path α) : Prop where
  begins : p.commands = [] ∨ ∃ q rest, p.commands = .moveTo q :: rest
  meets : ∀ before a after, p.commands = before ++ .arcTo a :: after →
    (Path.mk before).endPoint = some a.startPoint

namespace Trail

theorem continues_append (t : Trail α) (cs ds : List (Command α)) :
    t.Continues (cs ++ ds) ↔ t.Continues cs ∧ (cs.foldl step t).Continues ds := by
  induction cs generalizing t with
  | nil => simp [Continues]
  | cons c cs ih =>
    rw [List.cons_append, Continues, Continues, ih, List.foldl_cons, and_assoc]

/-- Drawn from scratch, arcs begin at the pen exactly when each begins at the end of what stands
before it. -/
theorem continues_fresh_iff (cs : List (Command α)) :
    fresh.Continues cs ↔ ∀ before a after, cs = before ++ .arcTo a :: after →
      (Path.mk before).endPoint = some a.startPoint := by
  constructor
  · intro h before a after hcs
    rw [hcs, continues_append] at h
    exact h.2.1
  · intro h
    -- from the end, so that all that stands before the last command is at hand
    induction cs using List.reverseRecOn with
    | nil => trivial
    | append_singleton cs c ih =>
      rw [continues_append]
      refine ⟨ih fun before a after hcs => h before a (after ++ [c]) (by rw [hcs]; simp), ?_, trivial⟩
      cases c with
      | arcTo a => exact h cs a [] rfl
      | _ => trivial

/-- A move forgets where the pen was. -/
theorem continues_of_move {t u : Trail α} {q : Point α} {rest : List (Command α)}
    (h : t.Continues (.moveTo q :: rest)) : u.Continues (.moveTo q :: rest) := h

/-- Commands without arcs can be drawn from anywhere. -/
theorem continues_of_arcless (t : Trail α) {cs : List (Command α)}
    (h : ∀ c ∈ cs, ∀ pen, c.BeginsAt pen) : t.Continues cs := by
  induction cs generalizing t with
  | nil => trivial
  | cons c cs ih =>
    have hc : c.BeginsAt t.pen := h c List.mem_cons_self t.pen
    have hcs : (t.step c).Continues cs := ih _ fun d hd => h d (List.mem_cons_of_mem c hd)
    exact ⟨hc, hcs⟩

end Trail

namespace Path

theorem penContinuous_iff (p : Path α) :
    p.PenContinuous ↔
      (p.commands = [] ∨ ∃ q rest, p.commands = .moveTo q :: rest) ∧
        Trail.fresh.Continues p.commands := by
  rw [Trail.continues_fresh_iff]
  exact ⟨fun h => ⟨h.begins, h.meets⟩, fun h => ⟨h.1, h.2⟩⟩

theorem penContinuous_empty : (Path.empty : Path α).PenContinuous :=
  (penContinuous_iff _).mpr ⟨.inl rfl, trivial⟩

/-- A path of this kind can be drawn behind anything. -/
theorem PenContinuous.continues {p : Path α} (h : p.PenContinuous) (t : Trail α) :
    t.Continues p.commands := by
  obtain ⟨hbegins, hcontinues⟩ := (penContinuous_iff p).mp h
  rcases hbegins with hnil | ⟨q, rest, hmove⟩
  · rw [hnil]
    trivial
  · rw [hmove] at hcontinues ⊢
    exact Trail.continues_of_move hcontinues

omit [Scalar α] in
@[simp] theorem commands_append (p q : Path α) : (p ++ q).commands = p.commands ++ q.commands := rfl

/-- Paths drawn one after the other keep the pen. -/
theorem PenContinuous.append {p q : Path α} (hp : p.PenContinuous) (hq : q.PenContinuous) :
    (p ++ q).PenContinuous := by
  refine (penContinuous_iff _).mpr ⟨?_, ?_⟩
  · rw [commands_append]
    rcases hp.begins with hnil | ⟨r, rest, hmove⟩
    · rw [hnil, List.nil_append]
      exact hq.begins
    · rw [hmove, List.cons_append]
      exact .inr ⟨r, rest ++ q.commands, rfl⟩
  · rw [commands_append, Trail.continues_append]
    exact ⟨hp.continues _, hq.continues _⟩

end Path

/-! ## Maps of the plane -/

/-- The change `g` of commands follows the map `m` of the plane: it keeps what a command is and
takes the ends of the command to their images. -/
structure Command.Carries (m : Point α → Point α) (g : Command α → Command α) : Prop where
  moveTo : ∀ p, g (.moveTo p) = .moveTo (m p)
  lineTo : ∀ p, g (.lineTo p) = .lineTo (m p)
  cubicTo : ∀ c1 c2 p, ∃ d1 d2, g (.cubicTo c1 c2 p) = .cubicTo d1 d2 (m p)
  arcTo : ∀ a, ∃ b, g (.arcTo a) = .arcTo b ∧ b.startPoint = m a.startPoint ∧
    b.pointAt b.stop = m (a.pointAt a.stop)
  close : g .close = .close

/-- The pen of one trail, and where its subpath began, are the images of those of another. -/
structure Trail.Follows (m : Point α → Point α) (t u : Trail α) : Prop where
  pen : u.pen = t.pen.map m
  start : u.start = t.start.map m

namespace Command.Carries

variable {m : Point α → Point α} {g : Command α → Command α}

theorem step_follows (h : Carries m g) {t u : Trail α} (htu : t.Follows m u) (c : Command α) :
    (t.step c).Follows m (u.step (g c)) := by
  cases c with
  | moveTo p =>
    rw [h.moveTo]
    exact ⟨rfl, rfl⟩
  | lineTo p =>
    rw [h.lineTo]
    exact ⟨rfl, htu.start⟩
  | cubicTo c1 c2 p =>
    obtain ⟨d1, d2, hg⟩ := h.cubicTo c1 c2 p
    rw [hg]
    exact ⟨rfl, htu.start⟩
  | arcTo a =>
    obtain ⟨b, hg, -, hstop⟩ := h.arcTo a
    rw [hg]
    exact ⟨congrArg some hstop, htu.start⟩
  | close =>
    rw [h.close]
    exact ⟨htu.start, htu.start⟩

theorem beginsAt (h : Carries m g) {pen : Option (Point α)} {c : Command α}
    (hc : c.BeginsAt pen) : (g c).BeginsAt (pen.map m) := by
  cases c with
  | moveTo p =>
    rw [h.moveTo]
    trivial
  | lineTo p =>
    rw [h.lineTo]
    trivial
  | cubicTo c1 c2 p =>
    obtain ⟨d1, d2, hg⟩ := h.cubicTo c1 c2 p
    rw [hg]
    trivial
  | arcTo a =>
    obtain ⟨b, hg, hstart, -⟩ := h.arcTo a
    rw [hg]
    show pen.map m = some b.startPoint
    rw [show pen = some a.startPoint from hc, hstart]
    rfl
  | close =>
    rw [h.close]
    trivial

theorem continues (h : Carries m g) {t u : Trail α} (htu : t.Follows m u) {cs : List (Command α)}
    (hcs : t.Continues cs) : u.Continues (cs.map g) := by
  induction cs generalizing t u with
  | nil => trivial
  | cons c cs ih =>
    obtain ⟨hc, hrest⟩ := hcs
    have hstep : (t.step c).Follows m (u.step (g c)) := h.step_follows htu c
    have hbegins : (g c).BeginsAt u.pen := by
      rw [htu.pen]
      exact h.beginsAt hc
    exact ⟨hbegins, ih hstep hrest⟩

/-- A change of commands that follows a map of the plane keeps the pen from jumping. -/
theorem penContinuous (h : Carries m g) {p : Path α} (hp : p.PenContinuous) :
    (Path.mk (p.commands.map g)).PenContinuous := by
  obtain ⟨hbegins, hcontinues⟩ := (Path.penContinuous_iff p).mp hp
  -- neither trail has a pen yet
  have hfresh : (Trail.fresh : Trail α).Follows m Trail.fresh := ⟨rfl, rfl⟩
  refine (Path.penContinuous_iff _).mpr ⟨?_, h.continues hfresh hcontinues⟩
  rcases hbegins with hnil | ⟨q, rest, hmove⟩
  · left
    rw [hnil, List.map_nil]
  · right
    exact ⟨m q, rest.map g, by rw [hmove, List.map_cons, h.moveTo]⟩

end Command.Carries

/-! ## Stretching, flipping and transposing -/

namespace Arc

theorem pointAt_eq (a : Arc ℝ) (deg : ℝ) :
    a.pointAt deg = ⟨a.center.x + a.rx * (sinCos deg).2, a.center.y + a.ry * (sinCos deg).1⟩ := rfl

/-- A reflected angle has its cosine or its sine reversed, each with the sign of its axis. -/
theorem sinCos_reflectAngle (scale : Point ℝ) (deg : ℝ) :
    sinCos (reflectAngle scale deg) =
      (if scale.y < 0 then -(sinCos deg).1 else (sinCos deg).1,
        if scale.x < 0 then -(sinCos deg).2 else (sinCos deg).2) := by
  have hhalf : sinCos (@OfNat.ofNat ℝ 180 (Scalar.literal 180) - deg)
      = ((sinCos deg).1, -(sinCos deg).2) := sinCos_half_turn_sub deg
  unfold reflectAngle
  rw [Exact.literal_zero]
  dsimp only
  by_cases hx : scale.x < 0
  · by_cases hy : scale.y < 0
    · simp only [if_pos hx, if_pos hy, sinCos_neg, hhalf]
    · simp only [if_pos hx, if_neg hy, hhalf]
  · by_cases hy : scale.y < 0
    · simp only [if_neg hx, if_pos hy, sinCos_neg]
    · simp only [if_neg hx, if_neg hy]

/-- The point of the image of an arc at a reflected angle is the image of the point. -/
theorem pointAt_mapped (a : Arc ℝ) (scale offset : Point ℝ) (deg : ℝ) :
    (a.mapped scale offset).pointAt (reflectAngle scale deg) = (a.pointAt deg).map scale offset := by
  -- the sign that the radius loses is the one that the reflected angle brings in
  have habs_x : a.rx * |scale.x| * (if scale.x < 0 then -(sinCos deg).2 else (sinCos deg).2)
      = a.rx * (sinCos deg).2 * scale.x := by
    split
    · next hx =>
      rw [abs_of_neg hx]
      ring
    · next hx =>
      rw [abs_of_nonneg (not_lt.mp hx)]
      ring
  have habs_y : a.ry * |scale.y| * (if scale.y < 0 then -(sinCos deg).1 else (sinCos deg).1)
      = a.ry * (sinCos deg).1 * scale.y := by
    split
    · next hy =>
      rw [abs_of_neg hy]
      ring
    · next hy =>
      rw [abs_of_nonneg (not_lt.mp hy)]
      ring
  rw [pointAt_eq, sinCos_reflectAngle]
  ext
  · show a.center.x * scale.x + offset.x + a.rx * |scale.x| * _ = _
    rw [habs_x]
    show _ = (a.center.x + a.rx * (sinCos deg).2) * scale.x + offset.x
    ring
  · show a.center.y * scale.y + offset.y + a.ry * |scale.y| * _ = _
    rw [habs_y]
    show _ = (a.center.y + a.ry * (sinCos deg).1) * scale.y + offset.y
    ring

theorem pointAt_transposed (a : Arc ℝ) (deg : ℝ) :
    a.transposed.pointAt (90 - deg) = (a.pointAt deg).transpose := by
  rw [pointAt_eq, sinCos_quarter_turn_sub]
  rfl

end Arc

theorem Command.mapped_carries (scale offset : Point ℝ) :
    Carries (fun p => p.map scale offset) (Command.mapped scale offset) where
  moveTo _ := rfl
  lineTo _ := rfl
  cubicTo _ _ _ := ⟨_, _, rfl⟩
  arcTo a := ⟨_, rfl, a.pointAt_mapped scale offset a.start, a.pointAt_mapped scale offset a.stop⟩
  close := rfl

theorem Command.transposed_carries :
    Carries (Point.transpose : Point ℝ → Point ℝ) Command.transposed where
  moveTo _ := rfl
  lineTo _ := rfl
  cubicTo _ _ _ := ⟨_, _, rfl⟩
  arcTo a := ⟨_, rfl, a.pointAt_transposed a.start, a.pointAt_transposed a.stop⟩
  close := rfl

namespace Path.PenContinuous

variable {p : Path ℝ}

/-- Stretching, mirroring and shifting keep the pen from jumping. -/
theorem mapped (hp : p.PenContinuous) (scale offset : Point ℝ) :
    (p.mapped scale offset).PenContinuous :=
  (Command.mapped_carries scale offset).penContinuous hp

theorem transposed (hp : p.PenContinuous) : p.transposed.PenContinuous :=
  Command.transposed_carries.penContinuous hp

theorem flipped (hp : p.PenContinuous) (w h : ℝ) (horizontally vertically : Bool) :
    (p.flipped w h horizontally vertically).PenContinuous := by
  unfold Path.flipped
  split
  · exact hp
  · exact hp.mapped _ _

end Path.PenContinuous

end ShapeOutline
