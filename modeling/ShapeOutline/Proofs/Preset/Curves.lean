import Mathlib
import ShapeOutline.Preset
import ShapeOutline.Proofs.Guide.Declared
import ShapeOutline.Proofs.Path.Inscribed
import ShapeOutline.Proofs.Path.Trace
import ShapeOutline.Proofs.Pen.InBox
import ShapeOutline.Proofs.Pen.Stations

/-!
# Curves without kinks

Curved connectors and waves are chains of cubic curves. Where one of them ends and the next one begins, the
pen goes on as fast and in the same direction as it arrives, so there is no kink. It does exactly when the
point of the joint lies halfway between the control points next to it.

* `Point.HasVelocity`, `Point.hasVelocity_bezier`: how fast the point of a cubic curve moves;
* `Joint`, `Path.joints`: where two cubic curves meet;
* `Path.HasNoKinks`, `Path.hasNoKinks_iff`: the condition on the control points;
* `Connector.curved3_smooth`, ..., `Banner.doubleWave_smooth`: the formulas;
* `Kind.curves_have_no_kinks`: the outlines of the kinds.
-/

namespace ShapeOutline

/-! ## Velocities -/

/-- A moving point has the velocity `v` at the time `t`. -/
structure Point.HasVelocity (γ : ℝ → Point ℝ) (v : Point ℝ) (t : ℝ) : Prop where
  x : HasDerivAt (fun s => (γ s).x) v.x t
  y : HasDerivAt (fun s => (γ s).y) v.y t

theorem hasDerivAt_bernstein (p c1 c2 q t : ℝ) :
    HasDerivAt (fun s => p * (1 - s) ^ 3 + c1 * (3 * (1 - s) ^ 2 * s) + c2 * (3 * (1 - s) * s ^ 2)
        + q * s ^ 3)
      (3 * ((c1 - p) * (1 - t) ^ 2 + 2 * (c2 - c1) * ((1 - t) * t) + (q - c2) * t ^ 2)) t := by
  have hs := hasDerivAt_id' t
  have hrest := hs.const_sub 1
  have hfirst := (hrest.fun_pow 3).const_mul p
  have hsecond := (((hrest.fun_pow 2).const_mul 3).fun_mul hs).const_mul c1
  have hthird := ((hrest.const_mul 3).fun_mul (hs.fun_pow 2)).const_mul c2
  have hfourth := (hs.fun_pow 3).const_mul q
  refine (((hfirst.fun_add hsecond).fun_add hthird).fun_add hfourth).congr_deriv ?_
  push_cast
  ring

/-- A cubic curve departs towards its first control point and arrives from its second one. -/
theorem Point.hasVelocity_bezier (p c1 c2 q : Point ℝ) :
    HasVelocity (bezier p c1 c2 q) ((c1 - p).times 3) 0 ∧
      HasVelocity (bezier p c1 c2 q) ((q - c2).times 3) 1 := by
  have hx (t : ℝ) := hasDerivAt_bernstein p.x c1.x c2.x q.x t
  have hy (t : ℝ) := hasDerivAt_bernstein p.y c1.y c2.y q.y t
  refine ⟨⟨(hx 0).congr_deriv ?_, (hy 0).congr_deriv ?_⟩, ⟨(hx 1).congr_deriv ?_, (hy 1).congr_deriv ?_⟩⟩
  · show _ = (c1.x - p.x) * 3
    ring
  · show _ = (c1.y - p.y) * 3
    ring
  · show _ = (q.x - c2.x) * 3
    ring
  · show _ = (q.y - c2.y) * 3
    ring

/-! ## Joints -/

/-- Where two cubic curves meet: the point, and the control points before and after it. -/
structure Joint (α : Type) where
  before : Point α
  point : Point α
  after : Point α

/-- The point of the joint lies halfway between the control points. -/
def Joint.IsSmooth (j : Joint ℝ) : Prop := j.point - j.before = j.after - j.point

section

variable {α : Type}

def Command.joint? : Command α → Command α → Option (Joint α)
  | .cubicTo _ c p, .cubicTo d _ _ => some ⟨c, p, d⟩
  | _, _ => none

theorem Command.joint?_eq_some_iff {a b : Command α} {j : Joint α} :
    a.joint? b = some j ↔ ∃ c1 d2 r, a = .cubicTo c1 j.before j.point ∧ b = .cubicTo j.after d2 r := by
  constructor
  · intro h
    cases a with
    | cubicTo c1 c2 p =>
      cases b with
      | cubicTo d1 d2 r =>
        cases h
        exact ⟨c1, d2, r, rfl, rfl⟩
      | _ => cases h
    | _ => cases h
  · rintro ⟨c1, d2, r, rfl, rfl⟩
    rfl

/-- The joints of a path, in the order in which they are drawn. -/
def Path.joints (p : Path α) : List (Joint α) :=
  (p.commands.zipWith Command.joint? p.commands.tail).reduceOption

theorem Path.mem_joints_iff {p : Path α} {j : Joint α} :
    j ∈ p.joints ↔ ∃ i c1 d2 r, p.commands[i]? = some (.cubicTo c1 j.before j.point) ∧
      p.commands[i + 1]? = some (.cubicTo j.after d2 r) := by
  rw [joints, List.reduceOption_mem_iff, List.mem_iff_getElem?]
  refine exists_congr fun i => ?_
  rw [List.getElem?_zipWith_eq_some]
  constructor
  · rintro ⟨a, b, ha, hb, hjoint⟩
    obtain ⟨c1, d2, r, rfl, rfl⟩ := Command.joint?_eq_some_iff.mp hjoint
    rw [List.getElem?_tail] at hb
    exact ⟨c1, d2, r, ha, hb⟩
  · rintro ⟨c1, d2, r, ha, hb⟩
    rw [← List.getElem?_tail] at hb
    exact ⟨_, _, ha, hb, rfl⟩

end

namespace Path

/-- Along the command with the index `i` a path is drawn with the velocity `v` at the time `t`. -/
def HasVelocity (p : Path ℝ) (i : ℕ) (t : ℝ) (v : Point ℝ) : Prop :=
  ∃ γ, (∀ s, p.trace i s = some (γ s)) ∧ Point.HasVelocity γ v t

/-- Wherever two cubic curves meet, the second one departs as the first one arrives. -/
def HasNoKinks (p : Path ℝ) : Prop :=
  ∀ i c1 c2 q d1 d2 r, p.commands[i]? = some (.cubicTo c1 c2 q) →
    p.commands[i + 1]? = some (.cubicTo d1 d2 r) →
    q - c2 = d1 - q ∧ ∃ v, p.HasVelocity i 1 v ∧ p.HasVelocity (i + 1) 0 v

variable {p : Path ℝ} {i : ℕ} {c1 c2 q d1 d2 r : Point ℝ}

/-- In a path that begins with a move, a cubic curve arrives from its second control point. -/
theorem hasVelocity_at_end {start : Point ℝ} {rest : List (Command ℝ)}
    (hp : p.commands = .moveTo start :: rest) (hi : p.commands[i]? = some (.cubicTo c1 c2 q)) :
    p.HasVelocity i 1 ((q - c2).times 3) := by
  -- the curve is not the first command, so the pen is down in front of it
  obtain ⟨before, hpen⟩ : ∃ before, (mk (p.commands.take i)).trail.pen = some before := by
    rw [hp] at hi ⊢
    cases i with
    | zero => cases Option.some.inj hi
    | succ i =>
      rw [List.take_succ_cons]
      exact Option.isSome_iff_exists.mp (Trail.IsDown.of_move start (rest.take i)).pen
  refine ⟨Point.bezier before c1 c2 q, fun s => ?_, (Point.hasVelocity_bezier before c1 c2 q).2⟩
  rw [trace, hi, Option.bind_some, Command.trace, hpen, Option.map_some]

/-- A cubic curve behind another one departs from the end of that one, towards its own first control
point. -/
theorem hasVelocity_at_start (hi : p.commands[i]? = some (.cubicTo c1 c2 q))
    (hnext : p.commands[i + 1]? = some (.cubicTo d1 d2 r)) :
    p.HasVelocity (i + 1) 0 ((d1 - q).times 3) := by
  have hpen : (mk (p.commands.take (i + 1))).trail.pen = some q := by
    rw [List.take_add_one, hi, trail, Option.toList_some, List.foldl_concat]
    exact Trail.step_pen rfl
  refine ⟨Point.bezier q d1 d2 r, fun s => ?_, (Point.hasVelocity_bezier q d1 d2 r).1⟩
  rw [trace, hnext, Option.bind_some, Command.trace, hpen, Option.map_some]

/-- A path that begins with a move has no kinks exactly when its joints lie halfway between their control
points. -/
theorem hasNoKinks_iff {start : Point ℝ} {rest : List (Command ℝ)}
    (hp : p.commands = .moveTo start :: rest) : p.HasNoKinks ↔ ∀ j ∈ p.joints, j.IsSmooth := by
  constructor
  · intro h j hj
    obtain ⟨i, c1, d2, r, hi, hnext⟩ := mem_joints_iff.mp hj
    exact (h i _ _ _ _ _ _ hi hnext).1
  · intro h i c1 c2 q d1 d2 r hi hnext
    have hsmooth : q - c2 = d1 - q := h ⟨c2, q, d1⟩ (mem_joints_iff.mpr ⟨i, c1, d2, r, hi, hnext⟩)
    refine ⟨hsmooth, _, hasVelocity_at_end hp hi, ?_⟩
    rw [hsmooth]
    exact hasVelocity_at_start hi hnext

end Path

/-! ## The formulas -/

namespace Preset

/-- In every frame that holds the named guides, the formula draws from a point on, and `n` pairs of cubic
curves meet in smooth joints. -/
def Smooth (names : List String) (n : ℕ) (formula : Frame ℝ → Guided (Path ℝ)) : Prop :=
  ∀ f : Frame ℝ, f.guides.Declares names → ∃ start rest,
    formula f = .ok ⟨.moveTo start :: rest⟩ ∧ (Path.mk (.moveTo start :: rest)).joints.length = n ∧
      ∀ j ∈ (Path.mk (.moveTo start :: rest)).joints, j.IsSmooth

/-- A joint is smooth when it is along each axis. -/
theorem isSmooth_mk {cx cy px py dx dy : ℝ} (hx : px - cx = dx - px) (hy : py - cy = dy - py) :
    (⟨⟨cx, cy⟩, ⟨px, py⟩, ⟨dx, dy⟩⟩ : Joint ℝ).IsSmooth :=
  congrArg₂ Point.mk hx hy

namespace Connector

/-- The joint in the middle of the box is passed downwards. -/
theorem curved3_smooth : Smooth ["adj1"] 1 curved3 := by
  intro f h
  obtain ⟨-, hvc, -, -⟩ := f.halves
  simp (disch := decide) only [curved3, Frame.adj_eq h, Guided.ok_bind, Exact.literal_ofNat, hvc]
  rw [Path.drawn_eq _ _ (by rfl)]
  generalize f.ofWidth (f.value "adj1") = x
  refine ⟨_, _, rfl, rfl, List.forall_mem_singleton.mpr (isSmooth_mk ?_ ?_)⟩ <;> ring

theorem curved4_smooth : Smooth ["adj1", "adj2"] 2 curved4 := by
  intro f h
  simp (disch := decide) only [curved4, Frame.adj_eq h, Guided.ok_bind, Exact.literal_ofNat]
  rw [Path.drawn_eq _ _ (by rfl)]
  generalize f.ofWidth (f.value "adj1") = x
  generalize f.ofHeight (f.value "adj2") = y
  refine ⟨_, _, rfl, rfl, List.forall_mem_cons.mpr ⟨?upper, List.forall_mem_singleton.mpr ?lower⟩⟩
  case upper => exact isSmooth_mk (by ring) (by ring)
  case lower => exact isSmooth_mk (by ring) (by ring)

theorem curved5_smooth : Smooth ["adj1", "adj2", "adj3"] 3 curved5 := by
  intro f h
  simp (disch := decide) only [curved5, Frame.adj_eq h, Guided.ok_bind, Exact.literal_ofNat]
  rw [Path.drawn_eq _ _ (by rfl)]
  generalize f.ofWidth (f.value "adj1") = x
  generalize f.ofWidth (f.value "adj3") = z
  generalize f.ofHeight (f.value "adj2") = y
  refine ⟨_, _, rfl, rfl, List.forall_mem_cons.mpr ⟨?upper, List.forall_mem_cons.mpr
    ⟨?middle, List.forall_mem_singleton.mpr ?lower⟩⟩⟩
  case upper => exact isSmooth_mk (by ring) (by ring)
  case middle => exact isSmooth_mk (by ring) (by ring)
  case lower => exact isSmooth_mk (by ring) (by ring)

end Connector

namespace Banner

/-- The edges of a wave are shifted against each other, and equally long. -/
theorem exists_wave {f : Frame ℝ} (h : f.guides.Declares ["adj1", "adj2"]) (limit : ℝ) :
    ∃ m, wave f limit = .ok m ∧ m.bottomRight - m.bottomLeft = m.topRight - m.topLeft := by
  simp (disch := decide) only [wave, Frame.adj_eq h, Guided.ok_bind]
  exact ⟨_, rfl, by dsimp only; ring⟩

theorem doubleWave_smooth : Smooth ["adj1", "adj2"] 2 doubleWave := by
  intro f h
  obtain ⟨⟨y1, dy2, x2, x8, x9, x15⟩, hwave, hspan⟩ := exists_wave h 12500
  simp only [doubleWave, hwave, Guided.ok_bind, Exact.literal_ofNat]
  rw [Path.drawn_eq _ _ (by rfl)]
  refine ⟨_, _, rfl, rfl, List.forall_mem_cons.mpr ⟨?top, List.forall_mem_singleton.mpr ?bottom⟩⟩
  case top => exact isSmooth_mk (by ring) (by ring)
  case bottom => exact isSmooth_mk (by linarith) (by ring)

end Banner

end Preset

/-! ## The kinds -/

namespace Kind

/-- The kinds whose outlines lead along cubic curves in a row, with the number of joints. -/
inductive HasJoints : Kind → ℕ → Prop
  | curvedConnector3 : HasJoints .curvedConnector3 1
  | curvedConnector4 : HasJoints .curvedConnector4 2
  | curvedConnector5 : HasJoints .curvedConnector5 3
  | doubleWave : HasJoints .doubleWave 2

/-- In every box and whatever the guides say, the outline of such a kind has its joints and none of them is a
kink. -/
theorem curves_have_no_kinks {k : Kind} {n : ℕ} (hk : k.HasJoints n) (w h : ℝ) {guides : GuideSet ℝ}
    (hguides : guides.Declares ((k.guides : List (GuideDecl ℝ)).map GuideDecl.name)) :
    ∃ p, k.outline w h guides = .ok p ∧ p.joints.length = n ∧ p.HasNoKinks := by
  obtain ⟨start, rest, houtline, hlength, hsmooth⟩ : ∃ start rest,
      k.outline w h guides = .ok ⟨.moveTo start :: rest⟩ ∧
        (Path.mk (.moveTo start :: rest)).joints.length = n ∧
        ∀ j ∈ (Path.mk (.moveTo start :: rest)).joints, j.IsSmooth := by
    cases hk with
    | curvedConnector3 => exact Preset.Connector.curved3_smooth ⟨w, h, guides⟩ hguides
    | curvedConnector4 => exact Preset.Connector.curved4_smooth ⟨w, h, guides⟩ hguides
    | curvedConnector5 => exact Preset.Connector.curved5_smooth ⟨w, h, guides⟩ hguides
    | doubleWave => exact Preset.Banner.doubleWave_smooth ⟨w, h, guides⟩ hguides
  exact ⟨_, houtline, hlength, (Path.hasNoKinks_iff rfl).mpr hsmooth⟩

/-- A connector across a box of 100 by 50 whose guides lead it far out of the box. -/
theorem curves_have_no_kinks_outside :
    let guides : GuideSet ℝ := ⟨⟨1⟩, [("adj1", -70000), ("adj2", 150000), ("adj3", 300000)]⟩
    curvedConnector5.HasJoints 3 ∧
      guides.Declares ((curvedConnector5.guides : List (GuideDecl ℝ)).map GuideDecl.name) ∧
      ∃ p, curvedConnector5.outline 100 50 guides = .ok p ∧ p.joints.length = 3 ∧ p.HasNoKinks := by
  intro guides
  have hguides :
      guides.Declares ((curvedConnector5.guides : List (GuideDecl ℝ)).map GuideDecl.name) :=
    List.forall_mem_cons.mpr
      ⟨⟨_, rfl⟩, List.forall_mem_cons.mpr ⟨⟨_, rfl⟩, List.forall_mem_singleton.mpr ⟨_, rfl⟩⟩⟩
  exact ⟨.curvedConnector5, hguides, curves_have_no_kinks .curvedConnector5 100 50 hguides⟩

end Kind

end ShapeOutline
