import Mathlib
import ShapeOutline.Proofs.Path.Arrowheads
import ShapeOutline.Proofs.Pen.InBox
import ShapeOutline.Proofs.Preset.Table

/-!
# Directions at the ends of lines and connectors

A line or connector has a direction at an end when its first or last stroke goes anywhere. The elbows of
connectors are placed by guides that are not clamped, and a guide may put an elbow on the end of the
connector: the stroke between them then has no length, and the path no direction there.

* `Command.isSome_firstProper_iff`, `Command.isSome_arcTangent`: which commands have a direction;
* `Preset.Points`: when a formula gives a path with directions at its ends;
* `Kind.Departs`, `Kind.Arrives`: the guides of a kind keep its elbows off its ends;
* `Kind.outline_directions`: the outline of a line or connector has its directions exactly then.
-/

namespace ShapeOutline

open Scalar (tolerance)

/-! ## Commands with a direction -/

namespace Command

/-- A curve has a direction where one of its displacements is not negligible. -/
theorem isSome_firstProper_iff (ds : List (Point ℝ)) :
    (firstProper ds).unit?.isSome = true ↔
      ∃ d ∈ ds, (tolerance : ℝ) * tolerance < d.normSquared := by
  rw [Point.isSome_unit?_iff]
  unfold firstProper
  cases hfound : ds.find? fun d => decide ((tolerance : ℝ) * tolerance < d.normSquared) with
  | none =>
    have hshort := List.find?_eq_none.mp hfound
    refine iff_of_false ?_ fun ⟨d, hd, hlong⟩ => hshort d hd (decide_eq_true hlong)
    exact Point.normSquared_origin.not_gt
  | some d =>
    have hlong : (tolerance : ℝ) * tolerance < d.normSquared := by
      simpa using List.find?_some hfound
    exact iff_of_true ((mul_self_nonneg _).trans_lt hlong)
      ⟨d, List.mem_of_find?_eq_some hfound, hlong⟩

/-- An ellipse has a direction of travel everywhere. -/
theorem isSome_arcTangent {a : Arc ℝ} (hrx : 0 < a.rx) (hry : 0 < a.ry) (deg : ℝ) :
    (arcTangent a deg).unit?.isSome = true := by
  rw [Point.isSome_unit?_iff, Arc.arcTangent_eq, sinCos_eq]
  have hsense : a.sense * a.sense = 1 := by
    unfold Arc.sense
    split <;> norm_num
  have hcircle := Real.sin_sq_add_cos_sq (deg * (Real.pi / 180))
  generalize Real.sin (deg * (Real.pi / 180)) = sin at hcircle
  generalize Real.cos (deg * (Real.pi / 180)) = cos at hcircle
  have hlength : (Point.mk (-a.rx * sin * a.sense) (a.ry * cos * a.sense)).normSquared
      = (a.rx * sin) ^ 2 + (a.ry * cos) ^ 2 := by
    show -a.rx * sin * a.sense * (-a.rx * sin * a.sense)
      + a.ry * cos * a.sense * (a.ry * cos * a.sense) = _
    linear_combination ((a.rx * sin) ^ 2 + (a.ry * cos) ^ 2) * hsense
  rw [hlength]
  -- sine and cosine are not both zero
  by_cases hsin : sin = 0
  · have hcos : cos ≠ 0 := by
      rintro rfl
      rw [hsin] at hcircle
      norm_num at hcircle
    positivity
  · positivity

end Command

/-! ## What the formulas draw -/

namespace Preset

/-- In every box of at least unit size the formula gives a path, from the named guides, that has a
direction at its ends under the stated conditions. -/
def Points (names : List String) (departs arrives : Frame ℝ → Prop)
    (formula : Frame ℝ → Guided (Path ℝ)) : Prop :=
  ∀ f : Frame ℝ, 1 ≤ f.w → 1 ≤ f.h → f.guides.Declares names →
    ∃ p, formula f = .ok p ∧ (p.startDirection.isSome = true ↔ departs f) ∧
      (p.endDirection.isSome = true ↔ arrives f)

theorem normSquared_sub (x y x' y' : ℝ) :
    (Point.mk x y - Point.mk x' y').normSquared = (x - x') ^ 2 + (y - y') ^ 2 := by
  show (x - x') * (x - x') + (y - y') * (y - y') = _
  ring

/-- Two points have a direction between them when they differ. -/
theorem isSome_unit?_sub_iff (p q : ℝ × ℝ) :
    (Point.mk q.1 q.2 - Point.mk p.1 p.2).unit?.isSome = true ↔ p ≠ q := by
  rw [Point.isSome_unit?_iff, normSquared_sub]
  constructor
  · rintro hpos rfl
    simp at hpos
  · intro hne
    by_cases hx : q.1 - p.1 = 0
    · have hy : q.2 - p.2 ≠ 0 := fun hy =>
        hne (Prod.ext (sub_eq_zero.mp hx).symm (sub_eq_zero.mp hy).symm)
      positivity
    · positivity

namespace Connector

/-! ### Chains of lines -/

theorem chain_eq (p : ℝ × ℝ) (ps : List (ℝ × ℝ)) :
    chain (p :: ps) = ⟨.moveTo ⟨p.1, p.2⟩ :: ps.map fun q => .lineTo ⟨q.1, q.2⟩⟩ :=
  Path.drawn_eq p.1 p.2 (Pen.mapM_command?_lines ps)

theorem chain_departs_iff (p q : ℝ × ℝ) (ps : List (ℝ × ℝ)) :
    (chain (p :: q :: ps)).startDirection.isSome = true ↔ p ≠ q := by
  rw [chain_eq]
  exact isSome_unit?_sub_iff p q

theorem chain_arrives_iff (ps : List (ℝ × ℝ)) (p q : ℝ × ℝ) :
    (chain (ps ++ [p, q])).endDirection.isSome = true ↔ p ≠ q := by
  rw [← isSome_unit?_sub_iff p q]
  -- the pen is at the last corner but one before the last line
  cases ps with
  | nil =>
    rw [List.nil_append, chain_eq]
    rfl
  | cons r ps =>
    have hcorner : (r :: ps) ++ [p, q] = r :: (ps ++ [p] ++ [q]) := by simp
    rw [hcorner, chain_eq, List.map_append, List.map_append, List.map_singleton,
      List.map_singleton, Path.endDirection, Path.trail, ← List.cons_append, ← List.cons_append,
      List.foldl_concat, List.foldl_concat]
    rfl

theorem line_points : Points [] (fun _ => True) (fun _ => True) fun f => .ok (line f) := by
  intro f hw _ _
  have hne : ((0 : ℝ), (0 : ℝ)) ≠ (f.w, f.h) :=
    fun heq => (zero_lt_one.trans_le hw).ne (congrArg Prod.fst heq)
  simp only [line, Exact.literal_zero]
  exact ⟨_, rfl, iff_of_true ((chain_departs_iff _ _ _).mpr hne) trivial,
    iff_of_true ((chain_arrives_iff [] _ _).mpr hne) trivial⟩

theorem lineInverted_points :
    Points [] (fun _ => True) (fun _ => True) fun f => .ok (lineInverted f) := by
  intro f hw _ _
  have hne : ((0 : ℝ), f.h) ≠ (f.w, (0 : ℝ)) :=
    fun heq => (zero_lt_one.trans_le hw).ne (congrArg Prod.fst heq)
  simp only [lineInverted, Exact.literal_zero]
  exact ⟨_, rfl, iff_of_true ((chain_departs_iff _ _ _).mpr hne) trivial,
    iff_of_true ((chain_arrives_iff [] _ _).mpr hne) trivial⟩

theorem bent2_points : Points [] (fun _ => True) (fun _ => True) fun f => .ok (bent2 f) := by
  intro f hw hh _
  have hacross : ((0 : ℝ), (0 : ℝ)) ≠ (f.w, (0 : ℝ)) :=
    fun heq => (zero_lt_one.trans_le hw).ne (congrArg Prod.fst heq)
  have hdown : (f.w, (0 : ℝ)) ≠ (f.w, f.h) :=
    fun heq => (zero_lt_one.trans_le hh).ne (congrArg Prod.snd heq)
  simp only [bent2, Exact.literal_zero]
  exact ⟨_, rfl, iff_of_true ((chain_departs_iff _ _ _).mpr hacross) trivial,
    iff_of_true ((chain_arrives_iff [_] _ _).mpr hdown) trivial⟩

/-! ### Elbows -/

section

variable {f : Frame ℝ} (v c : ℝ)

theorem left_ne_elbow_iff (hw : 1 ≤ f.w) : ((0 : ℝ), c) ≠ (f.ofWidth v, c) ↔ v ≠ 0 := by
  have hw' : f.w ≠ 0 := (zero_lt_one.trans_le hw).ne'
  rw [Ne, Prod.mk_left_inj, eq_comm, Frame.ofWidth, Exact.literal_eq]
  simp [hw']

theorem elbow_ne_right_iff (hw : 1 ≤ f.w) : (f.ofWidth v, c) ≠ (f.w, c) ↔ v ≠ 100000 := by
  have hw' : f.w ≠ 0 := (zero_lt_one.trans_le hw).ne'
  rw [Ne, Prod.mk_left_inj, Frame.ofWidth, Exact.literal_eq, div_eq_iff (by norm_num),
    mul_right_inj' hw']

theorem elbow_ne_bottom_iff (hh : 1 ≤ f.h) : (c, f.ofHeight v) ≠ (c, f.h) ↔ v ≠ 100000 := by
  have hh' : f.h ≠ 0 := (zero_lt_one.trans_le hh).ne'
  rw [Ne, Prod.mk_right_inj, Frame.ofHeight, Exact.literal_eq, div_eq_iff (by norm_num),
    mul_right_inj' hh']

end

theorem bent3_points :
    Points ["adj1"] (fun f => f.value "adj1" ≠ 0) (fun f => f.value "adj1" ≠ 100000) bent3 := by
  intro f hw _ h
  simp (disch := decide) only [bent3, Frame.adj_eq h, Guided.ok_bind, Exact.literal_zero]
  exact ⟨_, rfl, (chain_departs_iff _ _ _).trans (left_ne_elbow_iff _ 0 hw),
    (chain_arrives_iff [_, _] _ _).trans (elbow_ne_right_iff _ f.h hw)⟩

theorem bent4_points :
    Points ["adj1", "adj2"] (fun f => f.value "adj1" ≠ 0) (fun f => f.value "adj2" ≠ 100000)
      bent4 := by
  intro f hw hh h
  simp (disch := decide) only [bent4, Frame.adj_eq h, Guided.ok_bind, Exact.literal_zero]
  exact ⟨_, rfl, (chain_departs_iff _ _ _).trans (left_ne_elbow_iff _ 0 hw),
    (chain_arrives_iff [_, _, _] _ _).trans (elbow_ne_bottom_iff _ f.w hh)⟩

theorem bent5_points :
    Points ["adj1", "adj2", "adj3"] (fun f => f.value "adj1" ≠ 0)
      (fun f => f.value "adj3" ≠ 100000) bent5 := by
  intro f hw _ h
  simp (disch := decide) only [bent5, Frame.adj_eq h, Guided.ok_bind, Exact.literal_zero]
  exact ⟨_, rfl, (chain_departs_iff _ _ _).trans (left_ne_elbow_iff _ 0 hw),
    (chain_arrives_iff [_, _, _, _] _ _).trans (elbow_ne_right_iff _ f.h hw)⟩

/-! ### Chains of curves -/

/-- Of three displacements the last of which is the longest one, one is not negligible when the last
is not. -/
theorem isSome_firstProper_iff_last {c d e : Point ℝ} (hc : c.normSquared ≤ e.normSquared)
    (hd : d.normSquared ≤ e.normSquared) :
    (Command.firstProper [c, d, e]).unit?.isSome = true ↔
      (tolerance : ℝ) * tolerance < e.normSquared := by
  rw [Command.isSome_firstProper_iff]
  constructor
  · rintro ⟨x, hx, hlong⟩
    have hxe : x.normSquared ≤ e.normSquared := by
      simp only [List.mem_cons, List.not_mem_nil, or_false] at hx
      rcases hx with rfl | rfl | rfl
      · exact hc
      · exact hd
      · exact le_rfl
    exact hlong.trans_le hxe
  · intro hlong
    exact ⟨e, by simp, hlong⟩

/-- What spans a quarter of a unit box is not negligible, whatever stands before it. -/
theorem isSome_firstProper_of_le {c d e : Point ℝ} (he : 1 / 4 ≤ e.normSquared) :
    (Command.firstProper [c, d, e]).unit?.isSome = true := by
  have htolerance : (tolerance : ℝ) = 1e-9 := rfl
  rw [Command.isSome_firstProper_iff, htolerance]
  exact ⟨e, by simp, lt_of_lt_of_le (by norm_num) he⟩

theorem curved2_points : Points [] (fun _ => True) (fun _ => True) fun f => .ok (curved2 f) := by
  intro f hw hh _
  have hlong : 1 / 4 ≤ (Point.mk f.w f.h - Point.mk 0 0).normSquared := by
    rw [normSquared_sub]
    nlinarith
  simp only [curved2, Exact.literal_zero]
  rw [Path.drawn_eq 0 0 (by rfl)]
  refine ⟨_, rfl, iff_of_true ?_ trivial, iff_of_true ?_ trivial⟩
  · exact isSome_firstProper_of_le hlong
  · exact isSome_firstProper_of_le hlong

/-- Both curves span half the height. -/
theorem curved3_points : Points ["adj1"] (fun _ => True) (fun _ => True) curved3 := by
  intro f _ hh h
  have hupper : 1 / 4 ≤ (Point.mk (f.ofWidth (f.value "adj1")) f.vc - Point.mk 0 0).normSquared := by
    rw [normSquared_sub, Frame.vc, Exact.literal_ofNat 2]
    nlinarith [sq_nonneg (f.ofWidth (f.value "adj1"))]
  have hlower : 1 / 4
      ≤ (Point.mk f.w f.h - Point.mk (f.ofWidth (f.value "adj1")) f.vc).normSquared := by
    rw [normSquared_sub, Frame.vc, Exact.literal_ofNat 2]
    nlinarith [sq_nonneg (f.w - f.ofWidth (f.value "adj1"))]
  simp (disch := decide) only [curved3, Frame.adj_eq h, Guided.ok_bind, Exact.literal_zero]
  rw [Path.drawn_eq 0 0 (by rfl)]
  refine ⟨_, rfl, iff_of_true ?_ trivial, iff_of_true ?_ trivial⟩
  · exact isSome_firstProper_of_le hupper
  · exact isSome_firstProper_of_le hlower

/-- A quarter turn that sets out along either axis has a direction as soon as it goes anywhere. -/
theorem isSome_quarter_iff {c d : Point ℝ} {u v : ℝ}
    (hturn : c = ⟨u / 2, 0⟩ ∧ d = ⟨u, v / 2⟩ ∨ c = ⟨0, v / 2⟩ ∧ d = ⟨u / 2, v⟩) :
    (Command.firstProper [c, d, ⟨u, v⟩]).unit?.isSome = true ↔
      (tolerance : ℝ) * tolerance < u ^ 2 + v ^ 2 := by
  have hnorm : ∀ x y : ℝ, (Point.mk x y).normSquared = x ^ 2 + y ^ 2 := by
    intro x y
    show x * x + y * y = _
    ring
  -- the controls do not reach as far as the end
  have hreach : c.normSquared ≤ (Point.mk u v).normSquared ∧
      d.normSquared ≤ (Point.mk u v).normSquared := by
    rcases hturn with ⟨rfl, rfl⟩ | ⟨rfl, rfl⟩ <;> rw [hnorm, hnorm, hnorm] <;>
      constructor <;> nlinarith [sq_nonneg u, sq_nonneg v]
  rw [isSome_firstProper_iff_last hreach.1 hreach.2, hnorm]

/-- The first quarter turn of a connector sets out from the corner of the box along its top. -/
theorem isSome_first_quarter_iff (x y : ℝ) :
    (Command.firstProper
        [Point.mk (x / 2) 0 - ⟨0, 0⟩, Point.mk x (y / 2) - ⟨0, 0⟩, Point.mk x y - ⟨0, 0⟩]).unit?.isSome
      = true ↔ (tolerance : ℝ) * tolerance < x ^ 2 + y ^ 2 := by
  have horigin : ∀ p : Point ℝ, p - ⟨0, 0⟩ = p := fun p =>
    Point.ext (sub_zero p.x) (sub_zero p.y)
  rw [horigin, horigin, horigin, isSome_quarter_iff (.inl ⟨rfl, rfl⟩)]

theorem curved4_points :
    Points ["adj1", "adj2"]
      (fun f => (tolerance : ℝ) * tolerance
        < f.ofWidth (f.value "adj1") ^ 2 + (f.ofHeight (f.value "adj2") / 2) ^ 2)
      (fun f => (tolerance : ℝ) * tolerance
        < ((f.w - f.ofWidth (f.value "adj1")) / 2) ^ 2 + (f.h - f.ofHeight (f.value "adj2")) ^ 2)
      curved4 := by
  intro f _ _ h
  simp (disch := decide) only [curved4, Frame.adj_eq h, Guided.ok_bind, Exact.literal_zero,
    Exact.literal_ofNat 2]
  rw [Path.drawn_eq 0 0 (by rfl)]
  generalize f.ofWidth (f.value "adj1") = x
  generalize f.ofHeight (f.value "adj2") = y
  refine ⟨_, rfl, ?_, ?_⟩
  · exact isSome_first_quarter_iff x (y / 2)
  · rw [← isSome_quarter_iff (.inr ⟨rfl, rfl⟩)]
    show (Command.firstProper
      [⟨f.w - f.w, f.h - (f.h + y) / 2⟩, ⟨f.w - ((f.w + x) / 2 + f.w) / 2, f.h - y⟩,
        ⟨f.w - (f.w + x) / 2, f.h - y⟩]).unit?.isSome = true ↔ _
    ring_nf

theorem curved5_points :
    Points ["adj1", "adj2", "adj3"]
      (fun f => (tolerance : ℝ) * tolerance
        < f.ofWidth (f.value "adj1") ^ 2 + (f.ofHeight (f.value "adj2") / 2) ^ 2)
      (fun f => (tolerance : ℝ) * tolerance
        < (f.w - f.ofWidth (f.value "adj3")) ^ 2 + ((f.h - f.ofHeight (f.value "adj2")) / 2) ^ 2)
      curved5 := by
  intro f _ _ h
  simp (disch := decide) only [curved5, Frame.adj_eq h, Guided.ok_bind, Exact.literal_zero,
    Exact.literal_ofNat 2]
  rw [Path.drawn_eq 0 0 (by rfl)]
  generalize f.ofWidth (f.value "adj1") = x
  generalize f.ofWidth (f.value "adj3") = z
  generalize f.ofHeight (f.value "adj2") = y
  refine ⟨_, rfl, ?_, ?_⟩
  · exact isSome_first_quarter_iff x (y / 2)
  · rw [← isSome_quarter_iff (.inl ⟨rfl, rfl⟩)]
    show (Command.firstProper
      [⟨f.w - (z + f.w) / 2, f.h - f.h⟩, ⟨f.w - z, f.h - ((f.h + y) / 2 + f.h) / 2⟩,
        ⟨f.w - z, f.h - (f.h + y) / 2⟩]).unit?.isSome = true ↔ _
    ring_nf

end Connector

/-- An ellipse has a direction everywhere. -/
theorem Round.arc_points : Points ["adj1", "adj2"] (fun _ => True) (fun _ => True) Round.arc := by
  intro f hw hh h
  have hrx : 0 < f.wd2 := by
    rw [Frame.wd2, Exact.literal_ofNat 2]
    positivity
  have hry : 0 < f.hd2 := by
    rw [Frame.hd2, Exact.literal_ofNat 2]
    positivity
  simp (disch := decide) only [Round.arc, Round.anglePair, Frame.angle_eq h, Guided.ok_bind]
  have hnone : ([] : List (Instruction ℝ)).mapM Instruction.command? = some [] := rfl
  obtain ⟨a, hpath, hax, hay, -, -⟩ := Path.drawn_arc_eq _ _ hnone hrx hry _ _
  have harc := Command.isSome_arcTangent (hax ▸ hrx) (hay ▸ hry)
  exact ⟨_, congrArg Except.ok hpath, iff_of_true (harc a.start) trivial,
    iff_of_true (harc a.stop) trivial⟩

end Preset

/-! ## The table of kinds -/

namespace Kind

open Preset

/-- The guides of a kind let its outline leave its first point: the first leg of a connector has
some length. -/
def Departs (f : Frame ℝ) : Kind → Prop
  | bentConnector3 | bentConnector4 | bentConnector5 => f.value "adj1" ≠ 0
  | curvedConnector4 | curvedConnector5 =>
    (tolerance : ℝ) * tolerance
      < f.ofWidth (f.value "adj1") ^ 2 + (f.ofHeight (f.value "adj2") / 2) ^ 2
  | _ => True

/-- The guides of a kind let its outline arrive at its last point: so has the last leg. -/
def Arrives (f : Frame ℝ) : Kind → Prop
  | bentConnector3 => f.value "adj1" ≠ 100000
  | bentConnector4 => f.value "adj2" ≠ 100000
  | bentConnector5 => f.value "adj3" ≠ 100000
  | curvedConnector4 =>
    (tolerance : ℝ) * tolerance
      < ((f.w - f.ofWidth (f.value "adj1")) / 2) ^ 2 + (f.h - f.ofHeight (f.value "adj2")) ^ 2
  | curvedConnector5 =>
    (tolerance : ℝ) * tolerance
      < (f.w - f.ofWidth (f.value "adj3")) ^ 2 + ((f.h - f.ofHeight (f.value "adj2")) / 2) ^ 2
  | _ => True

/-- The guides of a kind keep the next elbow off an end of its outline. -/
def ClearAt (f : Frame ℝ) (k : Kind) : PathEnd → Prop
  | .head => k.Departs f
  | .tail => k.Arrives f

theorem preset_points {k : Kind} (hline : k.isLineLike = true) :
    ∃ p : Preset ℝ, k.preset? = some p ∧
      Points (p.guides.map Prod.fst) (k.Departs ·) (k.Arrives ·) p.outline := by
  cases k with
  | line | straightConnector1 => exact ⟨_, rfl, Connector.line_points⟩
  | lineInv => exact ⟨_, rfl, Connector.lineInverted_points⟩
  | bentConnector2 => exact ⟨_, rfl, Connector.bent2_points⟩
  | bentConnector3 => exact ⟨_, rfl, Connector.bent3_points⟩
  | bentConnector4 => exact ⟨_, rfl, Connector.bent4_points⟩
  | bentConnector5 => exact ⟨_, rfl, Connector.bent5_points⟩
  | curvedConnector2 => exact ⟨_, rfl, Connector.curved2_points⟩
  | curvedConnector3 => exact ⟨_, rfl, Connector.curved3_points⟩
  | curvedConnector4 => exact ⟨_, rfl, Connector.curved4_points⟩
  | curvedConnector5 => exact ⟨_, rfl, Connector.curved5_points⟩
  | arc => exact ⟨_, rfl, Round.arc_points⟩
  | _ => cases hline

/-- The outline of a line or connector has a direction at each end that its guides keep apart from
the next elbow, and at no other. -/
theorem outline_directions {k : Kind} (hline : k.isLineLike = true) {guides : GuideSet ℝ}
    (hguides : guides.Declares ((k.guides : List (GuideDecl ℝ)).map GuideDecl.name)) {w h : ℝ}
    (hw : 1 ≤ w) (hh : 1 ≤ h) :
    ∃ p, k.outline w h guides = .ok p ∧
      (p.startDirection.isSome = true ↔ k.Departs ⟨w, h, guides⟩) ∧
      (p.endDirection.isSome = true ↔ k.Arrives ⟨w, h, guides⟩) := by
  obtain ⟨preset, hpreset, hpoints⟩ := preset_points hline
  rw [guides_names hpreset] at hguides
  obtain ⟨p, hp, hdirections⟩ := hpoints ⟨w, h, guides⟩ hw hh hguides
  exact ⟨p, (outline_of_preset hpreset w h guides).trans hp, hdirections⟩

end Kind

end ShapeOutline
