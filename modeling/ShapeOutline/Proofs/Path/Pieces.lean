import Mathlib
import ShapeOutline.Proofs.Path.Flips
import ShapeOutline.Proofs.Path.Text

/-!
# What the text of an arc draws

The text of an arc gives its radii, and for each piece two flags and the point where the piece ends. The
angles are not in the text: a reader finds centre and sweep again from the pen, the radii, the flags and
the end. Below a full turn the flags tell apart all arcs between two points, so that the reader draws what
is meant. A piece of full turns ends where it begins, and nothing is drawn for it.

* `Arc.fields`, `Arc.splitOn_chars`: what stands between the blanks of the text of an arc;
* `ArcPiece.Leads`, `Arc.pieces_lead`: the pieces lead from one end of the arc to the other;
* `Arc.pointAt_eq_iff`: two angles have one point when they are full turns apart;
* `Arc.IsReading`, `Arc.isReading_iff`: the arcs that a reader may draw for a piece;
* `Arc.text_draws_sweep`: the text of an arc draws its sweep if and only if this is less than two turns.
-/

namespace ShapeOutline

open Scalar (tolerance)

/-! ## The fields of the text -/

section Fields

variable {α : Type} [Scalar α]

/-- What is written of a piece between blanks: the radii, no rotation, whether it takes the longer way
round, whether it runs clockwise, and its end. -/
def Arc.fields (a : Arc α) (s : ArcPiece α) : List (List Char) :=
  ['A' :: Point.chars ⟨a.rx, a.ry⟩, ['0'], [flagChar s.isLarge], [flagChar s.isClockwise],
    (a.pointAt s.stop).chars]

theorem Point.blank_notMem_chars (p : Point α) : ' ' ∉ p.chars := by
  have hnumber (x : α) : ' ' ∉ Scalar.chars x := Scalar.notMem_chars (by decide) x
  rw [chars, List.mem_append, List.mem_cons]
  rintro (hx | hcomma | hy)
  · exact hnumber p.x hx
  · exact absurd hcomma (by decide)
  · exact hnumber p.y hy

/-- Texts that are joined in groups are joined as a whole. -/
theorem joinChars_map_joinChars {groups : List (List (List Char))} (h : ∀ g ∈ groups, g ≠ []) :
    joinChars (groups.map joinChars) = joinChars groups.flatten := by
  have hgroup : ∀ g ∈ groups, (' ' :: joinChars g) = g.flatMap (' ' :: ·) := by
    intro g hg
    cases g with
    | nil => exact absurd rfl (h [] hg)
    | cons x xs => rw [joinChars_cons, List.flatMap_cons, List.cons_append]
  cases groups with
  | nil => rfl
  | cons g gs =>
    have hrest : (gs.map joinChars).flatMap (' ' :: ·) = gs.flatten.flatMap (' ' :: ·) := by
      rw [List.flatMap_map, List.flatten_eq_flatMap, List.flatMap_assoc]
      exact List.flatMap_congr fun g hg => hgroup g (List.mem_cons_of_mem _ hg)
    cases g with
    | nil => exact absurd rfl (h [] List.mem_cons_self)
    | cons x xs =>
      rw [List.map_cons, joinChars_cons, joinChars_cons, hrest, List.flatten_cons, List.cons_append,
        joinChars_cons, List.flatMap_append, List.append_assoc]

namespace Arc

variable (a : Arc α)

theorem pieceChars_eq (s : ArcPiece α) : a.pieceChars s = joinChars (a.fields s) := by
  rw [fields, joinChars_cons]
  simp only [pieceChars, List.flatMap_cons, List.flatMap_nil, List.append_nil, List.cons_append,
    List.append_assoc, List.nil_append]

theorem blank_notMem_fields (s : ArcPiece α) : ∀ field ∈ a.fields s, ' ' ∉ field := by
  have hflag (flag : Bool) : ' ' ∉ [flagChar flag] := by cases flag <;> decide
  intro field hfield
  simp only [fields, List.mem_cons, List.not_mem_nil, or_false] at hfield
  rcases hfield with rfl | rfl | rfl | rfl | rfl
  · rw [List.mem_cons, not_or]
    exact ⟨by decide, Point.blank_notMem_chars _⟩
  · decide
  · exact hflag _
  · exact hflag _
  · exact Point.blank_notMem_chars _

/-- The fields of the pieces are read back from the text of an arc, which is written if it goes
somewhere. -/
theorem splitOn_chars (h : (Command.arcTo a).isBlank = false) :
    (Command.arcTo a).chars.splitOn ' ' = a.pieces.flatMap a.fields := by
  have hpieces : a.pieces ≠ [] := mt a.pieces_eq_nil_iff.mp (Bool.eq_false_iff.mp h)
  have hfields (s : ArcPiece α) : a.fields s ≠ [] := List.cons_ne_nil _ _
  have hchars : (Command.arcTo a).chars = joinChars (a.pieces.flatMap a.fields) := by
    have hgroups : a.pieces.map a.pieceChars = (a.pieces.map a.fields).map joinChars := by
      rw [List.map_map]
      exact congrArg (fun f => a.pieces.map f) (funext a.pieceChars_eq)
    rw [Command.chars, hgroups, joinChars_map_joinChars, List.flatMap_def]
    intro g hg
    obtain ⟨s, -, rfl⟩ := List.mem_map.mp hg
    exact hfields s
  rw [hchars, joinChars]
  refine List.splitOn_intercalate ' ' ?_ ?_
  · intro field hfield
    obtain ⟨s, -, hs⟩ := List.mem_flatMap.mp hfield
    exact a.blank_notMem_fields s field hs
  · obtain ⟨s, rest, hcons⟩ := List.exists_cons_of_ne_nil hpieces
    rw [hcons, List.flatMap_cons]
    exact List.append_ne_nil_of_left_ne_nil (hfields s) _

end Arc

end Fields

/-! ## The pieces of an arc -/

/-- The pieces lead from one angle to another: each ends its sweep behind the end of the one before. -/
inductive ArcPiece.Leads : ℝ → List (ArcPiece ℝ) → ℝ → Prop
  | nowhere (deg : ℝ) : Leads deg [] deg
  | onwards {deg stop : ℝ} {s : ArcPiece ℝ} {rest : List (ArcPiece ℝ)}
      (hstop : s.stop = deg + s.sweep) (hrest : Leads s.stop rest stop) : Leads deg (s :: rest) stop

namespace ArcPiece

variable {start stop : ℝ} {pieces : List (ArcPiece ℝ)}

/-- The sweeps of pieces that lead from one angle to another add up to the way between them. -/
theorem Leads.sum_sweep (h : Leads start pieces stop) :
    (pieces.map ArcPiece.sweep).sum = stop - start := by
  induction h with
  | nowhere deg => rw [List.map_nil, List.sum_nil, sub_self]
  | onwards hstop _ ih =>
    rw [List.map_cons, List.sum_cons, ih, hstop]
    ring

/-- The last of such pieces ends at the last angle. -/
theorem Leads.getLast_stop (h : Leads start pieces stop) :
    ∀ s ∈ pieces.getLast?, s.stop = stop := by
  induction h with
  | nowhere deg => exact fun s hs => nomatch hs
  | @onwards deg stop s rest hstop hrest ih =>
    intro last hlast
    cases hrest with
    | nowhere =>
      obtain rfl : s = last := Option.some.inj hlast
      rfl
    | onwards => exact ih last hlast

end ArcPiece

namespace Arc

variable (a : Arc ℝ)

/-- Arcs of less than a full turn are written in one piece, others in two halves. -/
theorem pieces_eq :
    a.pieces = if |a.stop - a.start| < (tolerance : ℝ) then []
      else if 360 - (tolerance : ℝ) ≤ |a.stop - a.start| then
        [⟨(a.stop - a.start) / 2, a.start + (a.stop - a.start) / 2⟩,
          ⟨(a.stop - a.start) / 2, a.stop⟩]
      else [⟨a.stop - a.start, a.stop⟩] := by
  unfold pieces
  rw [Exact.literal_eq, Exact.literal_eq]
  rfl

theorem pieces_lead (h : (tolerance : ℝ) ≤ |a.stop - a.start|) :
    ArcPiece.Leads a.start a.pieces a.stop := by
  rw [pieces_eq, if_neg (not_lt.mpr h)]
  split
  · have hhalf : a.stop = a.start + (a.stop - a.start) / 2 + (a.stop - a.start) / 2 := by ring
    exact .onwards rfl (.onwards hhalf (.nowhere _))
  · have hwhole : a.stop = a.start + (a.stop - a.start) := by ring
    exact .onwards hwhole (.nowhere _)

/-- Every piece has the whole sweep, or half of it if the sweep is nearly a full turn. -/
theorem sweep_of_mem_pieces {s : ArcPiece ℝ} (hs : s ∈ a.pieces) :
    (tolerance : ℝ) ≤ |a.stop - a.start| ∧
      (s.sweep = (a.stop - a.start) / 2 ∧ 360 - (tolerance : ℝ) ≤ |a.stop - a.start| ∨
        s.sweep = a.stop - a.start ∧ |a.stop - a.start| < 360 - (tolerance : ℝ)) := by
  rw [pieces_eq] at hs
  split_ifs at hs with hnowhere hfull
  · exact absurd hs List.not_mem_nil
  · refine ⟨not_lt.mp hnowhere, .inl ⟨?_, hfull⟩⟩
    rcases List.mem_pair.mp hs with rfl | rfl <;> rfl
  · refine ⟨not_lt.mp hnowhere, .inr ⟨?_, not_le.mp hfull⟩⟩
    rw [List.mem_singleton.mp hs]

end Arc

/-! ## Arcs with the same ends -/

/-- Sine and cosine of two angles agree exactly when the angles are full turns apart. -/
theorem sinCos_eq_iff (d e : ℝ) : sinCos d = sinCos e ↔ ∃ k : ℤ, e = d + 360 * k := by
  constructor
  · intro h
    rw [sinCos_eq, sinCos_eq, Prod.mk.injEq] at h
    obtain ⟨k, hk⟩ := Real.Angle.angle_eq_iff_two_pi_dvd_sub.mp (Real.Angle.cos_sin_inj h.2 h.1)
    refine ⟨-k, ?_⟩
    have hpi := Real.pi_ne_zero
    have hturns : (d - e) * Real.pi = 360 * k * Real.pi := by linarith
    have hdeg : d - e = 360 * k := mul_right_cancel₀ hpi hturns
    push_cast
    linarith
  · rintro ⟨k, rfl⟩
    exact (sinCos_add_turns d k).symm

/-- The chord of an arc, from the sweep and the angle in the middle. -/
theorem sinCos_chord (d sweep : ℝ) :
    sinCos (d + sweep) - sinCos d
      = (2 * (sinCos (sweep / 2)).1 * (sinCos (d + sweep / 2)).2,
          -(2 * (sinCos (sweep / 2)).1 * (sinCos (d + sweep / 2)).1)) := by
  have hhalf : ((d + sweep) * (Real.pi / 180) - d * (Real.pi / 180)) / 2
      = sweep / 2 * (Real.pi / 180) := by ring
  have hmiddle : ((d + sweep) * (Real.pi / 180) + d * (Real.pi / 180)) / 2
      = (d + sweep / 2) * (Real.pi / 180) := by ring
  simp only [sinCos_eq, Prod.mk_sub_mk, Prod.mk.injEq]
  rw [Real.sin_sub_sin, Real.cos_sub_cos, hhalf, hmiddle]
  constructor <;> ring

/-- The chord is as long as half the sweep is wide. -/
theorem sinCos_half_sq (d sweep : ℝ) :
    (2 * (sinCos (sweep / 2)).1) ^ 2
      = (sinCos (d + sweep) - sinCos d).1 ^ 2 + (sinCos (d + sweep) - sinCos d).2 ^ 2 := by
  have hunit : (sinCos (d + sweep / 2)).1 ^ 2 + (sinCos (d + sweep / 2)).2 ^ 2 = 1 := by
    rw [sinCos_eq]
    exact Real.sin_sq_add_cos_sq _
  rw [sinCos_chord]
  linear_combination -(2 * (sinCos (sweep / 2)).1) ^ 2 * hunit

/-- The chord of a clockwise arc of less than a full turn has a length. -/
theorem sinCos_half_pos {sweep : ℝ} (hpos : 0 < sweep) (hturn : sweep < 360) :
    0 < (sinCos (sweep / 2)).1 := by
  have hpi := Real.pi_pos
  rw [sinCos_eq]
  refine Real.sin_pos_of_pos_of_lt_pi (by positivity) ?_
  nlinarith

theorem sinCos_half_abs_sq (sweep : ℝ) :
    (sinCos (|sweep| / 2)).1 ^ 2 = (sinCos (sweep / 2)).1 ^ 2 := by
  rcases abs_choice sweep with hforth | hback
  · rw [hforth]
  · rw [hback, neg_div, sinCos_neg, neg_sq]

/-- Arcs that go somewhere, but less than once round, do not end where they begin. -/
theorem sinCos_half_ne_zero {sweep : ℝ} (hsweep : sweep ≠ 0) (hturn : |sweep| < 360) :
    (sinCos (sweep / 2)).1 ≠ 0 := by
  intro hzero
  have hpos : 0 < (sinCos (|sweep| / 2)).1 := sinCos_half_pos (abs_pos.mpr hsweep) hturn
  have hsq := sinCos_half_abs_sq sweep
  rw [hzero, zero_pow two_ne_zero] at hsq
  exact hpos.ne' (pow_eq_zero_iff two_ne_zero |>.mp hsq)

/-- Clockwise arcs of less than a full turn that span chords of one length are equally long, if both are
short or both are long. -/
theorem eq_of_chord_eq {d e : ℝ} (hd : 0 < d) (hd' : d < 360) (he : 0 < e) (he' : e < 360)
    (hlong : 180 < d ↔ 180 < e) (h : (sinCos (d / 2)).1 = (sinCos (e / 2)).1) : d = e := by
  have hpi := Real.pi_pos
  rw [sinCos_eq, sinCos_eq] at h
  have hinj := Real.strictMonoOn_sin.injOn
  by_cases hshort : 180 < d
  · -- long arcs are told apart by what is missing to the full turn
    have hshort' := hlong.mp hshort
    have hmissing (x : ℝ) (hx : 180 < x) (hx' : x < 360) :
        Real.pi - x / 2 * (Real.pi / 180) ∈ Set.Icc (-(Real.pi / 2)) (Real.pi / 2) := by
      constructor <;> nlinarith
    have hsin : Real.sin (Real.pi - d / 2 * (Real.pi / 180))
        = Real.sin (Real.pi - e / 2 * (Real.pi / 180)) := by
      rw [Real.sin_pi_sub, Real.sin_pi_sub]
      exact h
    have heq := hinj (hmissing d hshort hd') (hmissing e hshort' he') hsin
    nlinarith
  · have hshort' := mt hlong.mpr hshort
    have hspan (x : ℝ) (hx : 0 < x) (hx' : x ≤ 180) :
        x / 2 * (Real.pi / 180) ∈ Set.Icc (-(Real.pi / 2)) (Real.pi / 2) := by
      constructor <;> nlinarith
    have heq := hinj (hspan d hd (not_lt.mp hshort)) (hspan e he (not_lt.mp hshort')) h
    nlinarith

/-- Arcs of less than a full turn that span chords of one length have one sweep, if both are short or both
are long, and both clockwise or neither. -/
theorem sweep_eq_of_half_sq_eq {d e : ℝ} (hd : d ≠ 0) (hd' : |d| < 360) (he' : |e| < 360)
    (hlong : 180 < |d| ↔ 180 < |e|) (hclockwise : 0 < d ↔ 0 < e)
    (h : (sinCos (d / 2)).1 ^ 2 = (sinCos (e / 2)).1 ^ 2) : d = e := by
  have he : e ≠ 0 := by
    rintro rfl
    rw [zero_div, sinCos_eq 0, zero_mul, Real.sin_zero, zero_pow two_ne_zero] at h
    exact sinCos_half_ne_zero hd hd' (pow_eq_zero_iff two_ne_zero |>.mp h)
  rw [← sinCos_half_abs_sq d, ← sinCos_half_abs_sq e] at h
  have hpos : 0 < (sinCos (|d| / 2)).1 := sinCos_half_pos (abs_pos.mpr hd) hd'
  have hpos' : 0 < (sinCos (|e| / 2)).1 := sinCos_half_pos (abs_pos.mpr he) he'
  have hsize : |d| = |e| :=
    eq_of_chord_eq (abs_pos.mpr hd) hd' (abs_pos.mpr he) he' hlong
      ((sq_eq_sq₀ hpos.le hpos'.le).mp h)
  rcases abs_eq_abs.mp hsize with heq | hneg
  · exact heq
  · -- one would be clockwise and the other not
    rcases lt_or_gt_of_ne hd with hback | hforth
    · have := hclockwise.mpr (by linarith)
      linarith
    · have := hclockwise.mp hforth
      linarith

/-- The part of an arc that a piece of it stands for. -/
noncomputable def Arc.part (a : Arc ℝ) (s : ArcPiece ℝ) : Arc ℝ :=
  { a with start := s.stop - s.sweep, stop := s.stop }

/-- The arc `b` is one that a reader may draw for a piece of the arc `a`: it has the radii in the text,
comes from where the piece begins, ends at the point in the text, turns less than once, and is as long
and as directed as the flags say. -/
structure Arc.IsReading (a : Arc ℝ) (s : ArcPiece ℝ) (b : Arc ℝ) : Prop where
  rx : b.rx = a.rx
  ry : b.ry = a.ry
  begins : b.startPoint = (a.part s).startPoint
  ends : b.pointAt b.stop = a.pointAt s.stop
  turns : |b.stop - b.start| < 360
  large : 180 < |b.stop - b.start| ↔ s.isLarge = true
  clockwise : 0 < b.stop - b.start ↔ s.isClockwise = true

theorem ArcPiece.isLarge_iff (s : ArcPiece ℝ) :
    s.isLarge = true ↔ 180 + (tolerance : ℝ) < |s.sweep| := by
  rw [isLarge, decide_eq_true_iff, Exact.literal_eq]
  rfl

theorem ArcPiece.isClockwise_iff (s : ArcPiece ℝ) : s.isClockwise = true ↔ 0 < s.sweep := by
  rw [isClockwise, decide_eq_true_iff, Exact.literal_zero]

namespace Arc

variable {a b : Arc ℝ} {s : ArcPiece ℝ}

/-- An ellipse has one point at two angles exactly when they are full turns apart. -/
theorem pointAt_eq_iff (hx : 0 < a.rx) (hy : 0 < a.ry) (d e : ℝ) :
    a.pointAt d = a.pointAt e ↔ ∃ k : ℤ, e = d + 360 * k := by
  rw [← sinCos_eq_iff, pointAt_eq, pointAt_eq, Point.mk.injEq, Prod.ext_iff]
  constructor
  · rintro ⟨hcos, hsin⟩
    exact ⟨mul_left_cancel₀ hy.ne' (add_left_cancel hsin),
      mul_left_cancel₀ hx.ne' (add_left_cancel hcos)⟩
  · rintro ⟨hsin, hcos⟩
    exact ⟨by rw [hcos], by rw [hsin]⟩

/-- Arcs with the same radii between the same points have the same chord. -/
theorem IsReading.chord_eq (h : a.IsReading s b) (hx : 0 < a.rx) (hy : 0 < a.ry) :
    sinCos (b.start + (b.stop - b.start)) - sinCos b.start
      = sinCos (s.stop - s.sweep + s.sweep) - sinCos (s.stop - s.sweep) := by
  have hbegins : b.pointAt b.start = a.pointAt (s.stop - s.sweep) := h.begins
  have hends := h.ends
  rw [pointAt_eq, pointAt_eq, Point.mk.injEq, h.rx, h.ry] at hbegins hends
  rw [add_sub_cancel, sub_add_cancel]
  refine Prod.ext ?_ ?_
  · refine mul_left_cancel₀ hy.ne' ?_
    simp only [Prod.fst_sub]
    linarith [hbegins.2, hends.2]
  · refine mul_left_cancel₀ hx.ne' ?_
    simp only [Prod.snd_sub]
    linarith [hbegins.1, hends.1]

/-- A reader finds the sweep of a piece below a full turn, unless the piece is taken for a half turn that
it exceeds. -/
theorem IsReading.sweep_eq (h : a.IsReading s b) (hx : 0 < a.rx) (hy : 0 < a.ry)
    (hsweep : s.sweep ≠ 0) (hturn : |s.sweep| < 360) (hlarge : s.isLarge = true ↔ 180 < |s.sweep|) :
    s.sweep = b.stop - b.start := by
  refine sweep_eq_of_half_sq_eq hsweep hturn h.turns (hlarge.symm.trans h.large.symm)
    (s.isClockwise_iff.symm.trans h.clockwise.symm) ?_
  have hlength := sinCos_half_sq b.start (b.stop - b.start)
  rw [h.chord_eq hx hy, ← sinCos_half_sq] at hlength
  linarith

/-- A reader finds the angle at which such a piece begins, up to full turns. -/
theorem IsReading.start_eq (h : a.IsReading s b) (hx : 0 < a.rx) (hy : 0 < a.ry)
    (hsweep : s.sweep ≠ 0) (hturn : |s.sweep| < 360) (hlarge : s.isLarge = true ↔ 180 < |s.sweep|) :
    ∃ k : ℤ, b.start = s.stop - s.sweep + 360 * k := by
  have hlength : 2 * (sinCos (s.sweep / 2)).1 ≠ 0 :=
    mul_ne_zero two_ne_zero (sinCos_half_ne_zero hsweep hturn)
  have hchord := h.chord_eq hx hy
  rw [← h.sweep_eq hx hy hsweep hturn hlarge, sinCos_chord, sinCos_chord, Prod.mk.injEq] at hchord
  -- chords of one direction have one angle in the middle
  have hmiddle : sinCos (s.stop - s.sweep + s.sweep / 2) = sinCos (b.start + s.sweep / 2) :=
    Prod.ext (mul_left_cancel₀ hlength (neg_injective hchord.2)).symm
      (mul_left_cancel₀ hlength hchord.1).symm
  obtain ⟨k, hk⟩ := (sinCos_eq_iff _ _).mp hmiddle
  exact ⟨k, by linarith⟩

/-- For a piece below a full turn a reader draws the part of the arc that it stands for, at angles some
full turns apart, and nothing else. -/
theorem isReading_iff (hx : 0 < a.rx) (hy : 0 < a.ry) (hsweep : s.sweep ≠ 0)
    (hturn : |s.sweep| < 360) (hlarge : s.isLarge = true ↔ 180 < |s.sweep|) :
    a.IsReading s b ↔ ∃ k : ℤ, b = (a.part s).advanced k := by
  constructor
  · intro h
    obtain ⟨k, hstart⟩ := h.start_eq hx hy hsweep hturn hlarge
    refine ⟨k, ?_⟩
    have hstop : b.stop = s.stop + 360 * k := by
      have := h.sweep_eq hx hy hsweep hturn hlarge
      linarith
    have hcenter : b.center = a.center := by
      have hends := h.ends
      rw [hstop, pointAt_eq, pointAt_eq, sinCos_add_turns, h.rx, h.ry, Point.mk.injEq] at hends
      exact Point.ext (add_right_cancel hends.1) (add_right_cancel hends.2)
    calc b = ⟨b.center, b.rx, b.ry, b.start, b.stop⟩ := rfl
      _ = (a.part s).advanced k := by
        rw [hcenter, h.rx, h.ry, hstart, hstop]
        rfl
  · rintro ⟨k, rfl⟩
    have hway : ((a.part s).advanced k).stop - ((a.part s).advanced k).start = s.sweep := by
      show s.stop + 360 * k - (s.stop - s.sweep + 360 * k) = s.sweep
      ring
    exact
      { rx := rfl
        ry := rfl
        begins := (a.part s).pointAt_advanced k (s.stop - s.sweep)
        ends := (a.part s).pointAt_advanced k s.stop
        turns := by rw [hway]; exact hturn
        large := by rw [hway]; exact hlarge.symm
        clockwise := by rw [hway]; exact s.isClockwise_iff.symm }

/-! ## All pieces of an arc -/

theorem isBlank_eq_false (h : (tolerance : ℝ) ≤ |a.stop - a.start|) :
    (Command.arcTo a).isBlank = false :=
  decide_eq_false (not_lt.mpr h)

/-- All pieces stay below a full turn exactly when the arc stays below two. -/
theorem forall_sweep_lt_iff (h : (tolerance : ℝ) ≤ |a.stop - a.start|) :
    (∀ s ∈ a.pieces, |s.sweep| < 360) ↔ |a.stop - a.start| < 720 := by
  have hhalf : |(a.stop - a.start) / 2| = |a.stop - a.start| / 2 := by rw [abs_div, abs_two]
  have htolerance := Scalar.tolerance_pos
  constructor
  · intro hall
    obtain ⟨s, rest, hpieces⟩ := List.exists_cons_of_ne_nil
      (mt a.pieces_eq_nil_iff.mp (Bool.eq_false_iff.mp (isBlank_eq_false h)))
    have hs : s ∈ a.pieces := hpieces ▸ List.mem_cons_self
    have hlt := hall s hs
    rcases (a.sweep_of_mem_pieces hs).2 with ⟨hsweep, -⟩ | ⟨-, hshort⟩
    · rw [hsweep, hhalf] at hlt
      linarith
    · linarith
  · intro hturns s hs
    rcases (a.sweep_of_mem_pieces hs).2 with ⟨hsweep, -⟩ | ⟨hsweep, hshort⟩
    · rw [hsweep, hhalf]
      linarith
    · rw [hsweep]
      linarith

theorem sweep_ne_zero {s : ArcPiece ℝ} (hs : s ∈ a.pieces) : s.sweep ≠ 0 := by
  have htolerance := Scalar.tolerance_pos
  obtain ⟨hwritten, hcase⟩ := a.sweep_of_mem_pieces hs
  have hmoves : a.stop - a.start ≠ 0 := abs_pos.mp (by linarith)
  rcases hcase with ⟨hsweep, -⟩ | ⟨hsweep, -⟩
  · rw [hsweep]
    exact div_ne_zero hmoves two_ne_zero
  · rw [hsweep]
    exact hmoves

/-- A piece comes back to where it begins exactly when the arc goes round a whole number of times twice. -/
theorem part_returns_iff (hx : 0 < a.rx) (hy : 0 < a.ry) {s : ArcPiece ℝ} (hs : s ∈ a.pieces) :
    (a.part s).startPoint = a.pointAt s.stop ↔ ∃ k : ℤ, a.stop - a.start = 720 * k := by
  have hpoint : (a.part s).startPoint = a.pointAt (s.stop - s.sweep) := rfl
  rw [hpoint, pointAt_eq_iff hx hy]
  rcases (a.sweep_of_mem_pieces hs).2 with ⟨hsweep, -⟩ | ⟨hsweep, hshort⟩
  · refine exists_congr fun k => ?_
    rw [hsweep]
    constructor <;> intro hk <;> linarith
  · -- neither one turn nor two fit into less than a full one
    have hnone (k : ℤ) (turn : ℝ) (hturn : 360 ≤ turn) : a.stop - a.start ≠ turn * k := by
      intro hk
      have hmoves := sweep_ne_zero hs
      rw [hsweep, hk] at hmoves
      rw [hk, abs_mul, abs_of_pos (by linarith : 0 < turn)] at hshort
      have hk0 : k ≠ 0 := fun h0 => hmoves (by rw [h0, Int.cast_zero, mul_zero])
      have hk1 : (1 : ℝ) ≤ |(k : ℝ)| := by exact_mod_cast Int.one_le_abs hk0
      have := Scalar.tolerance_pos
      nlinarith
    refine iff_of_false ?_ ?_
    · rintro ⟨k, hk⟩
      exact hnone k 360 le_rfl (by rw [← hsweep]; linarith)
    · rintro ⟨k, hk⟩
      exact hnone k 720 (by norm_num) hk

/-- The text of an arc that goes somewhere gives, for each of its pieces, the radii, the two flags and the
end. The flags are set for sweeps of more than a half turn and for clockwise ones, the pieces lead from
one end of the arc to the other, so that their sweeps add up to the whole way, and the last one ends where
the arc ends. The pieces stay below a full turn exactly when the arc stays below two turns: then a reader
draws for each piece the part of the arc that it stands for and nothing else, if the piece does not exceed
a half turn by less than the tolerance. A piece that ends where it begins, for which nothing is drawn, is
written exactly for an even number of turns. -/
theorem text_draws_sweep (a : Arc ℝ) (hx : 0 < a.rx) (hy : 0 < a.ry)
    (h : (tolerance : ℝ) ≤ |a.stop - a.start|) :
    (Command.arcTo a).chars.splitOn ' ' = a.pieces.flatMap a.fields ∧
      (∀ s ∈ a.pieces, (flagChar s.isLarge = '1' ↔ 180 + (tolerance : ℝ) < |s.sweep|) ∧
        (flagChar s.isClockwise = '1' ↔ 0 < s.sweep)) ∧
      ArcPiece.Leads a.start a.pieces a.stop ∧
      (a.pieces.map ArcPiece.sweep).sum = a.stop - a.start ∧
      (∀ s ∈ a.pieces.getLast?, s.stop = a.stop) ∧
      ((∀ s ∈ a.pieces, |s.sweep| < 360) ↔ |a.stop - a.start| < 720) ∧
      (|a.stop - a.start| < 720 → ∀ s ∈ a.pieces,
        ¬ (180 < |s.sweep| ∧ |s.sweep| ≤ 180 + (tolerance : ℝ)) →
          ∀ b, a.IsReading s b ↔ ∃ k : ℤ, b = (a.part s).advanced k) ∧
      (∀ s ∈ a.pieces, (a.part s).startPoint = a.pointAt s.stop ↔
        ∃ k : ℤ, a.stop - a.start = 720 * k) := by
  have hflag (flag : Bool) : flagChar flag = '1' ↔ flag = true := by cases flag <;> decide
  have hlead := a.pieces_lead h
  refine ⟨a.splitOn_chars (isBlank_eq_false h), fun s _ => ?_, hlead, hlead.sum_sweep,
    hlead.getLast_stop, forall_sweep_lt_iff h, fun hturns s hs hhalf b => ?_,
    fun s hs => part_returns_iff hx hy hs⟩
  · rw [hflag, hflag]
    exact ⟨s.isLarge_iff, s.isClockwise_iff⟩
  · have hturn := (forall_sweep_lt_iff h).mpr hturns s hs
    have htolerance := Scalar.tolerance_pos
    refine isReading_iff hx hy (sweep_ne_zero hs) hturn (s.isLarge_iff.trans ⟨?_, ?_⟩)
    · intro hlarge
      linarith
    · intro hlong
      by_contra hsmall
      exact hhalf ⟨hlong, not_lt.mp hsmall⟩

/-- One turn and a half backwards is drawn, in two pieces of three quarters each. -/
theorem turn_and_half_drawn :
    let a : Arc ℝ := ⟨Point.origin, 10, 20, 90, -450⟩
    0 < a.rx ∧ 0 < a.ry ∧ (tolerance : ℝ) ≤ |a.stop - a.start| ∧
      (a.pieces.map ArcPiece.sweep).sum = -540 ∧ ∀ s ∈ a.pieces, |s.sweep| < 360 := by
  intro a
  have hx : 0 < a.rx := by norm_num [a]
  have hy : 0 < a.ry := by norm_num [a]
  have hway : |a.stop - a.start| = 540 := by norm_num [a]
  have h : (tolerance : ℝ) ≤ |a.stop - a.start| := by
    have htolerance : (tolerance : ℝ) = 1e-9 := rfl
    rw [hway, htolerance]
    norm_num
  obtain ⟨-, -, -, hsum, -, hturns, -⟩ := a.text_draws_sweep hx hy h
  refine ⟨hx, hy, h, ?_, hturns.mpr ?_⟩
  · rw [hsum]
    norm_num [a]
  · rw [hway]
    norm_num

/-- Two turns are written in two pieces of one turn each, both of which end where they begin. -/
theorem two_turns_not_drawn :
    let a : Arc ℝ := ⟨Point.origin, 10, 10, 0, 720⟩
    0 < a.rx ∧ 0 < a.ry ∧ (tolerance : ℝ) ≤ |a.stop - a.start| ∧
      a.pieces = [⟨360, 360⟩, ⟨360, 720⟩] ∧ ¬ (∀ s ∈ a.pieces, |s.sweep| < 360) ∧
      ∀ s ∈ a.pieces, (a.part s).startPoint = a.pointAt s.stop := by
  intro a
  have hx : 0 < a.rx := by norm_num [a]
  have hy : 0 < a.ry := by norm_num [a]
  have hway : a.stop - a.start = 720 := by norm_num [a]
  have htolerance : (tolerance : ℝ) = 1e-9 := rfl
  have h : (tolerance : ℝ) ≤ |a.stop - a.start| := by
    rw [hway, htolerance]
    norm_num
  have hpieces : a.pieces = [⟨360, 360⟩, ⟨360, 720⟩] := by
    rw [pieces_eq, hway, htolerance]
    norm_num [a]
  refine ⟨hx, hy, h, hpieces, ?_, fun s hs => ?_⟩
  · rw [forall_sweep_lt_iff h, hway]
    norm_num
  · exact (part_returns_iff hx hy hs).mpr ⟨1, by rw [hway, Int.cast_one, mul_one]⟩

end Arc

end ShapeOutline
