import Mathlib
import ShapeOutline.Preset
import ShapeOutline.Proofs.Guide.Declared
import ShapeOutline.Proofs.Path.Inscribed
import ShapeOutline.Proofs.Path.Mirror
import ShapeOutline.Proofs.Pen.Stations
import ShapeOutline.Proofs.Scale.Length

/-!
# Brackets that face each other

Left brackets and braces are drawn upwards on the right side of their box, and the right ones downwards on
the left side, as their mirror images. Their ends are quarters of an ellipse, each of which begins where the
one before it or a line leaves the pen. When the guides leave the ends no height there is no ellipse, and the
pen stays where it is: the stroke goes on from the wrong side of the box.

* `Scalar.pin_pos_iff`, `Scalar.pin_lt_iff`: when a guide is within its limits;
* `Kind.Faces`, `Kind.HasCurvedEnds`: the pairs, and the guides for which the ends have some height;
* `Path.FacesWhen`: two strokes are mirror images of each other under a condition;
* `Bracket.brackets_face`, `Bracket.braces_face`: the strokes of the two pairs;
* `Kind.outlines_face`: the outlines of each pair;
* `Kind.flat_bracket_is_diagonal`: a left bracket whose ends have no height.
-/

namespace ShapeOutline

/-! ## Guides within their limits -/

namespace Scalar

variable {v hi : ℝ}

theorem pin_pos_iff : 0 < pin 0 v hi ↔ 0 < v ∧ 0 < hi := by
  unfold pin
  split_ifs with hlo hhi
  · exact iff_of_false (lt_irrefl 0) fun h => hlo.not_gt h.1
  · exact ⟨fun h => ⟨h.trans hhi, h⟩, And.right⟩
  · exact ⟨fun h => ⟨h, h.trans_le (not_lt.mp hhi)⟩, And.left⟩

theorem pin_lt_iff (hhi : 0 < hi) : pin 0 v hi < hi ↔ v < hi := by
  unfold pin
  split_ifs with hlo hpast
  · exact iff_of_true hhi (hlo.trans hhi)
  · exact iff_of_false (lt_irrefl hi) hpast.not_gt
  · exact Iff.rfl

theorem quotient_pos_iff {n d : ℝ} (hd : 0 < d) : 0 < quotient n d ↔ 0 < n := by
  rw [Exact.quotient_eq]
  exact div_pos_iff_of_pos_right hd

end Scalar

namespace Frame

variable {f : Frame ℝ}

theorem ofShort_pos_iff (hw : 0 < f.w) (hh : 0 < f.h) (a : ℝ) : 0 < f.ofShort a ↔ 0 < a := by
  have hss : 0 < f.ss := lt_min hw hh
  rw [ofShort, Exact.literal_ofNat, div_pos_iff_of_pos_right (by norm_num), mul_pos_iff_of_pos_left hss]

end Frame

/-! ## Strokes that face each other -/

/-- A stroke upwards from the lower right corner of a box and one downwards from its upper left corner, of
which each is the mirror image of the other, and ends in the corner above or below its beginning, exactly
under a condition. -/
structure Path.FacesWhen (p q : Path ℝ) (w h : ℝ) (curved : Prop) : Prop where
  left_starts : p.startPoint = some ⟨w, h⟩
  right_starts : q.startPoint = some ⟨0, 0⟩
  mirrored_iff : q.vertices = (p.vertices.map (Point.flipped w h true false)).reverse ↔ curved
  left_ends_iff : p.endPoint = some ⟨w, 0⟩ ↔ curved
  right_ends_iff : q.endPoint = some ⟨0, h⟩ ↔ curved

variable {w h : ℝ}

/-- The last point of each of two mirrored strokes is the mirror image of the first point of the other
one. -/
theorem Path.ends_of_mirrored {ps qs : List (Point ℝ)}
    (hsame : ⟨0, 0⟩ :: qs = ((⟨w, h⟩ :: ps).map (Point.flipped w h true false)).reverse) :
    (⟨w, h⟩ :: ps).getLast? = some ⟨w, 0⟩ ∧ (⟨0, 0⟩ :: qs).getLast? = some ⟨0, h⟩ := by
  constructor
  · have hfirst := congrArg List.head? hsame
    rw [List.head?_reverse, List.getLast?_map] at hfirst
    obtain ⟨last, hlast, hflipped⟩ := Option.map_eq_some_iff.mp hfirst.symm
    rw [Point.flipped, if_pos rfl, if_neg Bool.false_ne_true, Point.mk.injEq, sub_eq_zero]
      at hflipped
    obtain ⟨hx, hy⟩ := hflipped
    rw [hlast, hx, ← hy]
  · rw [hsame, List.getLast?_reverse]
    show some (⟨w - w, h⟩ : Point ℝ) = _
    rw [sub_self]

/-- Strokes face each other when their points are mirrored under the condition and end elsewhere without
it. -/
theorem Path.FacesWhen.of_stations {is js : List (Instruction ℝ)} {curved : Prop}
    (ps qs : List (Point ℝ)) (hps : Pen.stations ⟨w, h⟩ is = some ps)
    (hqs : Pen.stations ⟨0, 0⟩ js = some qs)
    (hmirrored : curved → ⟨0, 0⟩ :: qs = ((⟨w, h⟩ :: ps).map (Point.flipped w h true false)).reverse)
    (hleft : ¬curved → (⟨w, h⟩ :: ps).getLast? ≠ some ⟨w, 0⟩)
    (hright : ¬curved → (⟨0, 0⟩ :: qs).getLast? ≠ some ⟨0, h⟩) :
    (Path.drawn (.moveTo w h :: is)).FacesWhen (.drawn (.moveTo 0 0 :: js)) w h curved := by
  obtain ⟨hpvertices, hpstart, hpend⟩ := Path.drawn_stations w h hps
  obtain ⟨hqvertices, hqstart, hqend⟩ := Path.drawn_stations 0 0 hqs
  refine ⟨hpstart, hqstart, ?_, ?_, ?_⟩
  · rw [hpvertices, hqvertices]
    refine ⟨fun hsame => ?_, hmirrored⟩
    by_contra hflat
    exact hleft hflat (ends_of_mirrored hsame).1
  · rw [hpend]
    refine ⟨fun hend => ?_, fun hcurved => (ends_of_mirrored (hmirrored hcurved)).1⟩
    by_contra hflat
    exact hleft hflat hend
  · rw [hqend]
    refine ⟨fun hend => ?_, fun hcurved => (ends_of_mirrored (hmirrored hcurved)).2⟩
    by_contra hflat
    exact hright hflat hend

namespace Preset.Bracket

variable {y tip : ℝ}

/-- The strokes of a left and a right bracket with ends of height `y`. -/
theorem brackets_face (hw : 0 < w) :
    (Path.drawn (.moveTo w h :: [.arcTo w y 90 90, .lineTo 0 y, .arcTo w y 180 90])).FacesWhen
      (.drawn (.moveTo 0 0 :: [.arcTo w y 270 90, .lineTo w (h - y), .arcTo w y 0 90])) w h (0 < y) := by
  by_cases hy : 0 < y
  · obtain ⟨hright, hdown, hleft, hup⟩ := arcTarget_quarters_forth hw hy
    refine .of_stations [⟨0, h - y⟩, ⟨0, y⟩, ⟨w, 0⟩] [⟨w, y⟩, ⟨w, h - y⟩, ⟨0, h⟩] ?_ ?_ (fun _ => ?_)
      (absurd hy) (absurd hy)
    · simp [hdown, hleft]
    · simp [hup, hright]
    · simp [Point.flipped]
  · -- both arcs leave the pen on the side that it comes from
    have hflat := arcTarget_of_not_pos fun hradii : 0 < w ∧ 0 < y => hy hradii.2
    refine .of_stations [⟨w, h⟩, ⟨0, y⟩, ⟨0, y⟩] [⟨0, 0⟩, ⟨w, h - y⟩, ⟨w, h - y⟩] ?_ ?_ (absurd · hy)
      (fun _ => ?_) (fun _ => ?_)
    · simp [hflat]
    · simp [hflat]
    · simp [hw.ne]
    · simp [hw.ne']

/-- The strokes of a left and a right brace with ends of height `y` and the tip at the height `tip`. -/
theorem braces_face (hw : 0 < w) :
    (Path.drawn (.moveTo w h :: [.arcTo (w / 2) y 90 90, .lineTo (w / 2) (tip + y),
        .arcTo (w / 2) y 0 (-90), .arcTo (w / 2) y 90 (-90), .lineTo (w / 2) y,
        .arcTo (w / 2) y 180 90])).FacesWhen
      (.drawn (.moveTo 0 0 :: [.arcTo (w / 2) y 270 90, .lineTo (w / 2) (tip - y),
        .arcTo (w / 2) y 180 (-90), .arcTo (w / 2) y 270 (-90), .lineTo (w / 2) (h - y),
        .arcTo (w / 2) y 0 90])) w h (0 < y) := by
  by_cases hy : 0 < y
  · obtain ⟨hright, hdown, hleft, hup⟩ := arcTarget_quarters_forth (half_pos hw) hy
    obtain ⟨hright', hdown', hleft', hup'⟩ := arcTarget_quarters_back (half_pos hw) hy
    refine .of_stations
      [⟨w / 2, h - y⟩, ⟨w / 2, tip + y⟩, ⟨0, tip⟩, ⟨w / 2, tip - y⟩, ⟨w / 2, y⟩, ⟨w, 0⟩]
      [⟨w / 2, y⟩, ⟨w / 2, tip - y⟩, ⟨w, tip⟩, ⟨w / 2, tip + y⟩, ⟨w / 2, h - y⟩, ⟨0, h⟩] ?_ ?_
      (fun _ => ?_) (absurd hy) (absurd hy)
    · simp [hdown, hright', hdown', hleft, sub_half]
    · simp [hup, hleft', hup', hright, sub_half]
    · simp [Point.flipped, sub_half]
  · have hflat := arcTarget_of_not_pos fun hradii : 0 < w / 2 ∧ 0 < y => hy hradii.2
    have hhalf : w / 2 ≠ w := (half_lt_self hw).ne
    refine .of_stations
      [⟨w, h⟩, ⟨w / 2, tip + y⟩, ⟨w / 2, tip + y⟩, ⟨w / 2, tip + y⟩, ⟨w / 2, y⟩, ⟨w / 2, y⟩]
      [⟨0, 0⟩, ⟨w / 2, tip - y⟩, ⟨w / 2, tip - y⟩, ⟨w / 2, tip - y⟩, ⟨w / 2, h - y⟩, ⟨w / 2, h - y⟩]
      ?_ ?_ (absurd · hy) (fun _ => ?_) (fun _ => ?_)
    · simp [hflat]
    · simp [hflat]
    · simp [hhalf]
    · simp [hw.ne']

/-! ## The heights of the ends -/

section

variable {α : Type} [Scalar α]

/-- The height of the curved ends of a bracket. -/
def bracketHeight (f : Frame α) : α := f.ofShort (Scalar.pin 0 (f.value "adj") (f.maxAdj f.hd2))

/-- How far down the tip of a brace is, as a share of the height of its box. -/
def tipShare (f : Frame α) : α := Scalar.pin 0 (f.value "adj2") 100000

/-- The height of the curved ends of a brace, for which there is room on both sides of the tip. -/
def braceHeight (f : Frame α) : α :=
  f.ofShort (Scalar.pin 0 (f.value "adj1")
    (Scalar.quotient (Scalar.min (100000 - tipShare f) (tipShare f) / 2 * f.h) f.ss))

theorem curveHeight_eq {f : Frame α} (h : f.guides.Declares ["adj"]) :
    curveHeight f = .ok (bracketHeight f) := by
  simp (disch := decide) only [curveHeight, Frame.shortShare_eq h]
  rfl

theorem braceParts_eq {f : Frame α} (h : f.guides.Declares ["adj1", "adj2"]) :
    braceParts f = .ok (braceHeight f, f.ofHeight (tipShare f)) := by
  simp (disch := decide) only [braceParts, Frame.adj_eq h, Frame.shortShare_eq h, Guided.ok_bind]
  rfl

end

variable {f : Frame ℝ}

theorem maxAdj_hd2_pos (hw : 0 < f.w) (hh : 0 < f.h) : 0 < f.maxAdj f.hd2 := by
  obtain ⟨-, -, -, hhd2⟩ := f.halves
  have hss : 0 < f.ss := lt_min hw hh
  rw [Frame.maxAdj, Scalar.quotient_pos_iff hss, hhd2, Exact.literal_ofNat]
  positivity

theorem bracketHeight_pos_iff (hw : 0 < f.w) (hh : 0 < f.h) :
    0 < bracketHeight f ↔ 0 < f.value "adj" := by
  rw [bracketHeight, Frame.ofShort_pos_iff hw hh, Exact.literal_zero, Scalar.pin_pos_iff]
  exact and_iff_left (maxAdj_hd2_pos hw hh)

theorem bracketHeight_eq_zero (hw : 0 < f.w) (hh : 0 < f.h) (h : ¬0 < f.value "adj") :
    bracketHeight f = 0 := by
  obtain ⟨hnonneg, -⟩ := Exact.pin_mem_Icc (maxAdj_hd2_pos hw hh).le (f.value "adj")
  have hpin : Scalar.pin 0 (f.value "adj") (f.maxAdj f.hd2) = 0 :=
    le_antisymm (not_lt.mp fun hpos => h (Scalar.pin_pos_iff.mp hpos).1) hnonneg
  rw [bracketHeight, Exact.literal_zero, hpin, Frame.ofShort, mul_zero, zero_div]

theorem braceHeight_pos_iff (hw : 0 < f.w) (hh : 0 < f.h) :
    0 < braceHeight f ↔ 0 < f.value "adj1" ∧ 0 < f.value "adj2" ∧ f.value "adj2" < 100000 := by
  have hss : 0 < f.ss := lt_min hw hh
  have hwhole : (0 : ℝ) < 100000 := by norm_num
  have habove : 0 < tipShare f ↔ 0 < f.value "adj2" := by
    rw [tipShare, Exact.literal_zero, Exact.literal_ofNat, Scalar.pin_pos_iff]
    exact and_iff_left hwhole
  have hbelow : tipShare f < 100000 ↔ f.value "adj2" < 100000 := by
    rw [tipShare, Exact.literal_zero, Exact.literal_ofNat, Scalar.pin_lt_iff hwhole]
  have hroom : 0 < Scalar.min (100000 - tipShare f) (tipShare f)
      ↔ 0 < f.value "adj2" ∧ f.value "adj2" < 100000 := by
    rw [← habove, ← hbelow, ← sub_pos (a := (100000 : ℝ)), and_comm]
    exact lt_min_iff
  rw [braceHeight, Frame.ofShort_pos_iff hw hh, Exact.literal_zero, Scalar.pin_pos_iff,
    Scalar.quotient_pos_iff hss, mul_pos_iff_of_pos_right hh, Exact.literal_ofNat,
    Exact.literal_ofNat, div_pos_iff_of_pos_right two_pos, hroom]

/-! ## The outlines -/

theorem leftBracket_eq (h : f.guides.Declares ["adj"]) :
    leftBracket f = .ok (.drawn (.moveTo f.w f.h :: [.arcTo f.w (bracketHeight f) 90 90,
      .lineTo 0 (bracketHeight f), .arcTo f.w (bracketHeight f) 180 90])) := by
  rw [leftBracket, curveHeight_eq h, Guided.ok_bind]
  simp only [Exact.literal_ofNat, Exact.literal_zero]
  rfl

theorem rightBracket_eq (h : f.guides.Declares ["adj"]) :
    rightBracket f = .ok (.drawn (.moveTo 0 0 :: [.arcTo f.w (bracketHeight f) 270 90,
      .lineTo f.w (f.h - bracketHeight f), .arcTo f.w (bracketHeight f) 0 90])) := by
  rw [rightBracket, curveHeight_eq h, Guided.ok_bind]
  simp only [Exact.literal_ofNat, Exact.literal_zero]
  rfl

theorem leftBrace_eq (h : f.guides.Declares ["adj1", "adj2"]) :
    let y := braceHeight f
    let tip := f.ofHeight (tipShare f)
    leftBrace f = .ok (.drawn (.moveTo f.w f.h :: [.arcTo (f.w / 2) y 90 90,
      .lineTo (f.w / 2) (tip + y), .arcTo (f.w / 2) y 0 (-90), .arcTo (f.w / 2) y 90 (-90),
      .lineTo (f.w / 2) y, .arcTo (f.w / 2) y 180 90])) := by
  obtain ⟨hhc, -, hwd2, -⟩ := f.halves
  rw [leftBrace, braceParts_eq h, Guided.ok_bind, hhc, hwd2]
  simp only [Exact.literal_ofNat, Exact.literal_zero]
  rfl

theorem rightBrace_eq (h : f.guides.Declares ["adj1", "adj2"]) :
    let y := braceHeight f
    let tip := f.ofHeight (tipShare f)
    rightBrace f = .ok (.drawn (.moveTo 0 0 :: [.arcTo (f.w / 2) y 270 90,
      .lineTo (f.w / 2) (tip - y), .arcTo (f.w / 2) y 180 (-90), .arcTo (f.w / 2) y 270 (-90),
      .lineTo (f.w / 2) (f.h - y), .arcTo (f.w / 2) y 0 90])) := by
  obtain ⟨hhc, -, hwd2, -⟩ := f.halves
  rw [rightBrace, braceParts_eq h, Guided.ok_bind, hhc, hwd2]
  simp only [Exact.literal_ofNat, Exact.literal_zero]
  rfl

end Preset.Bracket

namespace Kind

open Preset.Bracket

/-- The pairs of a left and a right stroke. -/
inductive Faces : Kind → Kind → Prop
  | brackets : Faces .leftBracket .rightBracket
  | braces : Faces .leftBrace .rightBrace

/-- The guides of a kind leave some height to the curved ends of its stroke: those of a bracket are asked
for, and those of a brace are asked for and have room above and below the tip. -/
def HasCurvedEnds (f : Frame ℝ) : Kind → Prop
  | leftBracket | rightBracket => 0 < f.value "adj"
  | leftBrace | rightBrace =>
    0 < f.value "adj1" ∧ 0 < f.value "adj2" ∧ f.value "adj2" < 100000
  | _ => False

/-- Left and right brackets and braces with the same guides. The left one begins in the lower right corner
and the right one in the upper left corner. They are mirror images of each other, and end in the upper right
and in the lower left corner, exactly when the guides leave some height to their ends. -/
theorem outlines_face {left right : Kind} (hfaces : left.Faces right) (hw : 0 < w) (hh : 0 < h)
    {guides : GuideSet ℝ}
    (hguides : guides.Declares ((left.guides : List (GuideDecl ℝ)).map GuideDecl.name)) :
    ∃ p q, left.outline w h guides = .ok p ∧ right.outline w h guides = .ok q ∧
      p.FacesWhen q w h (left.HasCurvedEnds ⟨w, h, guides⟩) := by
  cases hfaces with
  | brackets =>
    have hcurved := bracketHeight_pos_iff (f := ⟨w, h, guides⟩) hw hh
    refine ⟨_, _, leftBracket_eq hguides, rightBracket_eq hguides, ?_⟩
    rw [HasCurvedEnds, ← hcurved]
    exact brackets_face hw
  | braces =>
    have hcurved := braceHeight_pos_iff (f := ⟨w, h, guides⟩) hw hh
    refine ⟨_, _, leftBrace_eq hguides, rightBrace_eq hguides, ?_⟩
    rw [HasCurvedEnds, ← hcurved]
    exact braces_face hw

/-- Braces of 20 by 100 with the tip at 30, in a document of which two units are one. -/
theorem outlines_face_braces :
    let guides : GuideSet ℝ := ⟨⟨2⟩, [("adj1", 16666), ("adj2", 60000)]⟩
    leftBrace.Faces rightBrace ∧ (0 : ℝ) < 20 ∧ (0 : ℝ) < 100 ∧
      guides.Declares ((leftBrace.guides : List (GuideDecl ℝ)).map GuideDecl.name) ∧
      ∃ p q, leftBrace.outline 20 100 guides = .ok p ∧ rightBrace.outline 20 100 guides = .ok q ∧
        q.vertices = (p.vertices.map (Point.flipped 20 100 true false)).reverse ∧
        p.endPoint = some ⟨20, 0⟩ ∧ q.endPoint = some ⟨0, 100⟩ := by
  intro guides
  have hw : (0 : ℝ) < 20 := by norm_num
  have hh : (0 : ℝ) < 100 := by norm_num
  have hguides : guides.Declares ((leftBrace.guides : List (GuideDecl ℝ)).map GuideDecl.name) :=
    List.forall_mem_cons.mpr ⟨⟨_, rfl⟩, List.forall_mem_singleton.mpr ⟨_, rfl⟩⟩
  have hcurved : leftBrace.HasCurvedEnds ⟨20, 100, guides⟩ := by
    show (0 : ℝ) < 16666 / 2 ∧ (0 : ℝ) < 60000 / 2 ∧ (60000 / 2 : ℝ) < 100000
    norm_num
  obtain ⟨p, q, hp, hq, hfaces⟩ := outlines_face .braces hw hh hguides
  exact ⟨.braces, hw, hh, hguides, p, q, hp, hq, hfaces.mirrored_iff.mpr hcurved,
    hfaces.left_ends_iff.mpr hcurved, hfaces.right_ends_iff.mpr hcurved⟩

/-- A left bracket of 100 by 50 whose guide leaves no height to its ends is drawn from the lower right
corner to the upper left one, across the box. It is no mirror image of the right bracket. -/
theorem flat_bracket_is_diagonal :
    let guides : GuideSet ℝ := ⟨⟨1⟩, [("adj", 0)]⟩
    ∃ p q, leftBracket.outline 100 50 guides = .ok p ∧ rightBracket.outline 100 50 guides = .ok q ∧
      p.vertices = [⟨100, 50⟩, ⟨100, 50⟩, ⟨0, 0⟩, ⟨0, 0⟩] ∧
      p.endPoint = some ⟨0, 0⟩ ∧ p.endPoint ≠ some ⟨100, 0⟩ ∧
      q.endPoint ≠ some ⟨0, 50⟩ ∧
      q.vertices ≠ (p.vertices.map (Point.flipped 100 50 true false)).reverse := by
  intro guides
  let f : Frame ℝ := ⟨100, 50, guides⟩
  have hw : (0 : ℝ) < 100 := by norm_num
  have hh : (0 : ℝ) < 50 := by norm_num
  have hguides : guides.Declares ["adj"] := List.forall_mem_singleton.mpr ⟨_, rfl⟩
  have hasked : ¬0 < f.value "adj" := by
    show ¬(0 : ℝ) < 0 / 1
    norm_num
  have hflat : ¬0 < bracketHeight f := mt (bracketHeight_pos_iff (f := f) hw hh).mp hasked
  have hgone := arcTarget_of_not_pos fun hradii : 0 < (100 : ℝ) ∧ (0 : ℝ) < 0 => lt_irrefl 0 hradii.2
  have hstations : Pen.stations ⟨100, 50⟩ [.arcTo 100 (bracketHeight f) 90 90,
      .lineTo 0 (bracketHeight f), .arcTo 100 (bracketHeight f) 180 90]
      = some [⟨100, 50⟩, ⟨0, 0⟩, ⟨0, 0⟩] := by
    rw [bracketHeight_eq_zero (f := f) hw hh hasked]
    simp [hgone]
  obtain ⟨hvertices, -, hend⟩ := Path.drawn_stations 100 50 hstations
  have hfaces := brackets_face (w := 100) (h := 50) (y := bracketHeight f) hw
  exact ⟨_, _, leftBracket_eq (f := f) hguides, rightBracket_eq (f := f) hguides, hvertices, hend,
    mt hfaces.left_ends_iff.mp hflat, mt hfaces.right_ends_iff.mp hflat,
    mt hfaces.mirrored_iff.mp hflat⟩

end Kind

end ShapeOutline
