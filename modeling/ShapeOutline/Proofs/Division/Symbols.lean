import Mathlib
import ShapeOutline.Proofs.Division.Figures
import ShapeOutline.Preset.Bracket
import ShapeOutline.Preset.Banner
import ShapeOutline.Preset.Callout
import ShapeOutline.Preset.Flowchart
import ShapeOutline.Preset.Equation
import ShapeOutline.Preset.Mark
import ShapeOutline.Preset.ActionButton

/-!
# Panels and symbols with numbers that may be something else

The formulas of brackets, banners and callouts, of flow charts, equation signs, marks and buttons give
numbers. The slash of the sign of inequality is the one formula that divides by what it has computed: by the
cosine of a lean of at most twenty degrees. The other quotients have literals for divisors or are guarded.
-/

namespace ShapeOutline.Preset

open RealExtension

variable {α : Type} [RealExtension α]

/-! ## Brackets and banners -/

theorem Bracket.givesNumbers :
    GivesNumbers Bracket.leftBracket ∧ GivesNumbers Bracket.rightBracket ∧
      GivesNumbers Bracket.leftBrace ∧ GivesNumbers Bracket.rightBrace ∧
      GivesNumbers Bracket.bracketPair ∧ GivesNumbers Bracket.bracePair := by
  simp +contextual [GivesNumbers, Bracket.curveHeight, Bracket.braceParts, Bracket.leftBracket,
    Bracket.rightBracket, Bracket.leftBrace, Bracket.rightBrace, Bracket.bracketPair,
    Bracket.bracePair]

namespace Banner

theorem givesNumbers :
    GivesNumbers ribbonDown ∧ GivesNumbers verticalScroll ∧ GivesNumbers singleWave ∧
      GivesNumbers doubleWave := by
  simp +contextual [GivesNumbers, wave, ribbonDown, verticalScroll, singleWave, doubleWave]

theorem turned_givesNumbers : GivesNumbers ribbonUp ∧ GivesNumbers horizontalScroll := by
  obtain ⟨hribbon, hscroll, -⟩ := givesNumbers
  exact ⟨hribbon.flipped false true, hscroll.transposed⟩

end Banner

/-! ## Callouts -/

namespace Callout

@[simp] theorem cloud_lifted (f : Frame ℝ) : cloud (f.lifted : Frame α) = (cloud f).lifted := by
  simp (disch := decide) [cloud, cloudArcs, Path.lifted_drawnIn]

/-- The wedge of a bubble of numbers. -/
def Wedge.lifted (v : Wedge ℝ) : Wedge α :=
  ⟨RealExtension.lifted v.x1, RealExtension.lifted v.x2, RealExtension.lifted v.y1,
    RealExtension.lifted v.y2, liftedPair v.left, liftedPair v.top, liftedPair v.right,
    liftedPair v.bottom⟩

theorem wedge_lifted (f : Frame ℝ) (dx dy : ℝ) :
    wedge (f.lifted : Frame α) (lifted dx) (lifted dy) = (wedge f dx dy).lifted := by
  simp [wedge, whenPositive, Wedge.lifted]

section

-- literals are those that formulas have
attribute [local instance] Scalar.literal

theorem Wedge.outline_of_lifted (v : Wedge ℝ) (w h radius : ℝ) :
    (v.lifted : Wedge α).outline (RealExtension.lifted w) (RealExtension.lifted h)
        (RealExtension.lifted radius)
      = (v.outline w h radius).lifted := by
  have hrounded : decide (0 < (RealExtension.lifted radius : α)) = decide (0 < radius) := by simp
  unfold outline
  rw [hrounded]
  cases decide (0 < radius) <;> simp [lifted]

end

theorem bubble_givesNumbers :
    GivesNumbers wedgeRect ∧ GivesNumbers wedgeRoundRect ∧ GivesNumbers wedgeEllipse ∧
      GivesNumbers cloudCallout := by
  simp +contextual [GivesNumbers, sinCos_eq, tipOffset, wedgeRect, wedgeRoundRect, wedgeEllipse,
    cloudCallout, wedge_lifted, Wedge.outline_of_lifted]

theorem mapM_lifted {β : Type} {point : β → Guided (α × α)} {exact : β → Guided (ℝ × ℝ)}
    (h : ∀ b, point b = (exact b).map liftedPair) (names : List β) :
    names.mapM point = (names.mapM exact).map (List.map liftedPair) := by
  induction names with
  | nil => rfl
  | cons b names ih =>
    rw [List.mapM_cons, List.mapM_cons, ih, h b]
    simp

theorem leader_lifted {f : Frame ℝ} (hf : f.Readable) (points : ℕ) :
    leader (f.lifted : Frame α) points = (leader f points).map (List.map liftedPair) := by
  refine mapM_lifted (fun b => ?_) _
  simp [hf]

theorem boxed_givesNumbers (points : ℕ) (accent : Bool) : GivesNumbers (boxed points accent) := by
  intro α _ f hf
  unfold boxed
  dsimp only
  rw [leader_lifted hf]
  cases leader f points with
  | error e => rfl
  | ok line => rcases accent with _ | _ <;> rcases line with _ | ⟨first, line⟩ <;> simp

end Callout

/-! ## Flow charts -/

namespace Flowchart

/-- The symbols that have a space of their own. -/
theorem glyphs_drawNumbers :
    DrawsNumbers inputOutput ∧ DrawsNumbers document ∧ DrawsNumbers multidocument ∧
      DrawsNumbers terminator ∧ DrawsNumbers preparation ∧ DrawsNumbers manualInput ∧
      DrawsNumbers manualOperation ∧ DrawsNumbers punchedCard ∧ DrawsNumbers punchedTape ∧
      DrawsNumbers collate ∧ DrawsNumbers sort ∧ DrawsNumbers extract ∧ DrawsNumbers merge ∧
      DrawsNumbers offlineStorage ∧ DrawsNumbers onlineStorage ∧ DrawsNumbers magneticDisk ∧
      DrawsNumbers magneticDrum ∧ DrawsNumbers display ∧ DrawsNumbers offpageConnector := by
  simp (disch := decide) [DrawsNumbers, Path.lifted_drawnIn, glyph, inputOutput, document,
    multidocument, terminator, preparation, manualInput, manualOperation, punchedCard, punchedTape,
    collate, sort, extract, merge, offlineStorage, onlineStorage, magneticDisk, magneticDrum, display,
    offpageConnector]

/-- The symbols that are drawn in the box. -/
theorem drawsNumbers :
    DrawsNumbers predefinedProcess ∧ DrawsNumbers internalStorage ∧ DrawsNumbers summingJunction ∧
      DrawsNumbers logicalOr ∧ DrawsNumbers magneticTape ∧ DrawsNumbers delay ∧
      DrawsNumbers alternateProcess := by
  simp [DrawsNumbers, sinCos_eq, Rectangle.Corners.all, predefinedProcess, internalStorage,
    summingJunction, logicalOr, magneticTape, delay, alternateProcess]

end Flowchart

/-! ## Equation signs -/

namespace Equation

theorem givesNumbers :
    GivesNumbers plusSign ∧ GivesNumbers minusSign ∧ GivesNumbers timesSign ∧
      GivesNumbers divisionSign ∧ GivesNumbers equalSign := by
  simp +contextual [GivesNumbers, sinCos_eq, bar, halfSpan, twoBars, plusSign, minusSign, timesSign,
    divisionSign, equalSign]

/-- A slash leans by at most twenty degrees from the vertical. -/
theorem cos_lean_pos {deg : ℝ} (hlow : 70 ≤ deg) (hhigh : deg ≤ 110) :
    0 < Real.cos ((deg - 90) * (Real.pi / 180)) := by
  have hdegree : 0 < Real.pi / 180 := by positivity
  have hquarter : Real.pi / 2 = 90 * (Real.pi / 180) := by ring
  refine Real.cos_pos_of_mem_Ioo ⟨?_, ?_⟩
  · rw [hquarter, ← neg_mul]
    exact mul_lt_mul_of_pos_right (by linarith) hdegree
  · rw [hquarter]
    exact mul_lt_mul_of_pos_right (by linarith) hdegree

section

-- literals are those that formulas have
attribute [local instance] Scalar.literal

theorem cos_slash_ne_zero (slash : ℝ) :
    Real.cos ((Scalar.pin 70 slash 110 - 90) * (Real.pi / (180 : ℕ))) ≠ (0 : ℕ) := by
  have hends : ((70 : ℕ) : ℝ) ≤ (110 : ℕ) := Nat.cast_le.mpr (by decide)
  obtain ⟨hlow, hhigh⟩ := Exact.pin_mem_Icc hends slash
  rw [Exact.literal_eq, Exact.literal_eq, Exact.literal_eq]
  push_cast at hlow hhigh ⊢
  exact (cos_lean_pos hlow hhigh).ne'

end

/-- The slash is the one figure that divides by what its formula computes. -/
theorem notEqualSign_givesNumbers : GivesNumbers notEqualSign := by
  intro α _ f hf
  have hcos (slash : ℝ) := cos_slash_ne_zero slash
  push_cast at hcos
  simp [notEqualSign, twoBars, bar, halfSpan, sinCos_eq, hf, hcos]

end Equation

/-! ## Marks -/

namespace Mark

@[simp] theorem diagonals_lifted (f : Frame ℝ) :
    diagonals (f.lifted : Frame α) = (diagonals f).lifted := by
  simp [diagonals]

theorem drawsNumbers :
    DrawsNumbers cornerTabs ∧ DrawsNumbers squareTabs ∧ DrawsNumbers plaqueTabs ∧
      DrawsNumbers diagonals ∧ DrawsNumbers asterisk ∧ DrawsNumbers axes := by
  simp [DrawsNumbers, Equation.bar, tabSize, cornerTabs, squareTabs, plaqueTabs, asterisk, axes]

end Mark

/-! ## Buttons -/

namespace ActionButton

/-- A part of a pictogram of numbers. -/
def Stroke.lifted : Stroke ℝ → Stroke α
  | moveTo u v => moveTo (RealExtension.lifted u) (RealExtension.lifted v)
  | lineTo u v => lineTo (RealExtension.lifted u) (RealExtension.lifted v)
  | arcTo radius start sweep =>
    arcTo (RealExtension.lifted radius) (RealExtension.lifted start) (RealExtension.lifted sweep)
  | close => close
  | polygon points => polygon (points.map liftedPair)
  | bar u1 v1 u2 v2 =>
    bar (RealExtension.lifted u1) (RealExtension.lifted v1) (RealExtension.lifted u2)
      (RealExtension.lifted v2)
  | segment u1 v1 u2 v2 =>
    segment (RealExtension.lifted u1) (RealExtension.lifted v1) (RealExtension.lifted u2)
      (RealExtension.lifted v2)
  | circle u v radius =>
    circle (RealExtension.lifted u) (RealExtension.lifted v) (RealExtension.lifted radius)

namespace Square

variable (q : Square ℝ)

/-- A square of numbers. -/
def lifted : Square α :=
  ⟨RealExtension.lifted q.x0, RealExtension.lifted q.y0, RealExtension.lifted q.side⟩

theorem centered_lifted (f : Frame ℝ) : centered (f.lifted : Frame α) = (centered f).lifted := by
  simp [centered, lifted]

theorem place_lifted (p : ℝ × ℝ) :
    (q.lifted : Square α).place (liftedPair p) = liftedPair (q.place p) := by
  simp [place, lifted]

theorem instructions_lifted (part : Stroke ℝ) :
    (q.lifted : Square α).instructions part.lifted
      = (q.instructions part).map Instruction.lifted := by
  have hside : (q.lifted : Square α).side = RealExtension.lifted q.side := rfl
  have hplace (u v : ℝ) :
      (q.lifted : Square α).place (RealExtension.lifted u, RealExtension.lifted v)
        = liftedPair (q.place (u, v)) := q.place_lifted (u, v)
  cases part with
  | polygon points =>
    have hpoints : (q.lifted : Square α).place ∘ liftedPair = liftedPair ∘ q.place :=
      funext q.place_lifted
    simp only [Stroke.lifted, instructions, Instruction.map_lifted_polygon, List.map_map, hpoints]
  | _ => simp [Stroke.lifted, instructions, hside, hplace]

end Square

theorem button_lifted (pictogram : List (Stroke ℝ)) (f : Frame ℝ) :
    button (pictogram.map Stroke.lifted) (f.lifted : Frame α) = (button pictogram f).lifted := by
  simp only [button, Polygon.rect_lifted, Square.centered_lifted, Square.instructions_lifted,
    List.map_flatMap, List.flatMap_map, Path.lifted_drawn, List.map_cons, Instruction.lifted]

theorem drawsNumbers :
    DrawsNumbers (button home) ∧ DrawsNumbers (button help) ∧ DrawsNumbers (button information) ∧
      DrawsNumbers (button forwardNext) ∧ DrawsNumbers (button backPrevious) ∧
      DrawsNumbers (button ending) ∧ DrawsNumbers (button beginning) ∧
      DrawsNumbers (button returning) ∧ DrawsNumbers (button document) ∧
      DrawsNumbers (button sound) ∧ DrawsNumbers (button movie) := by
  simp [DrawsNumbers, ← button_lifted, Stroke.lifted, home, help, information, forwardNext,
    backPrevious, ending, beginning, returning, document, sound, movie]

end ActionButton

end ShapeOutline.Preset
