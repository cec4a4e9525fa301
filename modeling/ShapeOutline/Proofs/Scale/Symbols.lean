import Mathlib
import ShapeOutline.Proofs.Scale.Figures
import ShapeOutline.Preset.Flowchart
import ShapeOutline.Preset.Equation
import ShapeOutline.Preset.Mark
import ShapeOutline.Preset.ActionButton

/-!
# Symbols at another size

The formulas of flow charts, equation signs, marks and buttons are homogeneous. Most symbols of flow
charts are drawn in a space of their own. A button is homogeneous whatever its pictogram is.
-/

namespace ShapeOutline.Preset

variable (r : Ratio) (f : Frame ℝ)

/-! ## Flow charts -/

namespace Flowchart

@[simp] theorem inputOutput_grows : Grows inputOutput :=
  fun r f => Path.drawnIn_grown r f.w f.h 5 5 rfl

@[simp] theorem predefinedProcess_grows : Grows predefinedProcess := by
  intro r f
  simp [predefinedProcess, Polygon.rect_grows r f]

@[simp] theorem internalStorage_grows : Grows internalStorage := by
  intro r f
  simp [internalStorage, Polygon.rect_grows r f]

@[simp] theorem document_grows : Grows document :=
  fun r f => Path.drawnIn_grown r f.w f.h 21600 21600 rfl

@[simp] theorem multidocument_grows : Grows multidocument :=
  fun r f => Path.drawnIn_grown r f.w f.h 21600 21600 rfl

@[simp] theorem terminator_grows : Grows terminator :=
  fun r f => Path.drawnIn_grown r f.w f.h 21600 21600 rfl

@[simp] theorem preparation_grows : Grows preparation :=
  fun r f => Path.drawnIn_grown r f.w f.h 10 10 rfl

@[simp] theorem manualInput_grows : Grows manualInput :=
  fun r f => Path.drawnIn_grown r f.w f.h 5 5 rfl

@[simp] theorem manualOperation_grows : Grows manualOperation :=
  fun r f => Path.drawnIn_grown r f.w f.h 5 5 rfl

@[simp] theorem punchedCard_grows : Grows punchedCard :=
  fun r f => Path.drawnIn_grown r f.w f.h 5 5 rfl

@[simp] theorem punchedTape_grows : Grows punchedTape :=
  fun r f => Path.drawnIn_grown r f.w f.h 20 20 rfl

@[simp] theorem summingJunction_grows : Grows summingJunction := by
  intro r f
  simp [summingJunction, Round.ellipse_grows r f]

@[simp] theorem logicalOr_grows : Grows logicalOr := by
  intro r f
  simp [logicalOr, Round.ellipse_grows r f]

@[simp] theorem collate_grows : Grows collate :=
  fun r f => Path.drawnIn_grown r f.w f.h 2 2 rfl

@[simp] theorem sort_grows : Grows sort :=
  fun r f => Path.drawnIn_grown r f.w f.h 2 2 rfl

@[simp] theorem extract_grows : Grows extract :=
  fun r f => Path.drawnIn_grown r f.w f.h 2 2 rfl

@[simp] theorem merge_grows : Grows merge :=
  fun r f => Path.drawnIn_grown r f.w f.h 2 2 rfl

@[simp] theorem offlineStorage_grows : Grows offlineStorage :=
  fun r f => Path.drawnIn_grown r f.w f.h 5 5 rfl

@[simp] theorem onlineStorage_grows : Grows onlineStorage :=
  fun r f => Path.drawnIn_grown r f.w f.h 6 6 rfl

/-- The arc to the corner of the box ends in an oblique direction. -/
theorem magneticTape_grown (h : SameRoundness r f.wd2 f.hd2) :
    magneticTape (f.grown r) = (magneticTape f).grown r := by
  simp [magneticTape, h]

@[simp] theorem magneticDisk_grows : Grows magneticDisk :=
  fun r f => Path.drawnIn_grown r f.w f.h 6 6 rfl

@[simp] theorem magneticDrum_grows : Grows magneticDrum :=
  fun r f => Path.drawnIn_grown r f.w f.h 6 6 rfl

@[simp] theorem display_grows : Grows display :=
  fun r f => Path.drawnIn_grown r f.w f.h 6 6 rfl

@[simp] theorem delay_grows : Grows delay := by
  intro r f
  simp [delay]

@[simp] theorem alternateProcess_grows : Grows alternateProcess := by
  intro r f
  simp [alternateProcess]

@[simp] theorem offpageConnector_grows : Grows offpageConnector :=
  fun r f => Path.drawnIn_grown r f.w f.h 10 10 rfl

end Flowchart

/-! ## Equation signs -/

namespace Equation

@[simp] theorem halfSpan_grown (length : ℝ) : halfSpan (grown r length) = grown r (halfSpan length) := by
  simp [halfSpan]

section

variable (x1 y1 x2 y2 : ℝ)

@[simp] theorem map_grown_bar :
    (bar x1 y1 x2 y2).map (Instruction.grown r)
      = bar (grown r x1) (grown r y1) (grown r x2) (grown r y2) := by
  simp [bar]

@[simp] theorem steady_bar : Instruction.Steady r (bar x1 y1 x2 y2) := by
  simp [bar]

end

@[simp] theorem twoBars_grown (limit : ℝ) (gap : String) :
    twoBars (f.grown r) limit gap = (twoBars f limit gap).map (grownPair r) := by
  simp [twoBars]

@[simp] theorem plusSign_homogeneous : Homogeneous false plusSign := by
  intro r f _
  simp [plusSign]

@[simp] theorem minusSign_homogeneous : Homogeneous false minusSign := by
  intro r f _
  simp [minusSign]

@[simp] theorem timesSign_homogeneous : Homogeneous false timesSign := by
  intro r f _
  simp [timesSign]

@[simp] theorem divisionSign_homogeneous : Homogeneous false divisionSign := by
  intro r f _
  simp [divisionSign]

@[simp] theorem equalSign_homogeneous : Homogeneous false equalSign := by
  intro r f _
  simp [equalSign]

@[simp] theorem notEqualSign_homogeneous : Homogeneous false notEqualSign := by
  intro r f _
  simp [notEqualSign]

end Equation

/-! ## Marks -/

namespace Mark

@[simp] theorem tabSize_grown : tabSize (f.grown r) = grown r (tabSize f) := by
  simp [tabSize]

@[simp] theorem cornerTabs_grows : Grows cornerTabs := by
  intro r f
  simp [cornerTabs]

@[simp] theorem squareTabs_grows : Grows squareTabs := by
  intro r f
  simp [squareTabs]

@[simp] theorem plaqueTabs_grows : Grows plaqueTabs := by
  intro r f
  simp [plaqueTabs]

@[simp] theorem diagonals_grows : Grows diagonals := by
  intro r f
  simp [diagonals, Polygon.rect_grows r f]

@[simp] theorem asterisk_grows : Grows asterisk := by
  intro r f
  simp [asterisk, diagonals_grows r f]

@[simp] theorem axes_grows : Grows axes := by
  intro r f
  simp [axes, Polygon.rect_grows r f]

end Mark

/-! ## Buttons -/

namespace ActionButton

namespace Square

variable (q : Square ℝ)

/-- The square of a larger pictogram. -/
def grown : Square ℝ :=
  ⟨ShapeOutline.grown r q.x0, ShapeOutline.grown r q.y0, ShapeOutline.grown r q.side⟩

theorem centered_grown : centered (f.grown r) = (centered f).grown r := by
  simp [centered, grown]

@[simp] theorem place_grown (p : ℝ × ℝ) : (q.grown r).place p = grownPair r (q.place p) := by
  simp [place, grown]

theorem instructions_grown (part : Stroke ℝ) :
    (q.grown r).instructions part = (q.instructions part).map (Instruction.grown r) := by
  have hplace : (q.grown r).place = grownPair r ∘ q.place := funext (q.place_grown r)
  have hside : (q.grown r).side = ShapeOutline.grown r q.side := rfl
  cases part <;> simp [instructions, hplace, hside]

/-- The arcs of pictograms belong to circles. -/
theorem steady_instructions (part : Stroke ℝ) : Instruction.Steady r (q.instructions part) := by
  cases part <;> simp [instructions]

end Square

@[simp] theorem button_grows (pictogram : List (Stroke ℝ)) : Grows (button pictogram) := by
  intro r f
  have hsteady :
      Instruction.Steady r (pictogram.flatMap (Square.centered f).instructions) := by
    intro i hi
    obtain ⟨part, -, hpart⟩ := List.mem_flatMap.mp hi
    exact (Square.centered f).steady_instructions r part i hpart
  have hinstructions : (Square.centered (f.grown r)).instructions
      = fun part => ((Square.centered f).instructions part).map (Instruction.grown r) := by
    rw [Square.centered_grown]
    exact funext ((Square.centered f).instructions_grown r)
  unfold button
  rw [hinstructions, Polygon.rect_grows r f]
  simp [hsteady, List.map_flatMap]

end ActionButton

end ShapeOutline.Preset
