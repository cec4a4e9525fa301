import Mathlib
import ShapeOutline.Proofs.Preset.Figures
import ShapeOutline.Preset.Flowchart
import ShapeOutline.Preset.Equation
import ShapeOutline.Preset.Mark
import ShapeOutline.Preset.ActionButton

/-!
# What symbols draw

The formulas of flow charts, equation signs, marks and buttons: the guides that each of them reads,
and the sketch of what it draws. Several of them put strokes behind a box or an ellipse.
-/

namespace ShapeOutline.Preset

open Guided (ok_bind)
open Sketch (figures)

variable {α : Type} [Scalar α]

/-! ## Flow charts -/

namespace Flowchart

@[simp] theorem inputOutput_drawable (f : Frame α) : (inputOutput f).Drawable (figures 1 0) :=
  .drawnIn rfl

@[simp] theorem predefinedProcess_drawable (f : Frame α) :
    (predefinedProcess f).Drawable (figures 1 2) :=
  .onto (Polygon.rect_drawable f) rfl rfl

@[simp] theorem internalStorage_drawable (f : Frame α) :
    (internalStorage f).Drawable (figures 1 2) :=
  .onto (Polygon.rect_drawable f) rfl rfl

@[simp] theorem document_drawable (f : Frame α) : (document f).Drawable (figures 1 0) :=
  .drawnIn rfl

@[simp] theorem multidocument_drawable (f : Frame α) : (multidocument f).Drawable (figures 3 0) :=
  .drawnIn rfl

@[simp] theorem terminator_drawable (f : Frame α) : (terminator f).Drawable (figures 1 0) :=
  .drawnIn rfl

@[simp] theorem preparation_drawable (f : Frame α) : (preparation f).Drawable (figures 1 0) :=
  .drawnIn rfl

@[simp] theorem manualInput_drawable (f : Frame α) : (manualInput f).Drawable (figures 1 0) :=
  .drawnIn rfl

@[simp] theorem manualOperation_drawable (f : Frame α) : (manualOperation f).Drawable (figures 1 0) :=
  .drawnIn rfl

@[simp] theorem punchedCard_drawable (f : Frame α) : (punchedCard f).Drawable (figures 1 0) :=
  .drawnIn rfl

@[simp] theorem punchedTape_drawable (f : Frame α) : (punchedTape f).Drawable (figures 1 0) :=
  .drawnIn rfl

@[simp] theorem summingJunction_drawable (f : Frame α) :
    (summingJunction f).Drawable (figures 1 2) :=
  .onto (Round.ellipse_drawable f) rfl rfl

@[simp] theorem logicalOr_drawable (f : Frame α) : (logicalOr f).Drawable (figures 1 2) :=
  .onto (Round.ellipse_drawable f) rfl rfl

@[simp] theorem collate_drawable (f : Frame α) : (collate f).Drawable (figures 1 0) := .drawnIn rfl

@[simp] theorem sort_drawable (f : Frame α) : (sort f).Drawable (figures 1 1) := .drawnIn rfl

@[simp] theorem extract_drawable (f : Frame α) : (extract f).Drawable (figures 1 0) := .drawnIn rfl

@[simp] theorem merge_drawable (f : Frame α) : (merge f).Drawable (figures 1 0) := .drawnIn rfl

@[simp] theorem offlineStorage_drawable (f : Frame α) : (offlineStorage f).Drawable (figures 1 1) :=
  .drawnIn rfl

@[simp] theorem onlineStorage_drawable (f : Frame α) : (onlineStorage f).Drawable (figures 1 0) :=
  .drawnIn rfl

@[simp] theorem magneticTape_drawable (f : Frame α) : (magneticTape f).Drawable (figures 1 0) :=
  .drawn rfl

@[simp] theorem magneticDisk_drawable (f : Frame α) : (magneticDisk f).Drawable (figures 1 1) :=
  .drawnIn rfl

@[simp] theorem magneticDrum_drawable (f : Frame α) : (magneticDrum f).Drawable (figures 1 1) :=
  .drawnIn rfl

@[simp] theorem display_drawable (f : Frame α) : (display f).Drawable (figures 1 0) := .drawnIn rfl

@[simp] theorem delay_drawable (f : Frame α) : (delay f).Drawable (figures 1 0) := .drawn rfl

@[simp] theorem alternateProcess_drawable (f : Frame α) : (alternateProcess f).Drawable (figures 1 0) :=
  Rectangle.cornered_drawable _ _ _

@[simp] theorem offpageConnector_drawable (f : Frame α) : (offpageConnector f).Drawable (figures 1 0) :=
  .drawnIn rfl

end Flowchart

/-! ## Equation signs -/

namespace Equation

@[simp] theorem plusSign_outlines : Outlines ["adj1"] (figures 1 0) (plusSign (α := α)) := by
  intro f h
  simp (disch := decide) only [plusSign, Frame.adj_eq h, ok_bind]
  exact ⟨_, rfl, .drawn rfl⟩

@[simp] theorem minusSign_outlines : Outlines ["adj1"] (figures 1 0) (minusSign (α := α)) := by
  intro f h
  simp (disch := decide) only [minusSign, Frame.adj_eq h, ok_bind]
  exact ⟨_, rfl, .drawn rfl⟩

@[simp] theorem timesSign_outlines : Outlines ["adj1"] (figures 1 0) (timesSign (α := α)) := by
  intro f h
  simp (disch := decide) only [timesSign, Frame.shortShare_eq h, ok_bind]
  exact ⟨_, rfl, .drawn rfl⟩

@[simp] theorem divisionSign_outlines :
    Outlines ["adj1", "adj2", "adj3"] (figures 3 0) (divisionSign (α := α)) := by
  intro f h
  simp (disch := decide) only [divisionSign, Frame.adj_eq h, ok_bind]
  exact ⟨_, rfl, .drawn rfl⟩

@[simp] theorem equalSign_outlines :
    Outlines ["adj1", "adj2"] (figures 2 0) (equalSign (α := α)) := by
  intro f h
  simp (disch := decide) only [equalSign, twoBars, Frame.adj_eq h, ok_bind]
  exact ⟨_, rfl, .drawn rfl⟩

@[simp] theorem notEqualSign_outlines :
    Outlines ["adj1", "adj2", "adj3"] (figures 3 0) (notEqualSign (α := α)) := by
  intro f h
  simp (disch := decide) only [notEqualSign, twoBars, Frame.adj_eq h, Frame.angle_eq h, ok_bind]
  exact ⟨_, rfl, .drawn rfl⟩

end Equation

/-! ## Marks -/

namespace Mark

@[simp] theorem cornerTabs_drawable (f : Frame α) : (cornerTabs f).Drawable (figures 4 0) :=
  .drawn rfl

@[simp] theorem squareTabs_drawable (f : Frame α) : (squareTabs f).Drawable (figures 4 0) :=
  .drawn rfl

@[simp] theorem plaqueTabs_drawable (f : Frame α) : (plaqueTabs f).Drawable (figures 4 0) :=
  .drawn rfl

@[simp] theorem diagonals_drawable (f : Frame α) : (diagonals f).Drawable (figures 1 2) :=
  .onto (Polygon.rect_drawable f) rfl rfl

@[simp] theorem asterisk_drawable (f : Frame α) : (asterisk f).Drawable (figures 1 3) :=
  .onto (diagonals_drawable f) rfl rfl

@[simp] theorem axes_drawable (f : Frame α) : (axes f).Drawable (figures 1 2) :=
  .onto (Polygon.rect_drawable f) rfl rfl

end Mark

/-! ## Buttons -/

namespace ActionButton

variable (f : Frame α)

@[simp] theorem home_drawable : (button home f).Drawable (figures 3 0) :=
  .onto (Polygon.rect_drawable f) rfl rfl

@[simp] theorem help_drawable : (button help f).Drawable (figures 4 0) :=
  .onto (Polygon.rect_drawable f) rfl rfl

@[simp] theorem information_drawable : (button information f).Drawable (figures 4 0) :=
  .onto (Polygon.rect_drawable f) rfl rfl

@[simp] theorem forwardNext_drawable : (button forwardNext f).Drawable (figures 2 0) :=
  .onto (Polygon.rect_drawable f) rfl rfl

@[simp] theorem backPrevious_drawable : (button backPrevious f).Drawable (figures 2 0) :=
  .onto (Polygon.rect_drawable f) rfl rfl

@[simp] theorem ending_drawable : (button ending f).Drawable (figures 3 0) :=
  .onto (Polygon.rect_drawable f) rfl rfl

@[simp] theorem beginning_drawable : (button beginning f).Drawable (figures 3 0) :=
  .onto (Polygon.rect_drawable f) rfl rfl

@[simp] theorem returning_drawable : (button returning f).Drawable (figures 2 0) :=
  .onto (Polygon.rect_drawable f) rfl rfl

@[simp] theorem document_drawable : (button document f).Drawable (figures 3 0) :=
  .onto (Polygon.rect_drawable f) rfl rfl

@[simp] theorem sound_drawable : (button sound f).Drawable (figures 2 3) :=
  .onto (Polygon.rect_drawable f) rfl rfl

@[simp] theorem movie_drawable : (button movie f).Drawable (figures 5 0) :=
  .onto (Polygon.rect_drawable f) rfl rfl

end ActionButton

end ShapeOutline.Preset
