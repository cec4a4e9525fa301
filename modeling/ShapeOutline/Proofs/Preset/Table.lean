import Mathlib
import ShapeOutline.Preset
import ShapeOutline.Proofs.Preset.Figures
import ShapeOutline.Proofs.Preset.Arrows
import ShapeOutline.Proofs.Preset.Panels
import ShapeOutline.Proofs.Preset.Symbols

/-!
# What every kind draws

The sketch of an outline depends on the kind of the shape only.

* `Kind.sketch`: the sketch of each kind;
* `Kind.preset_draws`: the formula of a kind draws it, from the guides that the kind declares;
* `Kind.outline_draws`, `Kind.outline_drawable`: so does the outline of the kind;
* `Kind.outline_resolve_drawable`: no guides of a document make a formula fail.
-/

namespace ShapeOutline

open Preset

variable {α : Type} [Scalar α]

/-- What is drawn of a kind: some closed subpaths, and behind them some that are left open. A kind
without a formula draws nothing. -/
def Kind.sketch : Kind → Sketch
  | line | straightConnector1 | lineInv | bentConnector2 | bentConnector3 | bentConnector4
    | bentConnector5 | curvedConnector2 | curvedConnector3 | curvedConnector4 | curvedConnector5
    | arc | leftBracket | rightBracket | leftBrace | rightBrace => .figures 0 1
  | bracketPair | bracePair => .figures 0 2
  | rect | triangle | rtTriangle | diamond | parallelogram | trapezoid | nonIsoscelesTrapezoid
    | pentagon | hexagon | heptagon | octagon | decagon | dodecagon | plus | homePlate | chevron
    | ellipse | teardrop | pieWedge | pie | blockArc | chord | moon | halfFrame | corner
    | diagStripe | heart | lightningBolt | roundRect | round1Rect | round2SameRect
    | round2DiagRect | snipRoundRect | snip1Rect | snip2SameRect | snip2DiagRect | plaque | star4
    | star5 | star6 | star7 | star8 | star10 | star12 | star16 | star24 | star32 | irregularSeal1
    | irregularSeal2 | rightArrow | leftArrow | upArrow | downArrow | notchedRightArrow
    | leftRightArrow | upDownArrow | quadArrow | leftRightUpArrow | leftUpArrow | bentUpArrow
    | bentArrow | uturnArrow | rightArrowCallout | leftArrowCallout | upArrowCallout
    | downArrowCallout | leftRightArrowCallout | upDownArrowCallout | quadArrowCallout
    | wedgeRectCallout | wedgeRoundRectCallout | wedgeEllipseCallout | cloud | flowChartProcess
    | flowChartDecision | flowChartInputOutput | flowChartDocument | flowChartTerminator
    | flowChartPreparation | flowChartManualInput | flowChartManualOperation | flowChartConnector
    | flowChartPunchedCard | flowChartPunchedTape | flowChartCollate | flowChartExtract
    | flowChartMerge | flowChartOnlineStorage | flowChartMagneticTape | flowChartDisplay
    | flowChartDelay | flowChartAlternateProcess | flowChartOffpageConnector | mathPlus
    | mathMinus | mathMultiply | ribbon | ribbon2 | wave | doubleWave | actionButtonBlank =>
    .figures 1 0
  | callout1 | borderCallout1 | callout2 | borderCallout2 | callout3 | borderCallout3
    | flowChartSort | flowChartOfflineStorage | flowChartMagneticDisk | flowChartMagneticDrum =>
    .figures 1 1
  | accentCallout1 | accentBorderCallout1 | accentCallout2 | accentBorderCallout2 | accentCallout3
    | accentBorderCallout3 | flowChartPredefinedProcess | flowChartInternalStorage
    | flowChartSummingJunction | flowChartOr | chartX | chartPlus => .figures 1 2
  | chartStar => .figures 1 3
  | donut | frame | foldedCorner | can | mathEqual | verticalScroll | horizontalScroll
    | actionButtonForwardNext | actionButtonBackPrevious | actionButtonReturn => .figures 2 0
  | actionButtonSound => .figures 2 3
  | bevel => .figures 2 4
  | noSmoking | cube | stripedRightArrow | flowChartMultidocument | mathDivide | mathNotEqual
    | actionButtonHome | actionButtonEnd | actionButtonBeginning | actionButtonDocument =>
    .figures 3 0
  | smileyFace => .figures 3 1
  | cloudCallout | cornerTabs | squareTabs | plaqueTabs | actionButtonHelp
    | actionButtonInformation => .figures 4 0
  | actionButtonMovie => .figures 5 0
  | sun => .figures 9 0
  | circularArrow | leftCircularArrow | leftRightCircularArrow | curvedRightArrow
    | curvedLeftArrow | curvedUpArrow | curvedDownArrow | swooshArrow | ellipseRibbon
    | ellipseRibbon2 | leftRightRibbon | gear6 | gear9 | funnel => .figures 0 0

namespace Preset

/-- The formula of a preset draws a sketch, from the guides that it names. -/
def Draws (p : Preset α) (s : Sketch) : Prop := Outlines (p.guides.map Prod.fst) s p.outline

@[simp] theorem draws_mk (guides : List (String × Int)) (formula : Frame α → Guided (Path α))
    (s : Sketch) :
    Draws ⟨guides, formula⟩ s ↔ Outlines (guides.map Prod.fst) s formula := Iff.rfl

@[simp] theorem draws_plain (draw : Frame α → Path α) (s : Sketch) :
    Draws (.plain draw) s ↔ ∀ f, (draw f).Drawable s := by
  constructor
  · intro h f
    obtain ⟨p, hp, hdraw⟩ := h f fun _ hname => absurd hname List.not_mem_nil
    rwa [Except.ok.inj hp]
  · intro h f _
    exact ⟨_, rfl, h f⟩

end Preset

namespace Kind

theorem preset_draws (k : Kind) : ∀ p ∈ (k.preset? : Option (Preset α)), p.Draws k.sketch := by
  -- one formula for each kind, and the names that the formula reads are those that it declares
  cases k <;>
    simp (disch := decide) [preset?, sketch, arrowDefaults, headDefaults, calloutDefaults1,
      calloutDefaults2, tipDefaults]

/-- A kind declares the guides that its formula names. -/
theorem guides_names {k : Kind} {p : Preset α} (hpreset : k.preset? = some p) :
    (k.guides : List (GuideDecl α)).map GuideDecl.name = p.guides.map Prod.fst := by
  rw [Kind.guides, hpreset]
  exact List.map_map

theorem outline_of_preset {k : Kind} {p : Preset α} (hpreset : k.preset? = some p) (width height : α)
    (guides : GuideSet α) : k.outline width height guides = p.outline ⟨width, height, guides⟩ := by
  rw [outline, hpreset]

/-- Whatever the box and the values of its guides are, a kind that has a formula draws its sketch. -/
theorem outline_draws {k : Kind} {p : Preset α} (hpreset : k.preset? = some p) {guides : GuideSet α}
    (h : guides.Declares ((k.guides : List (GuideDecl α)).map GuideDecl.name)) (width height : α) :
    ∃ q, k.outline width height guides = .ok q ∧ q.Drawable k.sketch := by
  -- the frame holds what the kind declares, which is what its formula reads
  rw [guides_names hpreset] at h
  obtain ⟨q, hq, hdraw⟩ := k.preset_draws p hpreset ⟨width, height, guides⟩ h
  exact ⟨q, (outline_of_preset hpreset width height guides).trans hq, hdraw⟩

/-- The same for every kind: one that has no formula draws nothing. -/
theorem outline_drawable {k : Kind} {guides : GuideSet α}
    (h : guides.Declares ((k.guides : List (GuideDecl α)).map GuideDecl.name)) (width height : α) :
    ∃ p, k.outline width height guides = .ok p ∧ (p = Path.empty ∨ p.Drawable k.sketch) := by
  cases hpreset : (k.preset? : Option (Preset α)) with
  | none => exact ⟨_, by rw [outline, hpreset], .inl rfl⟩
  | some p =>
    obtain ⟨q, hq, hdraw⟩ := outline_draws hpreset h width height
    exact ⟨q, hq, .inr hdraw⟩

/-- No guides of a document make a formula fail. -/
theorem outline_resolve_drawable (k : Kind) (width height : α) (raw : List RawGuide)
    (scale : UnitScale α) :
    ∃ p, k.outline width height (.resolve k.guides raw scale) = .ok p ∧
      (p = Path.empty ∨ p.Drawable k.sketch) :=
  outline_drawable (GuideSet.resolve_declares k.guides raw scale) width height

end Kind

end ShapeOutline
