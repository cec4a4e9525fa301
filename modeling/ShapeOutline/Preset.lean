import ShapeOutline.Kind
import ShapeOutline.Preset.Polygon
import ShapeOutline.Preset.Round
import ShapeOutline.Preset.Border
import ShapeOutline.Preset.Pictorial
import ShapeOutline.Preset.Rectangle
import ShapeOutline.Preset.Star
import ShapeOutline.Preset.Connector
import ShapeOutline.Preset.Bracket
import ShapeOutline.Preset.BlockArrow
import ShapeOutline.Preset.ArrowCallout
import ShapeOutline.Preset.Banner
import ShapeOutline.Preset.Callout
import ShapeOutline.Preset.Flowchart
import ShapeOutline.Preset.Equation
import ShapeOutline.Preset.Mark
import ShapeOutline.Preset.ActionButton

/-!
# The formula of every kind

Each shape kind has a preset, except those that have no formula and draw nothing.

* `Kind.preset?`: the table of formulas and of the guides they read;
* `Kind.guides`: the guides of a kind with their defaults;
* `Kind.outline`: the outline of a kind in a box.
-/

namespace ShapeOutline.Kind

open Preset

variable {α : Type} [Scalar α]

/-- The guides of the leader lines with two points. -/
def leaderDefaults2 : List (String × Int) :=
  [("adj1", 18750), ("adj2", -8333), ("adj3", 112500), ("adj4", -38333)]

/-- The guides of the leader lines with three points. -/
def leaderDefaults3 : List (String × Int) :=
  [("adj1", 18750), ("adj2", -8333), ("adj3", 18750), ("adj4", -16667), ("adj5", 112500),
    ("adj6", -46667)]

/-- The guides of the leader lines with four points. -/
def leaderDefaults4 : List (String × Int) :=
  [("adj1", 18750), ("adj2", -8333), ("adj3", 18750), ("adj4", -16667), ("adj5", 100000),
    ("adj6", -16667), ("adj7", 112963), ("adj8", -8333)]

/-- The guides of arrows with a shaft and heads of one size. -/
def arrowDefaults : List (String × Int) := [("adj1", 50000), ("adj2", 50000)]

/-- The guides of arrows that go several ways or turn once. -/
def headDefaults : List (String × Int) := [("adj1", 25000), ("adj2", 25000), ("adj3", 25000)]

/-- The guides of boxes with one arrow. -/
def calloutDefaults1 : List (String × Int) := headDefaults ++ [("adj4", 64977)]

/-- The guides of boxes with two arrows. -/
def calloutDefaults2 : List (String × Int) := headDefaults ++ [("adj4", 48123)]

/-- The guides of the tip of a bubble. -/
def tipDefaults : List (String × Int) := [("adj1", -20833), ("adj2", 62500)]

/-- The formula of a kind with the guides it reads. -/
def preset? : Kind → Option (Preset α)
  | line | straightConnector1 => some (.plain Connector.line)
  | lineInv => some (.plain Connector.lineInverted)
  | bentConnector2 => some (.plain Connector.bent2)
  | bentConnector3 => some ⟨[("adj1", 50000)], Connector.bent3⟩
  | bentConnector4 => some ⟨[("adj1", 50000), ("adj2", 50000)], Connector.bent4⟩
  | bentConnector5 => some ⟨[("adj1", 50000), ("adj2", 50000), ("adj3", 50000)], Connector.bent5⟩
  | curvedConnector2 => some (.plain Connector.curved2)
  | curvedConnector3 => some ⟨[("adj1", 50000)], Connector.curved3⟩
  | curvedConnector4 => some ⟨[("adj1", 50000), ("adj2", 50000)], Connector.curved4⟩
  | curvedConnector5 =>
    some ⟨[("adj1", 50000), ("adj2", 50000), ("adj3", 50000)], Connector.curved5⟩
  | rect => some (.plain Polygon.rect)
  | triangle => some ⟨[("adj", 50000)], Polygon.triangle⟩
  | rtTriangle => some (.plain Polygon.rightTriangle)
  | diamond => some (.plain Polygon.diamond)
  | parallelogram => some ⟨[("adj", 25000)], Polygon.parallelogram⟩
  | trapezoid => some ⟨[("adj", 25000)], Polygon.trapezoid⟩
  | nonIsoscelesTrapezoid =>
    some ⟨[("adj1", 25000), ("adj2", 25000)], Polygon.nonIsoscelesTrapezoid⟩
  | pentagon => some ⟨[("hf", 105146), ("vf", 110557)], Polygon.pentagon⟩
  | hexagon => some ⟨[("adj", 25000), ("vf", 115470)], Polygon.hexagon⟩
  | heptagon => some ⟨[("hf", 102572), ("vf", 105210)], Polygon.heptagon⟩
  | octagon => some ⟨[("adj", 29289)], Polygon.octagon⟩
  | decagon => some ⟨[("vf", 105146)], Polygon.decagon⟩
  | dodecagon => some (.plain Polygon.dodecagon)
  | plus => some ⟨[("adj", 25000)], Polygon.cross⟩
  | homePlate => some ⟨[("adj", 50000)], Polygon.homePlate⟩
  | chevron => some ⟨[("adj", 50000)], Polygon.chevron⟩
  | ellipse => some (.plain Round.ellipse)
  | teardrop => some ⟨[("adj", 100000)], Round.teardrop⟩
  | pieWedge => some (.plain Round.pieWedge)
  | pie => some ⟨[("adj1", 0), ("adj2", 16200000)], Round.pie⟩
  | blockArc => some ⟨[("adj1", 10800000), ("adj2", 0), ("adj3", 25000)], Round.blockArc⟩
  | donut => some ⟨[("adj", 25000)], Round.donut⟩
  | noSmoking => some ⟨[("adj", 18750)], Round.noSmoking⟩
  | chord => some ⟨[("adj1", 2700000), ("adj2", 16200000)], Round.chord⟩
  | arc => some ⟨[("adj1", 16200000), ("adj2", 0)], Round.arc⟩
  | moon => some ⟨[("adj", 50000)], Round.moon⟩
  | frame => some ⟨[("adj1", 12500)], Border.frame⟩
  | halfFrame => some ⟨[("adj1", 33333), ("adj2", 33333)], Border.halfFrame⟩
  | corner => some ⟨[("adj1", 50000), ("adj2", 50000)], Border.corner⟩
  | diagStripe => some ⟨[("adj", 50000)], Border.diagonalStripe⟩
  | bevel => some ⟨[("adj", 12500)], Border.bevel⟩
  | foldedCorner => some ⟨[("adj", 16667)], Border.foldedCorner⟩
  | can => some ⟨[("adj", 25000)], Pictorial.can⟩
  | cube => some ⟨[("adj", 25000)], Pictorial.cube⟩
  | smileyFace => some ⟨[("adj", 4653)], Pictorial.smileyFace⟩
  | heart => some (.plain Pictorial.heart)
  | lightningBolt => some (.plain Pictorial.lightningBolt)
  | sun => some ⟨[("adj", 25000)], Pictorial.sun⟩
  | roundRect => some ⟨[("adj", 16667)], Rectangle.roundAll⟩
  | round1Rect => some ⟨[("adj", 16667)], Rectangle.roundOne⟩
  | round2SameRect => some ⟨[("adj1", 16667), ("adj2", 0)], Rectangle.roundSameSide⟩
  | round2DiagRect => some ⟨[("adj1", 16667), ("adj2", 0)], Rectangle.roundDiagonal⟩
  | snipRoundRect => some ⟨[("adj1", 16667), ("adj2", 16667)], Rectangle.snipAndRound⟩
  | snip1Rect => some ⟨[("adj", 16667)], Rectangle.snipOne⟩
  | snip2SameRect => some ⟨[("adj1", 16667), ("adj2", 0)], Rectangle.snipSameSide⟩
  | snip2DiagRect => some ⟨[("adj1", 0), ("adj2", 16667)], Rectangle.snipDiagonal⟩
  | plaque => some ⟨[("adj", 16667)], Rectangle.plaque⟩
  | star4 => some ⟨[("adj", 12500)], Star.even 4⟩
  | star5 => some ⟨[("adj", 19098), ("hf", 105146), ("vf", 110557)], Star.star5⟩
  | star6 => some ⟨[("adj", 28868), ("hf", 115470)], Star.star6⟩
  | star7 => some ⟨[("adj", 34601), ("hf", 102572), ("vf", 105210)], Star.star7⟩
  | star8 => some ⟨[("adj", 38250)], Star.even 8⟩
  | star10 => some ⟨[("adj", 42533), ("hf", 105146)], Star.star10⟩
  | star12 => some ⟨[("adj", 37500)], Star.even 12⟩
  | star16 => some ⟨[("adj", 37500)], Star.even 16⟩
  | star24 => some ⟨[("adj", 37500)], Star.even 24⟩
  | star32 => some ⟨[("adj", 37500)], Star.even 32⟩
  | irregularSeal1 => some (.plain Star.irregularSeal1)
  | irregularSeal2 => some (.plain Star.irregularSeal2)
  | rightArrow => some ⟨arrowDefaults, BlockArrow.right⟩
  | leftArrow => some ⟨arrowDefaults, BlockArrow.left⟩
  | upArrow => some ⟨arrowDefaults, BlockArrow.up⟩
  | downArrow => some ⟨arrowDefaults, BlockArrow.down⟩
  | stripedRightArrow => some ⟨arrowDefaults, BlockArrow.stripedRight⟩
  | notchedRightArrow => some ⟨arrowDefaults, BlockArrow.notchedRight⟩
  | leftRightArrow => some ⟨arrowDefaults, BlockArrow.leftRight⟩
  | upDownArrow => some ⟨arrowDefaults, BlockArrow.upDown⟩
  | quadArrow => some ⟨[("adj1", 22500), ("adj2", 22500), ("adj3", 22500)], BlockArrow.quad⟩
  | leftRightUpArrow => some ⟨headDefaults, BlockArrow.leftRightUp⟩
  | leftUpArrow => some ⟨headDefaults, BlockArrow.leftUp⟩
  | bentUpArrow => some ⟨headDefaults, BlockArrow.bentUp⟩
  | bentArrow => some ⟨headDefaults ++ [("adj4", 43750)], BlockArrow.bent⟩
  | uturnArrow => some ⟨headDefaults ++ [("adj4", 43750), ("adj5", 75000)], BlockArrow.uTurn⟩
  | rightArrowCallout => some ⟨calloutDefaults1, ArrowCallout.right⟩
  | leftArrowCallout => some ⟨calloutDefaults1, ArrowCallout.left⟩
  | upArrowCallout => some ⟨calloutDefaults1, ArrowCallout.up⟩
  | downArrowCallout => some ⟨calloutDefaults1, ArrowCallout.down⟩
  | leftRightArrowCallout => some ⟨calloutDefaults2, ArrowCallout.leftRight⟩
  | upDownArrowCallout => some ⟨calloutDefaults2, ArrowCallout.upDown⟩
  | quadArrowCallout =>
    some ⟨[("adj1", 18515), ("adj2", 18515), ("adj3", 18515), ("adj4", 48123)], ArrowCallout.quad⟩
  | wedgeRectCallout => some ⟨tipDefaults, Callout.wedgeRect⟩
  | wedgeRoundRectCallout => some ⟨tipDefaults ++ [("adj3", 16667)], Callout.wedgeRoundRect⟩
  | wedgeEllipseCallout => some ⟨tipDefaults, Callout.wedgeEllipse⟩
  | cloud => some (.plain Callout.cloud)
  | cloudCallout => some ⟨tipDefaults, Callout.cloudCallout⟩
  | callout1 | borderCallout1 => some ⟨leaderDefaults2, Callout.boxed 2 false⟩
  | callout2 | borderCallout2 => some ⟨leaderDefaults3, Callout.boxed 3 false⟩
  | callout3 | borderCallout3 => some ⟨leaderDefaults4, Callout.boxed 4 false⟩
  | accentCallout1 | accentBorderCallout1 => some ⟨leaderDefaults2, Callout.boxed 2 true⟩
  | accentCallout2 | accentBorderCallout2 => some ⟨leaderDefaults3, Callout.boxed 3 true⟩
  | accentCallout3 | accentBorderCallout3 => some ⟨leaderDefaults4, Callout.boxed 4 true⟩
  | flowChartProcess => some (.plain Polygon.rect)
  | flowChartDecision => some (.plain Polygon.diamond)
  | flowChartInputOutput => some (.plain Flowchart.inputOutput)
  | flowChartPredefinedProcess => some (.plain Flowchart.predefinedProcess)
  | flowChartInternalStorage => some (.plain Flowchart.internalStorage)
  | flowChartDocument => some (.plain Flowchart.document)
  | flowChartMultidocument => some (.plain Flowchart.multidocument)
  | flowChartTerminator => some (.plain Flowchart.terminator)
  | flowChartPreparation => some (.plain Flowchart.preparation)
  | flowChartManualInput => some (.plain Flowchart.manualInput)
  | flowChartManualOperation => some (.plain Flowchart.manualOperation)
  | flowChartConnector => some (.plain Round.ellipse)
  | flowChartPunchedCard => some (.plain Flowchart.punchedCard)
  | flowChartPunchedTape => some (.plain Flowchart.punchedTape)
  | flowChartSummingJunction => some (.plain Flowchart.summingJunction)
  | flowChartOr => some (.plain Flowchart.logicalOr)
  | flowChartCollate => some (.plain Flowchart.collate)
  | flowChartSort => some (.plain Flowchart.sort)
  | flowChartExtract => some (.plain Flowchart.extract)
  | flowChartMerge => some (.plain Flowchart.merge)
  | flowChartOfflineStorage => some (.plain Flowchart.offlineStorage)
  | flowChartOnlineStorage => some (.plain Flowchart.onlineStorage)
  | flowChartMagneticTape => some (.plain Flowchart.magneticTape)
  | flowChartMagneticDisk => some (.plain Flowchart.magneticDisk)
  | flowChartMagneticDrum => some (.plain Flowchart.magneticDrum)
  | flowChartDisplay => some (.plain Flowchart.display)
  | flowChartDelay => some (.plain Flowchart.delay)
  | flowChartAlternateProcess => some (.plain Flowchart.alternateProcess)
  | flowChartOffpageConnector => some (.plain Flowchart.offpageConnector)
  | leftBracket => some ⟨[("adj", 8333)], Bracket.leftBracket⟩
  | rightBracket => some ⟨[("adj", 8333)], Bracket.rightBracket⟩
  | leftBrace => some ⟨[("adj1", 8333), ("adj2", 50000)], Bracket.leftBrace⟩
  | rightBrace => some ⟨[("adj1", 8333), ("adj2", 50000)], Bracket.rightBrace⟩
  | bracketPair => some ⟨[("adj", 16667)], Bracket.bracketPair⟩
  | bracePair => some ⟨[("adj", 8333)], Bracket.bracePair⟩
  | mathPlus => some ⟨[("adj1", 23520)], Equation.plusSign⟩
  | mathMinus => some ⟨[("adj1", 23520)], Equation.minusSign⟩
  | mathMultiply => some ⟨[("adj1", 23520)], Equation.timesSign⟩
  | mathDivide => some ⟨[("adj1", 23520), ("adj2", 5880), ("adj3", 11760)], Equation.divisionSign⟩
  | mathEqual => some ⟨[("adj1", 23520), ("adj2", 11760)], Equation.equalSign⟩
  | mathNotEqual =>
    some ⟨[("adj1", 23520), ("adj2", 6600000), ("adj3", 11760)], Equation.notEqualSign⟩
  | cornerTabs => some (.plain Mark.cornerTabs)
  | squareTabs => some (.plain Mark.squareTabs)
  | plaqueTabs => some (.plain Mark.plaqueTabs)
  | chartX => some (.plain Mark.diagonals)
  | chartStar => some (.plain Mark.asterisk)
  | chartPlus => some (.plain Mark.axes)
  | ribbon => some ⟨[("adj1", 16667), ("adj2", 50000)], Banner.ribbonDown⟩
  | ribbon2 => some ⟨[("adj1", 16667), ("adj2", 50000)], Banner.ribbonUp⟩
  | verticalScroll => some ⟨[("adj", 12500)], Banner.verticalScroll⟩
  | horizontalScroll => some ⟨[("adj", 12500)], Banner.horizontalScroll⟩
  | wave => some ⟨[("adj1", 12500), ("adj2", 0)], Banner.singleWave⟩
  | doubleWave => some ⟨[("adj1", 6250), ("adj2", 0)], Banner.doubleWave⟩
  | actionButtonBlank => some (.plain Polygon.rect)
  | actionButtonHome => some (.plain (ActionButton.button ActionButton.home))
  | actionButtonHelp => some (.plain (ActionButton.button ActionButton.help))
  | actionButtonInformation => some (.plain (ActionButton.button ActionButton.information))
  | actionButtonForwardNext => some (.plain (ActionButton.button ActionButton.forwardNext))
  | actionButtonBackPrevious => some (.plain (ActionButton.button ActionButton.backPrevious))
  | actionButtonEnd => some (.plain (ActionButton.button ActionButton.ending))
  | actionButtonBeginning => some (.plain (ActionButton.button ActionButton.beginning))
  | actionButtonReturn => some (.plain (ActionButton.button ActionButton.returning))
  | actionButtonDocument => some (.plain (ActionButton.button ActionButton.document))
  | actionButtonSound => some (.plain (ActionButton.button ActionButton.sound))
  | actionButtonMovie => some (.plain (ActionButton.button ActionButton.movie))
  | circularArrow | leftCircularArrow | leftRightCircularArrow | curvedRightArrow
  | curvedLeftArrow | curvedUpArrow | curvedDownArrow | swooshArrow | ellipseRibbon
  | ellipseRibbon2 | leftRightRibbon | gear6 | gear9 | funnel => none

/-- The guides that the formula of a kind reads. -/
def guides (k : Kind) : List (GuideDecl α) :=
  match (k.preset? : Option (Preset α)) with
  | some p => p.guides.map fun g => ⟨g.1, Scalar.ofInt g.2⟩
  | none => []

/-- The outline of a kind in a box. A kind without a formula has the empty outline. -/
def outline (k : Kind) (w h : α) (guides : GuideSet α) : Guided (Path α) :=
  match (k.preset? : Option (Preset α)) with
  | some p => p.outline ⟨w, h, guides⟩
  | none => .ok Path.empty

end ShapeOutline.Kind
