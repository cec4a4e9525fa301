/-!
# Shape kinds

The preset shape kinds of a drawing, named as documents name them, and the groups that other parts
treat alike: lines, which may carry arrowheads; bare outlines, which take few fills; and the kinds
that have no formula.
-/

namespace ShapeOutline

/-- The preset shape kinds. -/
inductive Kind where
  | line
  | lineInv
  | triangle
  | rtTriangle
  | rect
  | diamond
  | parallelogram
  | trapezoid
  | nonIsoscelesTrapezoid
  | pentagon
  | hexagon
  | heptagon
  | octagon
  | decagon
  | dodecagon
  | star4
  | star5
  | star6
  | star7
  | star8
  | star10
  | star12
  | star16
  | star24
  | star32
  | roundRect
  | round1Rect
  | round2SameRect
  | round2DiagRect
  | snipRoundRect
  | snip1Rect
  | snip2SameRect
  | snip2DiagRect
  | plaque
  | ellipse
  | teardrop
  | homePlate
  | chevron
  | pieWedge
  | pie
  | blockArc
  | donut
  | noSmoking
  | rightArrow
  | leftArrow
  | upArrow
  | downArrow
  | stripedRightArrow
  | notchedRightArrow
  | bentUpArrow
  | leftRightArrow
  | upDownArrow
  | leftUpArrow
  | leftRightUpArrow
  | quadArrow
  | leftArrowCallout
  | rightArrowCallout
  | upArrowCallout
  | downArrowCallout
  | leftRightArrowCallout
  | upDownArrowCallout
  | quadArrowCallout
  | bentArrow
  | uturnArrow
  | circularArrow
  | leftCircularArrow
  | leftRightCircularArrow
  | curvedRightArrow
  | curvedLeftArrow
  | curvedUpArrow
  | curvedDownArrow
  | swooshArrow
  | cube
  | can
  | lightningBolt
  | heart
  | sun
  | moon
  | smileyFace
  | irregularSeal1
  | irregularSeal2
  | foldedCorner
  | bevel
  | frame
  | halfFrame
  | corner
  | diagStripe
  | chord
  | arc
  | leftBracket
  | rightBracket
  | leftBrace
  | rightBrace
  | bracketPair
  | bracePair
  | straightConnector1
  | bentConnector2
  | bentConnector3
  | bentConnector4
  | bentConnector5
  | curvedConnector2
  | curvedConnector3
  | curvedConnector4
  | curvedConnector5
  | callout1
  | callout2
  | callout3
  | accentCallout1
  | accentCallout2
  | accentCallout3
  | borderCallout1
  | borderCallout2
  | borderCallout3
  | accentBorderCallout1
  | accentBorderCallout2
  | accentBorderCallout3
  | wedgeRectCallout
  | wedgeRoundRectCallout
  | wedgeEllipseCallout
  | cloudCallout
  | cloud
  | ribbon
  | ribbon2
  | ellipseRibbon
  | ellipseRibbon2
  | leftRightRibbon
  | verticalScroll
  | horizontalScroll
  | wave
  | doubleWave
  | plus
  | flowChartProcess
  | flowChartDecision
  | flowChartInputOutput
  | flowChartPredefinedProcess
  | flowChartInternalStorage
  | flowChartDocument
  | flowChartMultidocument
  | flowChartTerminator
  | flowChartPreparation
  | flowChartManualInput
  | flowChartManualOperation
  | flowChartConnector
  | flowChartPunchedCard
  | flowChartPunchedTape
  | flowChartSummingJunction
  | flowChartOr
  | flowChartCollate
  | flowChartSort
  | flowChartExtract
  | flowChartMerge
  | flowChartOfflineStorage
  | flowChartOnlineStorage
  | flowChartMagneticTape
  | flowChartMagneticDisk
  | flowChartMagneticDrum
  | flowChartDisplay
  | flowChartDelay
  | flowChartAlternateProcess
  | flowChartOffpageConnector
  | actionButtonBlank
  | actionButtonHome
  | actionButtonHelp
  | actionButtonInformation
  | actionButtonForwardNext
  | actionButtonBackPrevious
  | actionButtonEnd
  | actionButtonBeginning
  | actionButtonReturn
  | actionButtonDocument
  | actionButtonSound
  | actionButtonMovie
  | gear6
  | gear9
  | funnel
  | mathPlus
  | mathMinus
  | mathMultiply
  | mathDivide
  | mathEqual
  | mathNotEqual
  | cornerTabs
  | squareTabs
  | plaqueTabs
  | chartX
  | chartStar
  | chartPlus
deriving DecidableEq, Repr

namespace Kind

/-- The name of a kind in documents. -/
def tag : Kind → String
  | line => "line"
  | lineInv => "lineInv"
  | triangle => "triangle"
  | rtTriangle => "rtTriangle"
  | rect => "rect"
  | diamond => "diamond"
  | parallelogram => "parallelogram"
  | trapezoid => "trapezoid"
  | nonIsoscelesTrapezoid => "nonIsoscelesTrapezoid"
  | pentagon => "pentagon"
  | hexagon => "hexagon"
  | heptagon => "heptagon"
  | octagon => "octagon"
  | decagon => "decagon"
  | dodecagon => "dodecagon"
  | star4 => "star4"
  | star5 => "star5"
  | star6 => "star6"
  | star7 => "star7"
  | star8 => "star8"
  | star10 => "star10"
  | star12 => "star12"
  | star16 => "star16"
  | star24 => "star24"
  | star32 => "star32"
  | roundRect => "roundRect"
  | round1Rect => "round1Rect"
  | round2SameRect => "round2SameRect"
  | round2DiagRect => "round2DiagRect"
  | snipRoundRect => "snipRoundRect"
  | snip1Rect => "snip1Rect"
  | snip2SameRect => "snip2SameRect"
  | snip2DiagRect => "snip2DiagRect"
  | plaque => "plaque"
  | ellipse => "ellipse"
  | teardrop => "teardrop"
  | homePlate => "homePlate"
  | chevron => "chevron"
  | pieWedge => "pieWedge"
  | pie => "pie"
  | blockArc => "blockArc"
  | donut => "donut"
  | noSmoking => "noSmoking"
  | rightArrow => "rightArrow"
  | leftArrow => "leftArrow"
  | upArrow => "upArrow"
  | downArrow => "downArrow"
  | stripedRightArrow => "stripedRightArrow"
  | notchedRightArrow => "notchedRightArrow"
  | bentUpArrow => "bentUpArrow"
  | leftRightArrow => "leftRightArrow"
  | upDownArrow => "upDownArrow"
  | leftUpArrow => "leftUpArrow"
  | leftRightUpArrow => "leftRightUpArrow"
  | quadArrow => "quadArrow"
  | leftArrowCallout => "leftArrowCallout"
  | rightArrowCallout => "rightArrowCallout"
  | upArrowCallout => "upArrowCallout"
  | downArrowCallout => "downArrowCallout"
  | leftRightArrowCallout => "leftRightArrowCallout"
  | upDownArrowCallout => "upDownArrowCallout"
  | quadArrowCallout => "quadArrowCallout"
  | bentArrow => "bentArrow"
  | uturnArrow => "uturnArrow"
  | circularArrow => "circularArrow"
  | leftCircularArrow => "leftCircularArrow"
  | leftRightCircularArrow => "leftRightCircularArrow"
  | curvedRightArrow => "curvedRightArrow"
  | curvedLeftArrow => "curvedLeftArrow"
  | curvedUpArrow => "curvedUpArrow"
  | curvedDownArrow => "curvedDownArrow"
  | swooshArrow => "swooshArrow"
  | cube => "cube"
  | can => "can"
  | lightningBolt => "lightningBolt"
  | heart => "heart"
  | sun => "sun"
  | moon => "moon"
  | smileyFace => "smileyFace"
  | irregularSeal1 => "irregularSeal1"
  | irregularSeal2 => "irregularSeal2"
  | foldedCorner => "foldedCorner"
  | bevel => "bevel"
  | frame => "frame"
  | halfFrame => "halfFrame"
  | corner => "corner"
  | diagStripe => "diagStripe"
  | chord => "chord"
  | arc => "arc"
  | leftBracket => "leftBracket"
  | rightBracket => "rightBracket"
  | leftBrace => "leftBrace"
  | rightBrace => "rightBrace"
  | bracketPair => "bracketPair"
  | bracePair => "bracePair"
  | straightConnector1 => "straightConnector1"
  | bentConnector2 => "bentConnector2"
  | bentConnector3 => "bentConnector3"
  | bentConnector4 => "bentConnector4"
  | bentConnector5 => "bentConnector5"
  | curvedConnector2 => "curvedConnector2"
  | curvedConnector3 => "curvedConnector3"
  | curvedConnector4 => "curvedConnector4"
  | curvedConnector5 => "curvedConnector5"
  | callout1 => "callout1"
  | callout2 => "callout2"
  | callout3 => "callout3"
  | accentCallout1 => "accentCallout1"
  | accentCallout2 => "accentCallout2"
  | accentCallout3 => "accentCallout3"
  | borderCallout1 => "borderCallout1"
  | borderCallout2 => "borderCallout2"
  | borderCallout3 => "borderCallout3"
  | accentBorderCallout1 => "accentBorderCallout1"
  | accentBorderCallout2 => "accentBorderCallout2"
  | accentBorderCallout3 => "accentBorderCallout3"
  | wedgeRectCallout => "wedgeRectCallout"
  | wedgeRoundRectCallout => "wedgeRoundRectCallout"
  | wedgeEllipseCallout => "wedgeEllipseCallout"
  | cloudCallout => "cloudCallout"
  | cloud => "cloud"
  | ribbon => "ribbon"
  | ribbon2 => "ribbon2"
  | ellipseRibbon => "ellipseRibbon"
  | ellipseRibbon2 => "ellipseRibbon2"
  | leftRightRibbon => "leftRightRibbon"
  | verticalScroll => "verticalScroll"
  | horizontalScroll => "horizontalScroll"
  | wave => "wave"
  | doubleWave => "doubleWave"
  | plus => "plus"
  | flowChartProcess => "flowChartProcess"
  | flowChartDecision => "flowChartDecision"
  | flowChartInputOutput => "flowChartInputOutput"
  | flowChartPredefinedProcess => "flowChartPredefinedProcess"
  | flowChartInternalStorage => "flowChartInternalStorage"
  | flowChartDocument => "flowChartDocument"
  | flowChartMultidocument => "flowChartMultidocument"
  | flowChartTerminator => "flowChartTerminator"
  | flowChartPreparation => "flowChartPreparation"
  | flowChartManualInput => "flowChartManualInput"
  | flowChartManualOperation => "flowChartManualOperation"
  | flowChartConnector => "flowChartConnector"
  | flowChartPunchedCard => "flowChartPunchedCard"
  | flowChartPunchedTape => "flowChartPunchedTape"
  | flowChartSummingJunction => "flowChartSummingJunction"
  | flowChartOr => "flowChartOr"
  | flowChartCollate => "flowChartCollate"
  | flowChartSort => "flowChartSort"
  | flowChartExtract => "flowChartExtract"
  | flowChartMerge => "flowChartMerge"
  | flowChartOfflineStorage => "flowChartOfflineStorage"
  | flowChartOnlineStorage => "flowChartOnlineStorage"
  | flowChartMagneticTape => "flowChartMagneticTape"
  | flowChartMagneticDisk => "flowChartMagneticDisk"
  | flowChartMagneticDrum => "flowChartMagneticDrum"
  | flowChartDisplay => "flowChartDisplay"
  | flowChartDelay => "flowChartDelay"
  | flowChartAlternateProcess => "flowChartAlternateProcess"
  | flowChartOffpageConnector => "flowChartOffpageConnector"
  | actionButtonBlank => "actionButtonBlank"
  | actionButtonHome => "actionButtonHome"
  | actionButtonHelp => "actionButtonHelp"
  | actionButtonInformation => "actionButtonInformation"
  | actionButtonForwardNext => "actionButtonForwardNext"
  | actionButtonBackPrevious => "actionButtonBackPrevious"
  | actionButtonEnd => "actionButtonEnd"
  | actionButtonBeginning => "actionButtonBeginning"
  | actionButtonReturn => "actionButtonReturn"
  | actionButtonDocument => "actionButtonDocument"
  | actionButtonSound => "actionButtonSound"
  | actionButtonMovie => "actionButtonMovie"
  | gear6 => "gear6"
  | gear9 => "gear9"
  | funnel => "funnel"
  | mathPlus => "mathPlus"
  | mathMinus => "mathMinus"
  | mathMultiply => "mathMultiply"
  | mathDivide => "mathDivide"
  | mathEqual => "mathEqual"
  | mathNotEqual => "mathNotEqual"
  | cornerTabs => "cornerTabs"
  | squareTabs => "squareTabs"
  | plaqueTabs => "plaqueTabs"
  | chartX => "chartX"
  | chartStar => "chartStar"
  | chartPlus => "chartPlus"

/-- All kinds, in the order in which they are listed. -/
def all : List Kind :=
  [line, lineInv, triangle, rtTriangle, rect, diamond, parallelogram, trapezoid,
    nonIsoscelesTrapezoid, pentagon, hexagon, heptagon, octagon, decagon, dodecagon, star4, star5,
    star6, star7, star8, star10, star12, star16, star24, star32, roundRect, round1Rect,
    round2SameRect, round2DiagRect, snipRoundRect, snip1Rect, snip2SameRect, snip2DiagRect, plaque,
    ellipse, teardrop, homePlate, chevron, pieWedge, pie, blockArc, donut, noSmoking, rightArrow,
    leftArrow, upArrow, downArrow, stripedRightArrow, notchedRightArrow, bentUpArrow,
    leftRightArrow, upDownArrow, leftUpArrow, leftRightUpArrow, quadArrow, leftArrowCallout,
    rightArrowCallout, upArrowCallout, downArrowCallout, leftRightArrowCallout, upDownArrowCallout,
    quadArrowCallout, bentArrow, uturnArrow, circularArrow, leftCircularArrow,
    leftRightCircularArrow, curvedRightArrow, curvedLeftArrow, curvedUpArrow, curvedDownArrow,
    swooshArrow, cube, can, lightningBolt, heart, sun, moon, smileyFace, irregularSeal1,
    irregularSeal2, foldedCorner, bevel, frame, halfFrame, corner, diagStripe, chord, arc,
    leftBracket, rightBracket, leftBrace, rightBrace, bracketPair, bracePair, straightConnector1,
    bentConnector2, bentConnector3, bentConnector4, bentConnector5, curvedConnector2,
    curvedConnector3, curvedConnector4, curvedConnector5, callout1, callout2, callout3,
    accentCallout1, accentCallout2, accentCallout3, borderCallout1, borderCallout2, borderCallout3,
    accentBorderCallout1, accentBorderCallout2, accentBorderCallout3, wedgeRectCallout,
    wedgeRoundRectCallout, wedgeEllipseCallout, cloudCallout, cloud, ribbon, ribbon2,
    ellipseRibbon, ellipseRibbon2, leftRightRibbon, verticalScroll, horizontalScroll, wave,
    doubleWave, plus, flowChartProcess, flowChartDecision, flowChartInputOutput,
    flowChartPredefinedProcess, flowChartInternalStorage, flowChartDocument,
    flowChartMultidocument, flowChartTerminator, flowChartPreparation, flowChartManualInput,
    flowChartManualOperation, flowChartConnector, flowChartPunchedCard, flowChartPunchedTape,
    flowChartSummingJunction, flowChartOr, flowChartCollate, flowChartSort, flowChartExtract,
    flowChartMerge, flowChartOfflineStorage, flowChartOnlineStorage, flowChartMagneticTape,
    flowChartMagneticDisk, flowChartMagneticDrum, flowChartDisplay, flowChartDelay,
    flowChartAlternateProcess, flowChartOffpageConnector, actionButtonBlank, actionButtonHome,
    actionButtonHelp, actionButtonInformation, actionButtonForwardNext, actionButtonBackPrevious,
    actionButtonEnd, actionButtonBeginning, actionButtonReturn, actionButtonDocument,
    actionButtonSound, actionButtonMovie, gear6, gear9, funnel, mathPlus, mathMinus, mathMultiply,
    mathDivide, mathEqual, mathNotEqual, cornerTabs, squareTabs, plaqueTabs, chartX, chartStar,
    chartPlus]

/-- The kind with a given name. -/
def ofTag? (text : String) : Option Kind := all.find? fun k => k.tag == text

/-- Lines and connectors: open outlines that may carry arrowheads. -/
def isLineLike : Kind → Bool
  | line | lineInv | straightConnector1 | bentConnector2 | bentConnector3 | bentConnector4
  | bentConnector5 | curvedConnector2 | curvedConnector3 | curvedConnector4 | curvedConnector5
  | arc => true
  | _ => false

/-- Bare outlines, to which only solid and pattern fills apply. -/
def isOutlineOnly : Kind → Bool
  | arc | leftBracket | rightBracket | leftBrace | rightBrace | bracketPair | bracePair => true
  | _ => false

/-- The kinds that have no formula. -/
def withoutFormula : List Kind :=
  [circularArrow, leftCircularArrow, leftRightCircularArrow, curvedRightArrow, curvedLeftArrow,
    curvedUpArrow, curvedDownArrow, swooshArrow, ellipseRibbon, ellipseRibbon2, leftRightRibbon,
    gear6, gear9, funnel]

end Kind

end ShapeOutline
