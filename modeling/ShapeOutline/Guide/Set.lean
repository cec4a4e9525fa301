import ShapeOutline.Guide.Formula
import ShapeOutline.Measure

/-!
# Guide sets

A shape kind declares the guides that its formula reads, each with a default. A document gives some
of them a formula of its own. Resolving takes the document's value where it is readable, else the
default, and multiplies by the scale; formulas read the values back in document units and clamp them
themselves. Reading a guide that was never declared is a fault of the formula that reads it.
-/

namespace ShapeOutline

/-- A guide as a document states it. -/
structure RawGuide where
  name : String
  formula : String

/-- A guide that a kind reads, with its default in document units. -/
structure GuideDecl (α : Type) where
  name : String
  default : α

/-- A guide was read that the kind does not declare. -/
structure UndeclaredGuide where
  name : String
deriving DecidableEq, Repr

/-- What is said of a guide that is not declared. -/
def UndeclaredGuide.message (e : UndeclaredGuide) : String :=
  "guide `" ++ e.name ++ "` is not declared for this shape kind"

/-- What is computed from guides: a value, unless a guide was read that is not declared. -/
abbrev Guided : Type → Type := Except UndeclaredGuide

/-- The values of the declared guides, multiplied by the scale. -/
structure GuideSet (α : Type) where
  scale : UnitScale α
  values : List (String × α)

namespace GuideSet

variable {α : Type} [Scalar α]

/-- No guides. -/
def empty (scale : UnitScale α) : GuideSet α := ⟨scale, []⟩

/-- Every declared guide at its default. -/
def defaults (decls : List (GuideDecl α)) (scale : UnitScale α) : GuideSet α :=
  ⟨scale, decls.map fun d => (d.name, scale.apply d.default)⟩

/-- The value of a guide in device units, if it is declared. -/
def get? (s : GuideSet α) (name : String) : Option α :=
  (s.values.find? fun v => v.1 == name).map Prod.snd

/-- The value of a declared guide in device units. -/
def get (s : GuideSet α) (name : String) : Guided α :=
  match s.get? name with
  | some v => .ok v
  | none => .error ⟨name⟩

/-- The value of a declared guide in document units. -/
def raw (s : GuideSet α) (name : String) : Guided α :=
  (s.get name).map s.scale.unapply

/-- The values with that of the first guide of a name replaced. -/
def replaceFirst (name : String) (value : α) : List (String × α) → List (String × α)
  | [] => []
  | v :: rest => if v.1 == name then (v.1, value) :: rest else v :: replaceFirst name value rest

/-- Gives a declared guide a value in document units. -/
def setRaw (s : GuideSet α) (name : String) (value : α) : Guided (GuideSet α) :=
  match s.get? name with
  | some _ => .ok { s with values := replaceFirst name (s.scale.apply value) s.values }
  | none => .error ⟨name⟩

/-- The value of a declared guide in document units: that of the document's first entry of its name,
if there is one and it has a value, else the default. -/
def documentValue (raw : List RawGuide) (d : GuideDecl α) : α :=
  match raw.find? fun g => g.name == d.name with
  | none => d.default
  | some g =>
    match guideValue g.name g.formula with
    | .ok v => v
    | .error _ => d.default

/-- The declared guides with the values a document gives them. -/
def resolve (decls : List (GuideDecl α)) (raw : List RawGuide) (scale : UnitScale α) : GuideSet α :=
  ⟨scale, decls.map fun d => (d.name, scale.apply (documentValue raw d))⟩

end GuideSet

end ShapeOutline
