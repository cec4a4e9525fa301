import Mathlib
import ShapeOutline.Proofs.Preset.Outlines
import ShapeOutline.Preset.Connector
import ShapeOutline.Preset.BlockArrow
import ShapeOutline.Preset.ArrowCallout

/-!
# What lines and arrows draw

The formulas of connectors, block arrows and boxes with arrows: the guides that each of them reads,
and the sketch of what it draws. A connector is one open subpath.
-/

namespace ShapeOutline.Preset

open Guided (ok_bind)
open Sketch (figures)

variable {α : Type} [Scalar α]

/-! ## Connectors -/

namespace Connector

@[simp] theorem line_drawable (f : Frame α) : (line f).Drawable (figures 0 1) := .drawn rfl

@[simp] theorem lineInverted_drawable (f : Frame α) : (lineInverted f).Drawable (figures 0 1) :=
  .drawn rfl

@[simp] theorem bent2_drawable (f : Frame α) : (bent2 f).Drawable (figures 0 1) := .drawn rfl

@[simp] theorem curved2_drawable (f : Frame α) : (curved2 f).Drawable (figures 0 1) := .drawn rfl

@[simp] theorem bent3_outlines : Outlines ["adj1"] (figures 0 1) (bent3 (α := α)) := by
  intro f h
  simp (disch := decide) only [bent3, Frame.adj_eq h, ok_bind]
  exact ⟨_, rfl, .drawn rfl⟩

@[simp] theorem bent4_outlines : Outlines ["adj1", "adj2"] (figures 0 1) (bent4 (α := α)) := by
  intro f h
  simp (disch := decide) only [bent4, Frame.adj_eq h, ok_bind]
  exact ⟨_, rfl, .drawn rfl⟩

@[simp] theorem bent5_outlines :
    Outlines ["adj1", "adj2", "adj3"] (figures 0 1) (bent5 (α := α)) := by
  intro f h
  simp (disch := decide) only [bent5, Frame.adj_eq h, ok_bind]
  exact ⟨_, rfl, .drawn rfl⟩

@[simp] theorem curved3_outlines : Outlines ["adj1"] (figures 0 1) (curved3 (α := α)) := by
  intro f h
  simp (disch := decide) only [curved3, Frame.adj_eq h, ok_bind]
  exact ⟨_, rfl, .drawn rfl⟩

@[simp] theorem curved4_outlines : Outlines ["adj1", "adj2"] (figures 0 1) (curved4 (α := α)) := by
  intro f h
  simp (disch := decide) only [curved4, Frame.adj_eq h, ok_bind]
  exact ⟨_, rfl, .drawn rfl⟩

@[simp] theorem curved5_outlines :
    Outlines ["adj1", "adj2", "adj3"] (figures 0 1) (curved5 (α := α)) := by
  intro f h
  simp (disch := decide) only [curved5, Frame.adj_eq h, ok_bind]
  exact ⟨_, rfl, .drawn rfl⟩

end Connector

/-! ## Block arrows -/

namespace BlockArrow

@[simp] theorem right_outlines : Outlines ["adj1", "adj2"] (figures 1 0) (right (α := α)) := by
  intro f h
  simp (disch := decide) only [right, shaftAndHead, Frame.adj_eq h, Frame.shortShare_eq h, ok_bind]
  exact ⟨_, rfl, .drawn rfl⟩

@[simp] theorem left_outlines : Outlines ["adj1", "adj2"] (figures 1 0) (left (α := α)) := by
  intro f h
  simp (disch := decide) only [left, shaftAndHead, Frame.adj_eq h, Frame.shortShare_eq h, ok_bind]
  exact ⟨_, rfl, .drawn rfl⟩

@[simp] theorem up_outlines : Outlines ["adj1", "adj2"] (figures 1 0) (up (α := α)) :=
  left_outlines.transposed

@[simp] theorem down_outlines : Outlines ["adj1", "adj2"] (figures 1 0) (down (α := α)) :=
  right_outlines.transposed

@[simp] theorem stripedRight_outlines :
    Outlines ["adj1", "adj2"] (figures 3 0) (stripedRight (α := α)) := by
  intro f h
  simp (disch := decide) only [stripedRight, shaftAndHead, Frame.adj_eq h, Frame.shortShare_eq h,
    ok_bind]
  exact ⟨_, rfl, .drawn rfl⟩

@[simp] theorem notchedRight_outlines :
    Outlines ["adj1", "adj2"] (figures 1 0) (notchedRight (α := α)) := by
  intro f h
  simp (disch := decide) only [notchedRight, shaftAndHead, Frame.adj_eq h, Frame.shortShare_eq h,
    ok_bind]
  exact ⟨_, rfl, .drawn rfl⟩

@[simp] theorem leftRight_outlines :
    Outlines ["adj1", "adj2"] (figures 1 0) (leftRight (α := α)) := by
  intro f h
  simp (disch := decide) only [leftRight, shaftAndHead, Frame.adj_eq h, Frame.shortShare_eq h,
    ok_bind]
  exact ⟨_, rfl, .drawn rfl⟩

@[simp] theorem upDown_outlines : Outlines ["adj1", "adj2"] (figures 1 0) (upDown (α := α)) :=
  leftRight_outlines.transposed

@[simp] theorem quad_outlines :
    Outlines ["adj1", "adj2", "adj3"] (figures 1 0) (quad (α := α)) := by
  intro f h
  simp (disch := decide) only [quad, heads, Frame.adj_eq h, Frame.shortShare_eq h, ok_bind]
  exact ⟨_, rfl, .drawn rfl⟩

@[simp] theorem leftRightUp_outlines :
    Outlines ["adj1", "adj2", "adj3"] (figures 1 0) (leftRightUp (α := α)) := by
  intro f h
  simp (disch := decide) only [leftRightUp, heads, Frame.adj_eq h, Frame.shortShare_eq h, ok_bind]
  exact ⟨_, rfl, .drawn rfl⟩

@[simp] theorem leftUp_outlines :
    Outlines ["adj1", "adj2", "adj3"] (figures 1 0) (leftUp (α := α)) := by
  intro f h
  simp (disch := decide) only [leftUp, heads, Frame.adj_eq h, Frame.shortShare_eq h, ok_bind]
  exact ⟨_, rfl, .drawn rfl⟩

@[simp] theorem bentUp_outlines :
    Outlines ["adj1", "adj2", "adj3"] (figures 1 0) (bentUp (α := α)) := by
  intro f h
  simp (disch := decide) only [bentUp, Frame.adj_eq h, Frame.shortShare_eq h, ok_bind]
  exact ⟨_, rfl, .drawn rfl⟩

@[simp] theorem bent_outlines :
    Outlines ["adj1", "adj2", "adj3", "adj4"] (figures 1 0) (bent (α := α)) := by
  intro f h
  simp (disch := decide) only [bent, Frame.adj_eq h, Frame.shortShare_eq h, ok_bind]
  exact ⟨_, rfl, .drawn rfl⟩

@[simp] theorem uTurn_outlines :
    Outlines ["adj1", "adj2", "adj3", "adj4", "adj5"] (figures 1 0) (uTurn (α := α)) := by
  intro f h
  simp (disch := decide) only [uTurn, Frame.adj_eq h, Frame.shortShare_eq h, ok_bind]
  exact ⟨_, rfl, .drawn rfl⟩

end BlockArrow

/-! ## Boxes with arrows -/

namespace ArrowCallout

@[simp] theorem right_outlines :
    Outlines ["adj1", "adj2", "adj3", "adj4"] (figures 1 0) (right (α := α)) := by
  intro f h
  simp (disch := decide) only [right, parts, Frame.adj_eq h, ok_bind]
  exact ⟨_, rfl, .drawn rfl⟩

@[simp] theorem left_outlines :
    Outlines ["adj1", "adj2", "adj3", "adj4"] (figures 1 0) (left (α := α)) := by
  intro f h
  simp (disch := decide) only [left, parts, Frame.adj_eq h, ok_bind]
  exact ⟨_, rfl, .drawn rfl⟩

@[simp] theorem up_outlines :
    Outlines ["adj1", "adj2", "adj3", "adj4"] (figures 1 0) (up (α := α)) :=
  left_outlines.transposed

@[simp] theorem down_outlines :
    Outlines ["adj1", "adj2", "adj3", "adj4"] (figures 1 0) (down (α := α)) :=
  right_outlines.transposed

@[simp] theorem leftRight_outlines :
    Outlines ["adj1", "adj2", "adj3", "adj4"] (figures 1 0) (leftRight (α := α)) := by
  intro f h
  simp (disch := decide) only [leftRight, parts, Frame.adj_eq h, ok_bind]
  exact ⟨_, rfl, .drawn rfl⟩

@[simp] theorem upDown_outlines :
    Outlines ["adj1", "adj2", "adj3", "adj4"] (figures 1 0) (upDown (α := α)) :=
  leftRight_outlines.transposed

@[simp] theorem quad_outlines :
    Outlines ["adj1", "adj2", "adj3", "adj4"] (figures 1 0) (quad (α := α)) := by
  intro f h
  simp (disch := decide) only [quad, Frame.adj_eq h, ok_bind]
  exact ⟨_, rfl, .drawn rfl⟩

end ArrowCallout

end ShapeOutline.Preset
