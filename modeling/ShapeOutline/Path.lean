import ShapeOutline.Arc

/-!
# Paths

A path is a list of drawing commands in the coordinates of the shape's box. Arcs are kept as arcs,
so that stretching and flipping a path is exact.

* `Command`, `Path`: the data;
* `Command.endPoint?`: where the pen rests after a command;
* `Path.subpathCount`, `Path.hasOpenSubpath`, `Path.isClosed`: the pieces of a path;
* `Path.approxEq`: equality up to a relative difference;
* `Path.ofArc`, `Command.ofArc`: the drawing of one arc.
-/

namespace ShapeOutline

/-- One drawing command. -/
inductive Command (α : Type) where
  | moveTo (p : Point α)
  | lineTo (p : Point α)
  | cubicTo (c1 c2 p : Point α)
  | arcTo (arc : Arc α)
  | close

/-- A list of drawing commands; the empty one draws nothing. -/
structure Path (α : Type) where
  commands : List (Command α)

variable {α : Type}

namespace Command

/-- Whether the command starts a subpath. -/
def isMove : Command α → Bool
  | moveTo _ => true
  | _ => false

variable [Scalar α]

/-- Where the pen rests after the command. A close returns to where its subpath began, which the
command does not know. -/
def endPoint? : Command α → Option (Point α)
  | moveTo p => some p
  | lineTo p => some p
  | cubicTo _ _ p => some p
  | arcTo a => some (a.pointAt a.stop)
  | close => none

/-- Whether all numbers of the command are finite. -/
def isFinite : Command α → Bool
  | moveTo p => p.isFinite
  | lineTo p => p.isFinite
  | cubicTo c1 c2 p => c1.isFinite && c2.isFinite && p.isFinite
  | arcTo a =>
    a.center.isFinite && Scalar.isFinite a.rx && Scalar.isFinite a.ry &&
      Scalar.isFinite a.start && Scalar.isFinite a.stop
  | close => true

/-- The command that continues a path along an arc from its start point. An arc without an ellipse
is a line to that point. -/
def ofArc (a : Arc α) : Command α :=
  if a.isDegenerate then lineTo a.startPoint else arcTo a

/-- Whether two numbers differ by at most `eps`, relative to the larger one and to one. -/
def approxNumber (eps a b : α) : Bool :=
  Scalar.abs (a - b) ≤ eps * (1 + Scalar.max (Scalar.abs a) (Scalar.abs b))

/-- Whether two points agree up to `eps`. -/
def approxPoint (eps : α) (p q : Point α) : Bool :=
  approxNumber eps p.x q.x && approxNumber eps p.y q.y

/-- Whether two commands are of one kind and agree up to `eps`. -/
def approxEq (eps : α) : Command α → Command α → Bool
  | moveTo p, moveTo q => approxPoint eps p q
  | lineTo p, lineTo q => approxPoint eps p q
  | cubicTo c1 c2 p, cubicTo d1 d2 q =>
    approxPoint eps c1 d1 && approxPoint eps c2 d2 && approxPoint eps p q
  | arcTo a, arcTo b =>
    approxPoint eps a.center b.center && approxNumber eps a.rx b.rx &&
      approxNumber eps a.ry b.ry && approxNumber eps a.start b.start &&
      approxNumber eps a.stop b.stop
  | close, close => true
  | _, _ => false

end Command

namespace Path

/-- The path that draws nothing. -/
def empty : Path α := ⟨[]⟩

instance : Append (Path α) := ⟨fun p q => ⟨p.commands ++ q.commands⟩⟩

/-- A path with one more command. -/
def push (p : Path α) (c : Command α) : Path α := ⟨p.commands ++ [c]⟩

/-- The number of commands. -/
def size (p : Path α) : Nat := p.commands.length

/-- Whether there is no command. -/
def isEmpty (p : Path α) : Bool := p.commands.isEmpty

/-- The number of subpaths: each move starts one. -/
def subpathCount (p : Path α) : Nat := p.commands.countP Command.isMove

/-- Whether the commands leave some subpath open, given whether one is open before them. -/
def leavesOpen : Bool → List (Command α) → Bool
  | opened, [] => opened
  | opened, .moveTo _ :: rest => opened || leavesOpen false rest
  | _, .close :: rest => leavesOpen false rest
  | _, _ :: rest => leavesOpen true rest

/-- Whether some subpath that draws something ends without a close. -/
def hasOpenSubpath (p : Path α) : Bool := leavesOpen false p.commands

/-- Whether there is something, and all of it is closed. -/
def isClosed (p : Path α) : Bool := !p.isEmpty && !p.hasOpenSubpath

variable [Scalar α]

/-- The end points of the commands that have one, in order. -/
def vertices (p : Path α) : List (Point α) := p.commands.filterMap Command.endPoint?

/-- Whether all numbers of the path are finite. -/
def isFinite (p : Path α) : Bool := p.commands.all Command.isFinite

/-- Whether two paths have the same commands up to `eps`. -/
def approxEq (eps : α) (p q : Path α) : Bool :=
  p.size == q.size && (p.commands.zip q.commands).all fun c => c.1.approxEq eps c.2

/-- A path of its own for the clockwise way along an arc; a wedge ends with a line to the centre. An
arc without an ellipse is a line that goes nowhere. -/
def ofArc (a : Arc α) (wedge : Bool) : Path α :=
  let body := if a.isDegenerate then .lineTo a.startPoint else .arcTo a.clockwise
  ⟨.moveTo a.startPoint :: body :: if wedge then [.lineTo a.center] else []⟩

end Path

end ShapeOutline
