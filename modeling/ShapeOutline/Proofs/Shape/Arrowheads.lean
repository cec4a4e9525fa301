import Mathlib
import ShapeOutline.Proofs.Path.OpenEnds
import ShapeOutline.Proofs.Preset.Connectors
import ShapeOutline.Proofs.Preset.Subpaths
import ShapeOutline.Proofs.Shape.Render

/-!
# Arrowheads of shapes

Which arrowheads a shape is compiled with, and where they sit.

* `ShapeSpec.build_markers_mirrored`: a flipped shape has the mirrored arrowheads, except at an arc that
  goes nowhere;
* `ShapeSpec.build_connector_markers`: a connector has both arrowheads when its guides keep its elbows
  off its ends;
* `ShapeSpec.build_markers_on_open_ends`: an arrowhead sits on an open end, or on a closed subpath of
  an outline that a document spells out.
-/

namespace ShapeOutline

/-! ## Outlines begin with a move -/

section

variable {α : Type} [Scalar α]

theorem customOutline_begins (paths : List (CustomPath α)) (box : Extent α) :
    (customOutline paths box).commands = [] ∨
      ∃ q rest, (customOutline paths box).commands = .moveTo q :: rest := by
  induction paths with
  | nil => exact .inl rfl
  | cons p paths ih =>
    have hcommands : (customOutline (p :: paths) box).commands
        = (p.outline box).commands ++ (customOutline paths box).commands := rfl
    have hdirect : ∀ i ∈ p.instructions, i.isDirect = true := by
      intro i hi
      obtain ⟨e, -, rfl⟩ := List.mem_map.mp hi
      exact e.segment.isDirect_instruction
    have hfirst : (p.outline box).commands = [] ∨
        ∃ q rest, (p.outline box).commands = .moveTo q :: rest := Pen.run_begins rfl hdirect
    rw [hcommands]
    rcases hfirst with hnil | ⟨q, rest, hmove⟩
    · rw [hnil]
      exact ih
    · rw [hmove]
      exact .inr ⟨q, rest ++ (customOutline paths box).commands, rfl⟩

namespace ShapeSpec

variable {s : ShapeSpec α}

/-- What the formula of a kind starts from. -/
def frame (s : ShapeSpec α) (k : Kind) : Frame α :=
  ⟨s.box.w, s.box.h, .resolve k.guides s.guides s.scale⟩

theorem outline_of_kind {k : Kind} (hkind : s.kind? = some k) :
    k.outline s.box.w s.box.h (s.frame k).guides = .ok s.outlinePath := by
  have houtline := s.outline_eq
  unfold kind? at hkind
  unfold outline at houtline
  cases hgeometry : s.geometry with
  | custom paths =>
    rw [hgeometry] at hkind
    cases hkind
  | preset tag =>
    rw [hgeometry] at hkind houtline
    dsimp only at hkind houtline
    rw [hkind] at houtline
    exact houtline

variable (s)

/-- The outline of a shape is empty, or it begins with a move. -/
theorem outlinePath_begins :
    s.outlinePath.commands = [] ∨ ∃ q rest, s.outlinePath.commands = .moveTo q :: rest := by
  cases hkind : s.kind? with
  | some k =>
    obtain ⟨p, hp, hdraw⟩ := k.outline_resolve_drawable s.box.w s.box.h s.guides s.scale
    have hpath : p = s.outlinePath := Except.ok.inj (hp.symm.trans (outline_of_kind hkind))
    rw [← hpath]
    rcases hdraw with rfl | hdraw
    · exact .inl rfl
    · exact .inr hdraw.exists_moveTo
  | none =>
    cases hgeometry : s.geometry with
    | custom paths =>
      have hpath : s.outlinePath = customOutline paths s.box := by
        rw [outlinePath, outline, hgeometry]
        rfl
      rw [hpath]
      exact customOutline_begins paths s.box
    | preset tag =>
      -- an unknown tag
      rw [kind?, hgeometry] at hkind
      dsimp only at hkind
      have hpath : s.outlinePath = Path.empty := by
        rw [outlinePath, outline, hgeometry]
        dsimp only
        rw [hkind]
        rfl
      rw [hpath]
      exact .inl rfl

/-- The width of the line of a shape. -/
def lineWidth : α := (Stroke.ofSpec s.line s.scale s.defaults).width

/-- What a shape compiles to, up to the names of its definitions. -/
theorem build_compiled (styles : StyleTable) :
    ∃ name, s.build styles = .ok (s.compiled name, styles.internAll s.texts) :=
  ⟨_, s.build_eq (.refl _)⟩

theorem compiled_markers (name : Definition α → StyleId) :
    (s.compiled name).markers =
      if s.isLine s.outlinePath then
        (s.compiled name).path.markers s.line s.lineWidth s.defaults
      else [] := rfl

theorem compiled_markers_of_isLine (name : Definition α → StyleId)
    (hline : s.isLine s.outlinePath = true) :
    (s.compiled name).markers = (s.compiled name).path.markers s.line s.lineWidth s.defaults :=
  if_pos hline

end ShapeSpec

end

/-- A path that is spelled out in drawing order in the space of the box is drawn as it stands. -/
theorem CustomPath.outline_eq {p : CustomPath ℝ} (hextent : p.extent = none)
    (hsorted : p.entries.Pairwise fun a b => decide (a.order ≤ b.order) = true) (box : Extent ℝ) :
    p.outline box = Path.drawn (p.entries.map fun e => e.segment.instruction) := by
  unfold outline
  rw [hextent]
  refine (Path.drawnIn_zero box.w box.h p.instructions).trans ?_
  rw [instructions, ordered, List.mergeSort_of_pairwise hsorted]

namespace ShapeSpec

/-- A shape in a box of 100 by 50 whose line ends in triangles on both sides. -/
noncomputable def arrow (geometry : Geometry ℝ) (guides : List RawGuide) : ShapeSpec ℝ where
  geometry
  box := ⟨100, 50⟩
  rotation := ⟨0⟩
  flipH := false
  flipV := false
  guides
  fill := none
  groupFill := none
  line := some {
    width := some 2
    color := some (.raw "black")
    alpha := 1
    dash := none
    cap := none
    join := none
    head := some ⟨.triangle, .medium, .medium⟩
    tail := some ⟨.triangle, .medium, .medium⟩ }
  shadow := none
  scale := ⟨1⟩
  defaults := .standard

/-! ## Flips -/

/-- The shape without its flips. -/
def unflipped {α : Type} (s : ShapeSpec α) : ShapeSpec α := { s with flipH := false, flipV := false }

section

variable (s : ShapeSpec ℝ) (name : Definition ℝ → StyleId)

theorem unflipped_markers :
    (s.unflipped.compiled name).markers =
      if s.isLine s.outlinePath then
        s.outlinePath.markers s.line s.lineWidth s.defaults
      else [] := rfl

/-- The arrowheads of a flipped shape, from those of the shape without its flips. -/
theorem compiled_markers_flipped :
    (s.compiled name).markers = (s.unflipped.compiled name).markers.map fun m =>
      (m.flipped s.box.w s.box.h s.flipH s.flipV).turned
        (s.outlinePath.stallsAt m.side && s.flipH != s.flipV) := by
  rw [s.compiled_markers, s.unflipped_markers]
  split
  · exact Path.markers_flipped s.outlinePath_begins _ _ _ _
  · rfl

theorem compiled_markers_flipped_iff :
    (s.compiled name).markers
        = (s.unflipped.compiled name).markers.map (Marker.flipped s.box.w s.box.h s.flipH s.flipV) ↔
      s.flipH = s.flipV ∨
        ∀ m ∈ (s.unflipped.compiled name).markers, s.outlinePath.stallsAt m.side = false := by
  rw [s.compiled_markers, s.unflipped_markers]
  split
  · exact Path.markers_flipped_iff s.outlinePath_begins _ _ _ _
  · exact iff_of_true rfl (.inr (List.forall_mem_nil _))

/-- A flipped shape has the arrowheads of the shape without its flips, in the same order, each with the
same end, kind and size, with its tip mirrored in the box and its direction reflected. Where the path
leaves or arrives along an arc that goes nowhere, and one axis is flipped, the arrowhead is turned round
besides; there is no other exception. -/
theorem build_markers_mirrored (styles : StyleTable) :
    ∃ shape plain styles', s.build styles = .ok (shape, styles') ∧
      s.unflipped.build styles = .ok (plain, styles') ∧
      (shape.markers = plain.markers.map fun m =>
        (m.flipped s.box.w s.box.h s.flipH s.flipV).turned
          (plain.path.stallsAt m.side && s.flipH != s.flipV)) ∧
      (shape.markers = plain.markers.map (Marker.flipped s.box.w s.box.h s.flipH s.flipV) ↔
        s.flipH = s.flipV ∨ ∀ m ∈ plain.markers, plain.path.stallsAt m.side = false) :=
  ⟨_, _, _, s.build_eq (.refl _), s.unflipped.build_eq (.refl _), s.compiled_markers_flipped _,
    s.compiled_markers_flipped_iff _⟩

/-- A line to the right that ends in an arc without sweep. -/
noncomputable def stalledLine : CustomPath ℝ :=
  ⟨none, [[⟨0, .moveTo ⟨10, 20⟩⟩, ⟨1, .lineTo ⟨60, 20⟩⟩, ⟨2, .arcTo 10 10 16200000 0⟩]]⟩

/-- Flipped from left to right, that line still has its arrowhead point to the right. -/
theorem stalled_arc_not_mirrored :
    let s : ShapeSpec ℝ := { arrow (.custom [stalledLine]) [] with flipH := true }
    ∃ shape plain styles, s.build .empty = .ok (shape, styles) ∧
      s.unflipped.build .empty = .ok (plain, styles) ∧
      shape.markers ≠ plain.markers.map (Marker.flipped 100 50 true false) := by
  intro s
  refine ⟨_, _, _, s.build_eq (.refl _), s.unflipped.build_eq (.refl _), ?_⟩
  refine mt (s.compiled_markers_flipped_iff _).mp ?_
  have hcommands : ([.lineTo 60 20] : List (Instruction ℝ)).mapM Instruction.command?
      = some [.lineTo ⟨60, 20⟩] := rfl
  have hten : (0 : ℝ) < 10 := by norm_num
  obtain ⟨a, hdrawn, hrx, hry, hstart, hstop⟩ :=
    Path.drawn_arc_eq 10 20 hcommands hten hten (Angle.ofUnits 16200000).degrees
      (Angle.ofUnits 0).degrees
  have hpath : s.outlinePath = ⟨[.moveTo ⟨10, 20⟩, .lineTo ⟨60, 20⟩, .arcTo a]⟩ := by
    have hsorted : stalledLine.entries.Pairwise fun a b => decide (a.order ≤ b.order) = true := by
      decide
    have houtline := (stalledLine.outline_eq rfl hsorted s.box).trans hdrawn
    exact congrArg (· ++ customOutline [] s.box) houtline
  -- the arc goes nowhere, and has a direction nevertheless
  have hstalls : s.outlinePath.stallsAt .tail = true := by
    have hsweep : (Angle.ofUnits 0 : Angle ℝ).degrees = 0 := by
      show (Nat.cast 0 : ℝ) / _ = 0
      simp
    have heq : a.start = a.stop := by rw [hstart, hstop, hsweep, add_zero]
    rw [hpath]
    exact (Exact.beq_iff a.start a.stop).mpr heq
  have hline : s.isLine s.outlinePath = true := by
    rw [hpath]
    rfl
  have hdirection : (Command.arcTangent a a.stop).unit?.isSome = true :=
    Command.isSome_arcTangent (hrx ▸ hten) (hry ▸ hten) a.stop
  obtain ⟨m, hm, hside⟩ :
      ∃ m ∈ s.outlinePath.markers s.line s.lineWidth s.defaults, m.side = .tail := by
    refine (Path.exists_mem_markers_iff rfl rfl).mpr ?_
    rw [hpath]
    exact ⟨rfl, hdirection⟩
  rintro (hflips | hproper)
  · cases hflips
  · rw [s.unflipped_markers, if_pos hline] at hproper
    have hmoves : s.outlinePath.stallsAt m.side = false := hproper m hm
    rw [hside, hstalls] at hmoves
    cases hmoves

end

/-! ## Lines and connectors -/

section

variable {α : Type} [Scalar α] {s : ShapeSpec α} {k : Kind}

/-- The outline of a line or connector is one stroke that is left open. -/
theorem outlinePath_drawable (hkind : s.kind? = some k) (hk : k.isLineLike = true) :
    s.outlinePath.Drawable .opened := by
  have hformula : k ∉ Kind.withoutFormula := by
    revert hk
    cases k <;> decide
  have hsome : (k.preset? : Option (Preset α)).isSome = true :=
    (Kind.isSome_preset?_iff k).mpr hformula
  obtain ⟨preset, hpreset⟩ := Option.isSome_iff_exists.mp hsome
  obtain ⟨p, hp, hdraw⟩ := Kind.outline_draws hpreset
    (GuideSet.resolve_declares k.guides s.guides s.scale) s.box.w s.box.h
  obtain rfl : p = s.outlinePath := Except.ok.inj (hp.symm.trans (outline_of_kind hkind))
  rwa [Kind.sketch_of_isLineLike hk] at hdraw

omit [Scalar α] in
theorem isLine_of_kind (hkind : s.kind? = some k) (hk : k.isLineLike = true) (p : Path α) :
    s.isLine p = true := by
  unfold isLine
  cases hgeometry : s.geometry with
  | custom paths =>
    rw [kind?, hgeometry] at hkind
    cases hkind
  | preset tag =>
    dsimp only
    rw [hkind]
    exact hk

end

section

variable {s : ShapeSpec ℝ} {k : Kind}

/-- Formulas read what the document says of a guide. -/
theorem frame_value (hscale : s.scale.factor ≠ 0) {d : GuideDecl ℝ}
    (hd : k.guides.find? (fun e => e.name == d.name) = some d) :
    (s.frame k).value d.name = GuideSet.documentValue s.guides d := by
  have hget : (s.frame k).guides.get? d.name
      = some (s.scale.apply (GuideSet.documentValue s.guides d)) := by
    show ((k.guides.map _).find? _).map Prod.snd = _
    rw [List.find?_map]
    show ((k.guides.find? fun e => e.name == d.name).map _).map Prod.snd = _
    rw [hd]
    rfl
  rw [Frame.value, hget]
  exact mul_div_cancel_right₀ _ hscale

/-- A line or connector has an arrowhead at an end whose decoration has one and that its guides keep
apart from the next elbow. -/
theorem compiled_connector_markers (hkind : s.kind? = some k) (hk : k.isLineLike = true)
    (hw : 1 ≤ s.box.w) (hh : 1 ≤ s.box.h) (name : Definition ℝ → StyleId) (side : PathEnd)
    {e : LineEnd} (he : s.line.bind (·.decoration side) = some e)
    (hmarker : e.kind.marker?.isSome = true) :
    (∃ m ∈ (s.compiled name).markers, m.side = side) ↔ k.ClearAt (s.frame k) side := by
  obtain ⟨p, hp, hstart, hend⟩ := Kind.outline_directions hk
    (GuideSet.resolve_declares k.guides s.guides s.scale) hw hh
  obtain rfl : p = s.outlinePath := Except.ok.inj (hp.symm.trans (outline_of_kind hkind))
  obtain ⟨q, rest, hmove⟩ := (outlinePath_drawable hkind hk).exists_moveTo
  have hflipped : (s.compiled name).path.commands = .moveTo _ :: _ :=
    (s.outlinePath.flipped_commands _ _ _ _).trans (congrArg (List.map _) hmove)
  have htip := Path.isSome_tip_of_move hflipped side
  rw [s.compiled_markers_of_isLine name (isLine_of_kind hkind hk _),
    Path.exists_mem_markers_iff he hmarker, and_iff_right htip]
  show ((s.outlinePath.flipped _ _ _ _).outward side).isSome = true ↔ _
  cases side with
  | head =>
    rw [Path.outward, Option.isSome_map, Path.startDirection_flipped, Option.isSome_map]
    exact hstart
  | tail =>
    rw [Path.outward, Path.endDirection_flipped _ _ _ _ s.outlinePath_begins, Option.isSome_map]
    exact hend

/-- A line or connector whose line is decorated with triangles or arrows at both ends, in a box of at
least unit size, has an arrowhead at its start when its guides let it leave its first point, and one at
its end when they let it arrive there. So it has both, in this order, exactly when the guides keep its
elbows off its ends. -/
theorem build_connector_markers (hkind : s.kind? = some k) (hk : k.isLineLike = true)
    (hw : 1 ≤ s.box.w) (hh : 1 ≤ s.box.h) {line : LineSpec ℝ} (hline : s.line = some line)
    {head tail : LineEnd} (hhead : line.head = some head) (htail : line.tail = some tail)
    (hheadKind : head.kind = .triangle ∨ head.kind = .arrow)
    (htailKind : tail.kind = .triangle ∨ tail.kind = .arrow) (styles : StyleTable) :
    ∃ shape styles', s.build styles = .ok (shape, styles') ∧
      ((∃ m ∈ shape.markers, m.side = .head) ↔ k.Departs (s.frame k)) ∧
      ((∃ m ∈ shape.markers, m.side = .tail) ↔ k.Arrives (s.frame k)) ∧
      ((∃ m n, shape.markers = [m, n] ∧ m.side = .head ∧ shape.path.startPoint = some m.tip ∧
          n.side = .tail ∧ shape.path.endPoint = some n.tip) ↔
        k.Departs (s.frame k) ∧ k.Arrives (s.frame k)) := by
  have hmarker : ∀ e : LineEnd, e.kind = .triangle ∨ e.kind = .arrow →
      e.kind.marker?.isSome = true := by
    rintro e (he | he) <;> rw [he] <;> rfl
  obtain ⟨name, hbuild⟩ := s.build_compiled styles
  have hdeparts : (∃ m ∈ (s.compiled name).markers, m.side = .head) ↔ k.Departs (s.frame k) :=
    compiled_connector_markers hkind hk hw hh name .head (by rw [hline]; exact hhead)
      (hmarker head hheadKind)
  have harrives : (∃ m ∈ (s.compiled name).markers, m.side = .tail) ↔ k.Arrives (s.frame k) :=
    compiled_connector_markers hkind hk hw hh name .tail (by rw [hline]; exact htail)
      (hmarker tail htailKind)
  refine ⟨_, _, hbuild, hdeparts, harrives, ?_⟩
  rw [← hdeparts, ← harrives, s.compiled_markers_of_isLine name (isLine_of_kind hkind hk _)]
  exact Path.markers_eq_pair_iff

/-- A connector of three legs, its elbows halfway, has both. -/
theorem halfway_connector_markers :
    let s := arrow (.preset "bentConnector3") []
    ∃ line head tail, s.kind? = some .bentConnector3 ∧ Kind.bentConnector3.isLineLike = true ∧
      1 ≤ s.box.w ∧ 1 ≤ s.box.h ∧ s.line = some line ∧ line.head = some head ∧
      line.tail = some tail ∧ (head.kind = .triangle ∨ head.kind = .arrow) ∧
      (tail.kind = .triangle ∨ tail.kind = .arrow) ∧
      ∃ shape styles m n, s.build .empty = .ok (shape, styles) ∧ shape.markers = [m, n] ∧
        m.side = .head ∧ shape.path.startPoint = some m.tip ∧
        n.side = .tail ∧ shape.path.endPoint = some n.tip := by
  intro s
  have hw : 1 ≤ s.box.w := by norm_num [s, arrow]
  have hh : 1 ≤ s.box.h := by norm_num [s, arrow]
  have hvalue : (s.frame .bentConnector3).value "adj1" = (50000 : ℕ) :=
    frame_value (d := ⟨"adj1", Scalar.ofInt 50000⟩) one_ne_zero rfl
  have hdeparts : Kind.bentConnector3.Departs (s.frame .bentConnector3) := by
    show (s.frame .bentConnector3).value "adj1" ≠ 0
    rw [hvalue]
    norm_num
  have harrives : Kind.bentConnector3.Arrives (s.frame .bentConnector3) := by
    show (s.frame .bentConnector3).value "adj1" ≠ 100000
    rw [hvalue]
    norm_num
  obtain ⟨shape, styles, hbuild, -, -, hpair⟩ :=
    build_connector_markers (s := s) (k := .bentConnector3) rfl rfl hw hh rfl rfl rfl (.inl rfl)
      (.inl rfl) .empty
  obtain ⟨m, n, hmarkers⟩ := hpair.mpr ⟨hdeparts, harrives⟩
  exact ⟨_, _, _, rfl, rfl, hw, hh, rfl, rfl, rfl, .inl rfl, .inl rfl, shape, styles, m, n, hbuild,
    hmarkers⟩

/-- With its elbows at the left edge, that connector has no arrowhead at its start. -/
theorem flush_connector_loses_head :
    let s := arrow (.preset "bentConnector3") [⟨"adj1", "val 0"⟩]
    s.kind? = some .bentConnector3 ∧ s.box = ⟨100, 50⟩ ∧
      s.line.bind (·.decoration .head) = some ⟨.triangle, .medium, .medium⟩ ∧
      s.line.bind (·.decoration .tail) = some ⟨.triangle, .medium, .medium⟩ ∧
      ∃ shape styles, s.build .empty = .ok (shape, styles) ∧
        (¬∃ m ∈ shape.markers, m.side = .head) ∧
        ¬∃ m n, shape.markers = [m, n] ∧ m.side = .head ∧ shape.path.startPoint = some m.tip ∧
          n.side = .tail ∧ shape.path.endPoint = some n.tip := by
  intro s
  have hw : 1 ≤ s.box.w := by norm_num [s, arrow]
  have hh : 1 ≤ s.box.h := by norm_num [s, arrow]
  have hvalue : (s.frame .bentConnector3).value "adj1" = 0 := by
    have hdocument : (s.frame .bentConnector3).value "adj1"
        = GuideSet.documentValue s.guides ⟨"adj1", Scalar.ofInt 50000⟩ :=
      frame_value (d := ⟨"adj1", Scalar.ofInt 50000⟩) one_ne_zero rfl
    have hfirst : GuideSet.documentValue s.guides ⟨"adj1", Scalar.ofInt 50000⟩
        = (Scalar.ofScientific 0 true 0 : ℝ) := rfl
    rw [hdocument, hfirst]
    show (OfScientific.ofScientific 0 true 0 : ℝ) = 0
    norm_num
  obtain ⟨name, hbuild⟩ := s.build_compiled .empty
  have hhead : ¬∃ m ∈ (s.compiled name).markers, m.side = .head := by
    rw [compiled_connector_markers (s := s) (k := .bentConnector3) rfl rfl hw hh name .head rfl rfl]
    exact fun hdeparts => hdeparts hvalue
  refine ⟨rfl, rfl, rfl, rfl, _, _, hbuild, hhead, ?_⟩
  rintro ⟨m, n, hmarkers, hm, -⟩
  exact hhead ⟨m, hmarkers ▸ List.mem_cons_self, hm⟩

end

/-! ## Open ends -/

section

variable {α : Type} [Scalar α]

/-- The outline of a shape that gets arrowheads leaves a subpath open, and has no other unless the
document spells it out. -/
theorem hasOpenSubpath_of_isLine {s : ShapeSpec α} (hline : s.isLine s.outlinePath = true) :
    s.outlinePath.hasOpenSubpath = true ∧
      ((∃ paths, s.geometry = .custom paths) ∨ s.outlinePath.subpathCount = 1) := by
  cases hgeometry : s.geometry with
  | custom paths =>
    rw [isLine, hgeometry] at hline
    exact ⟨hline, .inl ⟨paths, rfl⟩⟩
  | preset tag =>
    rw [isLine, hgeometry] at hline
    obtain ⟨k, hkind, hk⟩ : ∃ k, s.kind? = some k ∧ k.isLineLike = true := by
      simpa [Option.any_eq_true] using hline
    have hsketch := (outlinePath_drawable hkind hk).sketch_eq
    refine ⟨?_, .inr ?_⟩
    · rw [Path.hasOpenSubpath_eq, hsketch]
      rfl
    · rw [Path.subpathCount_eq, hsketch]
      rfl

/-- Every arrowhead of a shape has its tip at the end of the path that it is meant for. It sits on an
end of a subpath that draws something and is left open, unless the document spells out the outline, in
several subpaths of which the one at that end is closed. -/
theorem build_markers_on_open_ends (hstill : (Point.origin : Point α).unit? = none)
    (s : ShapeSpec α) (styles : StyleTable) :
    ∃ shape styles', s.build styles = .ok (shape, styles') ∧ ∀ m ∈ shape.markers,
      shape.path.tip m.side = some m.tip ∧
        (shape.path.OpenEnd m.side m.tip ∨
          (∃ paths, s.geometry = .custom paths) ∧ 2 ≤ shape.path.subpathCount ∧
            shape.path.ClosesAt m.side) := by
  obtain ⟨name, hbuild⟩ := s.build_compiled styles
  refine ⟨_, _, hbuild, fun m hm => ?_⟩
  rw [compiled_markers] at hm
  split at hm
  · next hline =>
    obtain ⟨hopen, hpieces⟩ := hasOpenSubpath_of_isLine hline
    refine ⟨(Path.tip_of_mem_markers hm).1, ?_⟩
    rcases lt_or_ge (s.compiled name).path.subpathCount 2 with hcount | hcount
    · left
      refine Path.openEnd_of_single ?_ (Nat.le_of_lt_succ hcount) ?_ hm
      · exact Path.begins_flipped _ _ _ _ s.outlinePath_begins
      · exact (s.outlinePath.hasOpenSubpath_flipped _ _ _ _).trans hopen
    · have hcustom : ∃ paths, s.geometry = .custom paths := by
        refine hpieces.resolve_right fun hone => ?_
        have hsame : (s.compiled name).path.subpathCount = s.outlinePath.subpathCount :=
          s.outlinePath.subpathCount_flipped _ _ _ _
        omega
      exact (Path.openEnd_or_closesAt hstill hm).imp_right fun hcloses => ⟨hcustom, hcount, hcloses⟩
  · cases hm

end

/-- A closed triangle. -/
noncomputable def closedTriangle : CustomPath ℝ :=
  ⟨none, [[⟨0, .moveTo ⟨10, 10⟩⟩, ⟨1, .lineTo ⟨40, 10⟩⟩, ⟨2, .lineTo ⟨40, 40⟩⟩, ⟨3, .close⟩]]⟩

/-- An open line. -/
noncomputable def openLine : CustomPath ℝ :=
  ⟨none, [[⟨0, .moveTo ⟨20, 20⟩⟩, ⟨1, .lineTo ⟨30, 20⟩⟩]]⟩

/-- The line in front of the triangle. -/
theorem open_then_closed_markers :
    (Point.origin : Point ℝ).unit? = none ∧
      ∃ shape styles, (arrow (.custom [openLine, closedTriangle]) []).build .empty
          = .ok (shape, styles) ∧ ∀ m ∈ shape.markers,
        shape.path.tip m.side = some m.tip ∧
          (shape.path.OpenEnd m.side m.tip ∨
            (∃ paths, (arrow (.custom [openLine, closedTriangle]) []).geometry = .custom paths) ∧
              2 ≤ shape.path.subpathCount ∧ shape.path.ClosesAt m.side) :=
  ⟨Point.unit?_origin, build_markers_on_open_ends Point.unit?_origin _ _⟩

/-- Behind the triangle, the line has no arrowhead at its start: the triangle has it. -/
theorem closed_then_open_head :
    let s := arrow (.custom [closedTriangle, openLine]) []
    ∃ shape styles m, s.build .empty = .ok (shape, styles) ∧ m ∈ shape.markers ∧ m.side = .head ∧
      m.tip = ⟨10, 10⟩ ∧ ¬shape.path.OpenEnd m.side m.tip := by
  intro s
  have hpath : s.outlinePath = ⟨[.moveTo ⟨10, 10⟩, .lineTo ⟨40, 10⟩, .lineTo ⟨40, 40⟩, .close,
      .moveTo ⟨20, 20⟩, .lineTo ⟨30, 20⟩]⟩ := by
    have htriangle : closedTriangle.outline s.box
        = ⟨[.moveTo ⟨10, 10⟩, .lineTo ⟨40, 10⟩, .lineTo ⟨40, 40⟩, .close]⟩ :=
      (closedTriangle.outline_eq rfl (by decide) s.box).trans (Path.drawn_eq 10 10 rfl)
    have hline : openLine.outline s.box = ⟨[.moveTo ⟨20, 20⟩, .lineTo ⟨30, 20⟩]⟩ :=
      (openLine.outline_eq rfl (by decide) s.box).trans (Path.drawn_eq 20 20 rfl)
    have hboth : s.outlinePath
        = closedTriangle.outline s.box ++ (openLine.outline s.box ++ Path.empty) := rfl
    rw [hboth, htriangle, hline]
    rfl
  obtain ⟨name, hbuild⟩ := s.build_compiled .empty
  have hdirection : (Point.mk 40 10 - Point.mk 10 10 : Point ℝ).unit?.isSome = true := by
    rw [Point.isSome_unit?_iff]
    show (0 : ℝ) < (40 - 10) * (40 - 10) + (10 - 10) * (10 - 10)
    norm_num
  have hline : s.isLine s.outlinePath = true := by
    rw [hpath]
    rfl
  obtain ⟨m, hm, hside⟩ :
      ∃ m ∈ s.outlinePath.markers s.line s.lineWidth s.defaults, m.side = .head := by
    refine (Path.exists_mem_markers_iff rfl rfl).mpr ?_
    rw [hpath]
    exact ⟨rfl, by rw [Path.outward, Option.isSome_map]; exact hdirection⟩
  have htip : m.tip = ⟨10, 10⟩ := by
    have htip := (Path.tip_of_mem_markers hm).1
    rw [hside, hpath] at htip
    exact (Option.some.inj htip).symm
  have hmarker : m ∈ (s.compiled name).markers := by
    rw [s.compiled_markers_of_isLine name hline]
    exact hm
  refine ⟨_, _, m, hbuild, hmarker, hside, htip, ?_⟩
  rw [hside, htip]
  show ¬s.outlinePath.OpenEnd .head ⟨10, 10⟩
  intro hopen
  have hdrawn : ∀ c ∈ ([.lineTo ⟨40, 10⟩, .lineTo ⟨40, 40⟩] : List (Command ℝ)),
      c.draws = true := by simp [Command.draws, Command.gesture]
  have hlast : ∀ c ∈ ([.lineTo ⟨30, 20⟩] : List (Command ℝ)), c.draws = true := by
    simp [Command.draws, Command.gesture]
  have hcommands : s.outlinePath.commands = .moveTo ⟨10, 10⟩ :: ([.lineTo ⟨40, 10⟩,
      .lineTo ⟨40, 40⟩] ++ .close :: .moveTo ⟨20, 20⟩ :: [.lineTo ⟨30, 20⟩]) := by
    rw [hpath]
    rfl
  have hpoint := Path.eq_of_openEnd_head hcommands hdrawn hlast hopen
  have hx : (10 : ℝ) = 20 := congrArg Point.x hpoint
  norm_num at hx

end ShapeSpec

end ShapeOutline
