import Mathlib
import ShapeOutline.Proofs.Scale.Units
import ShapeOutline.Proofs.Shape.Render

/-!
# Shapes at another scale of the document

The scale of a document says how large its units are. Only what the document states in its own units
depends on it: the width of the line, with the dashes and arrowheads that are sized by it, and the blur and
the distance of the shadow. The box is given in device units, and so is the outline, whose guides are read
in document units.

* `Stroke.rescaled`, `Marker.rescaled`, `Shadow.rescaled`, `Shape.rescaled`: the lengths times a factor, and
  everything else as it is;
* `Stroke.ofSpec_rescaled`, `Path.markers_rescaled`, `ShadowSpec.resolve_rescaled`: what is compiled at
  another scale;
* `ShapeSpec.standalone`: a shape in a style table of its own;
* `ShapeSpec.build_at_scale`: the whole shape at another scale.
-/

namespace ShapeOutline

/-! ## Lengths times a factor -/

section

variable (k : ℝ)

/-- The line with its width and its dashes `k` times as long. -/
noncomputable def Stroke.rescaled (s : Stroke ℝ) : Stroke ℝ :=
  { s with width := s.width * k, dash := s.dash.map fun length => length * k }

/-- The marker with its extent `k` times as large. -/
noncomputable def Marker.rescaled (m : Marker ℝ) : Marker ℝ :=
  { m with width := m.width * k, length := m.length * k }

/-- The shadow `k` times as blurred and `k` times as far away. -/
noncomputable def Shadow.rescaled (s : Shadow ℝ) : Shadow ℝ :=
  { s with blur := s.blur * k, offset := s.offset.times k }

/-- The definition with its lengths times `k`, if it is a shadow. -/
noncomputable def Definition.rescaled : Definition ℝ → Definition ℝ
  | shadow s => shadow (s.rescaled k)
  | d => d

/-- The shape with the lengths that its document states times `k`. -/
noncomputable def Shape.rescaled (s : Shape ℝ) : Shape ℝ :=
  { s with
    stroke := s.stroke.rescaled k
    definitions := s.definitions.map fun d => (d.1, d.2.rescaled k)
    markers := s.markers.map (Marker.rescaled k) }

theorem Definition.rescaled_of_isPaint {d : Definition ℝ} (h : d.isPaint = true) :
    d.rescaled k = d := by
  cases d with
  | shadow s => cases h
  | _ => rfl

/-- What a fill needs to be defined has no lengths of the document. -/
theorem Fill.definitions_rescaled (fill : Fill ℝ) :
    (fill.definitions.map fun d => (d.1, d.2.rescaled k)) = fill.definitions := by
  unfold definitions
  split
  · next id d _ hdefinition =>
    have hpaint : d.isPaint = true := Paint.isPaint_of_definition? hdefinition
    rw [List.map_singleton, Definition.rescaled_of_isPaint k hpaint]
  · rfl

/-- Dashes are multiples of the width of the line. -/
theorem Dash.lengths_mul (d : Dash) (width : ℝ) :
    d.lengths (width * k) = (d.lengths width).map fun length => length * k := by
  cases d with
  | preset name =>
    show name.multiples.map _ = (name.multiples.map _).map _
    rw [List.map_map]
    exact List.map_congr_left fun n _ => (mul_assoc _ width k).symm
  | custom stops =>
    show stops.flatMap _ = (stops.flatMap _).map _
    rw [List.map_flatMap]
    refine List.flatMap_congr fun stop _ => ?_
    rw [List.map_cons, List.map_singleton, ← mul_assoc, ← mul_assoc]

end

/-! ## Compiling at another scale -/

section

variable (k : ℝˣ) (scale : UnitScale ℝ)

theorem UnitScale.apply_rescaled (raw : ℝ) : (scale.rescaled k).apply raw = scale.apply raw * k :=
  (mul_assoc raw scale.factor k).symm

theorem Stroke.ofSpec_rescaled (line : Option (LineSpec ℝ)) (defaults : PaintDefaults ℝ) :
    ofSpec line (scale.rescaled k) defaults = (ofSpec line scale defaults).rescaled k := by
  cases line with
  | none =>
    have hwidth : @OfNat.ofNat ℝ 0 (Scalar.literal 0)
        = @OfNat.ofNat ℝ 0 (Scalar.literal 0) * (k : ℝ) := by
      rw [Exact.literal_zero, zero_mul]
    exact congrArg (fun width => Stroke.mk Option.none _ width [] _ _) hwidth
  | some line =>
    have hwidth : widthOf line (scale.rescaled k) defaults = widthOf line scale defaults * k :=
      scale.apply_rescaled k _
    have hdash : (line.dash.map fun d => d.lengths (widthOf line scale defaults * k)).getD []
        = ((line.dash.map fun d => d.lengths (widthOf line scale defaults)).getD []).map
            fun length => length * (k : ℝ) := by
      cases line.dash with
      | none => rfl
      | some d => exact d.lengths_mul k _
    show ofLine line (scale.rescaled k) defaults = (ofLine line scale defaults).rescaled k
    unfold ofLine
    dsimp only
    rw [hwidth, hdash]
    rfl

theorem ShadowSpec.resolve_rescaled (s : ShadowSpec ℝ) (defaultAlpha : ℝ) :
    s.resolve (scale.rescaled k) defaultAlpha = (s.resolve scale defaultAlpha).rescaled k := by
  have htimes (p : Point ℝ) (d : ℝ) : p.times (d * k) = (p.times d).times k :=
    congrArg₂ Point.mk (mul_assoc p.x d k).symm (mul_assoc p.y d k).symm
  unfold resolve
  dsimp only
  rw [scale.apply_rescaled, scale.apply_rescaled, htimes]
  rfl

end

/-- Markers are sized by the width of the line, and stay where they are. -/
theorem Path.markers_rescaled (k : ℝ) (path : Path ℝ) (line : Option (LineSpec ℝ)) (width : ℝ)
    (defaults : PaintDefaults ℝ) :
    path.markers line (width * k) defaults
      = (path.markers line width defaults).map (Marker.rescaled k) := by
  have hmarker (side : PathEnd) (decoration : Option LineEnd) (tip direction : Option (Point ℝ)) :
      Marker.ofLineEnd defaults (width * k) side decoration tip direction
        = (Marker.ofLineEnd defaults width side decoration tip direction).map
            (Marker.rescaled k) := by
    have hsize (factor : ℝ) : width * k * factor = width * factor * k := mul_right_comm width k factor
    unfold Marker.ofLineEnd
    simp only [hsize]
    cases decoration with
    | none => rfl
    | some e =>
      rw [Option.bind_eq_bind, Option.bind_some, Option.bind_eq_bind, Option.bind_some]
      -- there is a marker at both scales or at neither
      cases e.kind.marker? <;> cases tip <;> cases direction <;> rfl
  unfold markers
  dsimp only
  rw [hmarker, hmarker, List.map_append, Option.toList_map, Option.toList_map]

namespace ShapeSpec

/-! ## Shapes in tables of their own -/

section

variable {α : Type} [Scalar α]

/-- The compiled shape in a style table of its own, in which the definition of its fill comes first. -/
def standalone (s : ShapeSpec α) : Shape α where
  kind := s.kind?
  path := s.outlinePath.flipped s.box.w s.box.h s.flipH s.flipV
  fill := (s.paint.intern .empty).1
  stroke := Stroke.ofSpec s.line s.scale s.defaults
  definitions := (s.paint.intern .empty).1.definitions
    ++ (s.shadow?.map fun shadow => (⟨(s.paint.intern .empty).2.size⟩, .shadow shadow)).toList
  markers :=
    if s.isLine s.outlinePath then
      (s.outlinePath.flipped s.box.w s.box.h s.flipH s.flipV).markers s.line
        (Stroke.ofSpec s.line s.scale s.defaults).width s.defaults
    else []
  rotation := s.rotation

/-- The table of a paint holds no shadow. -/
theorem shadow_text_notMem (paint : Paint α) (shadow : Shadow α) :
    (Definition.shadow shadow).text ∉ (paint.intern .empty).2.texts := by
  unfold Paint.intern
  cases hdefinition : paint.definition? with
  | none => exact List.not_mem_nil
  | some d =>
    intro hmem
    rcases StyleTable.mem_texts_intern.mp hmem with hmem | htext
    · exact List.not_mem_nil hmem
    · have hpaint : d.isPaint = true := Paint.isPaint_of_definition? hdefinition
      exact Definition.text_ne_shadow hpaint shadow htext.symm

/-- A shadow is the next definition of a table that holds none. -/
theorem internShadow_fst (shadow : Option (Shadow α)) {styles : StyleTable}
    (h : ∀ shadow : Shadow α, (Definition.shadow shadow).text ∉ styles.texts) :
    (internShadow shadow styles).1
      = (shadow.map fun shadow => (⟨styles.size⟩, Definition.shadow shadow)).toList := by
  cases shadow with
  | none => rfl
  | some shadow =>
    show [((styles.intern _).1, Definition.shadow shadow)] = _
    rw [(StyleTable.intern_of_notMem (h shadow)).1]
    rfl

theorem build_empty (s : ShapeSpec α) : ∃ styles, s.build .empty = .ok (s.standalone, styles) := by
  have hshadow := internShadow_fst s.shadow? (shadow_text_notMem s.paint)
  refine ⟨(internShadow s.shadow? (s.paint.intern .empty).2).2, ?_⟩
  rw [build, outline_eq, Guided.ok_bind]
  unfold standalone
  rw [← hshadow]
  rfl

end

/-! ## The whole shape -/

variable (k : ℝˣ) (s : ShapeSpec ℝ)

/-- The same shape in a document whose scale is `k` times as large. -/
def rescaled : ShapeSpec ℝ := { s with scale := s.scale.rescaled k }

/-- Outlines are drawn in device units. -/
theorem outline_rescaled : (s.rescaled k).outline = s.outline := by
  unfold outline rescaled
  cases s.geometry with
  | custom paths => rfl
  | preset tag =>
    dsimp only
    cases Kind.ofTag? tag with
    | none => rfl
    | some kind =>
      dsimp only
      rw [GuideSet.resolve_rescaled]
      exact kind.outline_rescaled _ _ _ k

theorem shadow?_rescaled : (s.rescaled k).shadow? = s.shadow?.map (Shadow.rescaled k) := by
  show s.shadow.map _ = (s.shadow.map _).map _
  rw [Option.map_map]
  exact congrArg (fun f => s.shadow.map f)
    (funext fun shadow => shadow.resolve_rescaled k s.scale s.defaults.shadowAlpha)

/-- Part by part, the shape at another scale is the shape with its lengths scaled. -/
theorem standalone_rescaled : (s.rescaled k).standalone = s.standalone.rescaled k := by
  have hpath : (s.rescaled k).outlinePath = s.outlinePath :=
    congrArg (fun outline => outline.toOption.getD Path.empty) (s.outline_rescaled k)
  have hstroke : Stroke.ofSpec s.line (s.scale.rescaled k) s.defaults
      = (Stroke.ofSpec s.line s.scale s.defaults).rescaled k :=
    Stroke.ofSpec_rescaled k s.scale s.line s.defaults
  have hmarkers (path : Path ℝ) (line : Bool) (width : ℝ) :
      (if line then path.markers s.line (width * k) s.defaults else [])
        = (if line then path.markers s.line width s.defaults else []).map (Marker.rescaled k) := by
    cases line with
    | false => rfl
    | true => exact path.markers_rescaled k s.line width s.defaults
  have hshadow (id : StyleId) :
      ((s.rescaled k).shadow?.map fun shadow => (id, Definition.shadow shadow)).toList
        = (s.shadow?.map fun shadow => (id, Definition.shadow shadow)).toList.map
            fun d => (d.1, d.2.rescaled k) := by
    rw [shadow?_rescaled]
    cases s.shadow? <;> rfl
  have hpaint : (s.rescaled k).paint = s.paint := rfl
  unfold standalone Shape.rescaled
  dsimp only
  rw [hpath, hpaint, hshadow, List.map_append, Fill.definitions_rescaled, ← hmarkers]
  show Shape.mk _ _ _ (Stroke.ofSpec s.line (s.scale.rescaled k) s.defaults) _
    (if _ then Path.markers _ s.line (Stroke.ofSpec s.line (s.scale.rescaled k) s.defaults).width
      s.defaults else []) _ = _
  rw [hstroke]
  rfl

/-- The scale of a document scales the lengths that the document states, and nothing else. At another
scale, a shape that is compiled into a table of its own has the same kind, path, fill and rotation, and the
same definitions under the same identifiers but for its shadow; its line is as many times as wide, with
dashes and arrowheads as many times as long, and its shadow as many times as blurred and as far away, and
nothing else of them changes. -/
theorem build_at_scale (s : ShapeSpec ℝ) (scale : UnitScale ℝ) (hs : s.scale.factor ≠ 0)
    (hscale : scale.factor ≠ 0) :
    ∃ shape styles styles', s.build .empty = .ok (shape, styles) ∧
      { s with scale := scale }.build .empty
        = .ok (shape.rescaled (scale.factor / s.scale.factor), styles') := by
  let k : ℝˣ := .mk0 (scale.factor / s.scale.factor) (div_ne_zero hscale hs)
  have hrescaled : { s with scale := scale } = s.rescaled k := by
    have hfactor : s.scale.factor * (scale.factor / s.scale.factor) = scale.factor :=
      mul_div_cancel₀ scale.factor hs
    exact congrArg (fun factor => { s with scale := ⟨factor⟩ }) hfactor.symm
  obtain ⟨styles, hbuild⟩ := s.build_empty
  obtain ⟨styles', hbuild'⟩ := (s.rescaled k).build_empty
  rw [standalone_rescaled, ← hrescaled] at hbuild'
  exact ⟨s.standalone, styles, styles', hbuild, hbuild'⟩

/-- A dashed connector with a guide, arrowheads at both ends, a pattern and a shadow, from a scale of three
to that of English metric units. -/
theorem build_at_scale_connector :
    let s : ShapeSpec ℝ := {
      geometry := .preset "bentConnector3"
      box := ⟨100, 50⟩
      rotation := ⟨30⟩
      flipH := true
      flipV := false
      guides := [⟨"adj1", "val 25000"⟩]
      fill := some (.pattern "pct50" (.raw "red") (.raw "white"))
      groupFill := none
      line := some {
        width := some 2
        color := some (.raw "black")
        alpha := 1
        dash := some (.custom [⟨300000, 100000⟩, ⟨50000, 100000⟩])
        cap := none
        join := none
        head := some ⟨.triangle, .medium, .large⟩
        tail := some ⟨.arrow, .small, .medium⟩ }
      shadow := some ⟨.raw "black", none, 4, 3, 2700000⟩
      scale := ⟨3⟩
      defaults := .standard }
    s.scale.factor ≠ 0 ∧ (UnitScale.emuToPixels : UnitScale ℝ).factor ≠ 0 ∧
      ∃ shape styles styles', s.build .empty = .ok (shape, styles) ∧
        { s with scale := .emuToPixels }.build .empty
          = .ok (shape.rescaled ((UnitScale.emuToPixels : UnitScale ℝ).factor / s.scale.factor),
              styles') := by
  intro s
  have hs : s.scale.factor ≠ 0 := three_ne_zero
  have hscale : (UnitScale.emuToPixels : UnitScale ℝ).factor ≠ 0 := by
    rw [UnitScale.emuToPixels, Exact.literal_eq, Exact.literal_eq]
    norm_num
  exact ⟨hs, hscale, s.build_at_scale .emuToPixels hs hscale⟩

end ShapeSpec

end ShapeOutline
