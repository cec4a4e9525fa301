import Mathlib
import ShapeOutline.Proofs.Shape.Outline
import ShapeOutline.Proofs.Style.Definition

/-!
# Compiling the shapes of a document

The shapes of a document are compiled one after the other into one style table. What a shape is
compiled to depends on the table only through the identifiers of its definitions, and these are the
identifiers of their texts in the final table.

* `ShapeSpec.buildAll`: compiles shapes into one table;
* `ShapeSpec.compiled`: the compiled shape, from a naming of its definitions;
* `ShapeSpec.styles`: the style table of a document;
* `build_eq`, `buildAll_eq`: compiling is that, with the names of the final table;
* `Shape.ResolvesIn`: the identifiers of a shape stand for its definitions;
* `ShapeSpec.buildAll_resolvesIn`, `ShapeSpec.buildAll_perm`: what follows for whole documents.
-/

namespace ShapeOutline

variable {α : Type} [Scalar α]

/-! ## One shape -/

/-- The identifier of a definition in a table that holds it. -/
def StyleTable.name (t : StyleTable) (d : Definition α) : StyleId := (t.lookup? d.text).getD ⟨0⟩

namespace ShapeSpec

/-- What the inside of the shape is painted with. -/
def paint (s : ShapeSpec α) : Paint α := .ofSpec s.fill s.groupFill s.kind? s.box

/-- What the shape needs to be defined: what its paint needs, then its shadow. -/
def definitions (s : ShapeSpec α) : List (Definition α) :=
  s.paint.definition?.toList ++ (s.shadow?.map Definition.shadow).toList

/-- The texts of what the shape needs to be defined. -/
def texts (s : ShapeSpec α) : List String := s.definitions.map Definition.text

/-- The outline of the shape before it is flipped, which always has a value. -/
def outlinePath (s : ShapeSpec α) : Path α := s.outline.toOption.getD Path.empty

/-- The compiled shape, when its definitions are named in some way. -/
def compiled (s : ShapeSpec α) (name : Definition α → StyleId) : Shape α where
  kind := s.kind?
  path := s.outlinePath.flipped s.box.w s.box.h s.flipH s.flipV
  fill := ⟨s.paint, s.paint.definition?.map name⟩
  stroke := Stroke.ofSpec s.line s.scale s.defaults
  definitions := s.definitions.map fun d => (name d, d)
  markers :=
    if s.isLine s.outlinePath then
      (s.outlinePath.flipped s.box.w s.box.h s.flipH s.flipV).markers s.line
        (Stroke.ofSpec s.line s.scale s.defaults).width s.defaults
    else []
  rotation := s.rotation

theorem outline_eq (s : ShapeSpec α) : s.outline = .ok s.outlinePath := by
  obtain ⟨p, hp⟩ := s.exists_outline
  rw [outlinePath, hp]
  rfl

end ShapeSpec

theorem Definition.intern_eq {d : Definition α} {t u : StyleTable}
    (hu : u.Extends (t.internAll [d.text])) : d.intern t = (u.name d, t.internAll [d.text]) := by
  have hname : u.name d = (d.intern t).1 := by
    rw [StyleTable.name, hu.lookup? (t.lookup?_intern d.text)]
    rfl
  rw [hname]
  rfl

theorem Paint.intern_eq {paint : Paint α} {t u : StyleTable}
    (hu : u.Extends (t.internAll (paint.definition?.toList.map Definition.text))) :
    paint.intern t = (⟨paint, paint.definition?.map u.name⟩,
      t.internAll (paint.definition?.toList.map Definition.text)) := by
  unfold intern
  cases hdefinition : paint.definition? with
  | none => rfl
  | some d =>
    rw [hdefinition] at hu
    dsimp only
    rw [Definition.intern_eq hu]
    rfl

theorem ShapeSpec.internShadow_eq {shadow : Option (Shadow α)} {t u : StyleTable}
    (hu : u.Extends (t.internAll ((shadow.map Definition.shadow).toList.map Definition.text))) :
    internShadow shadow t =
      ((shadow.map Definition.shadow).toList.map fun d => (u.name d, d),
        t.internAll ((shadow.map Definition.shadow).toList.map Definition.text)) := by
  unfold internShadow
  cases shadow with
  | none => rfl
  | some shadow =>
    dsimp only
    rw [Definition.intern_eq hu]
    rfl

omit [Scalar α] in
/-- The definitions of a fill are those of its paint. -/
theorem Fill.definitions_eq (paint : Paint α) (name : Definition α → StyleId) :
    (Fill.mk paint (paint.definition?.map name)).definitions
      = paint.definition?.toList.map fun d => (name d, d) := by
  unfold definitions
  cases paint.definition? <;> rfl

namespace ShapeSpec

/-- Compiling a shape enters the texts of its definitions into the table, and names the definitions
as any later table does. -/
theorem build_eq (s : ShapeSpec α) {t u : StyleTable} (hu : u.Extends (t.internAll s.texts)) :
    s.build t = .ok (s.compiled u.name, t.internAll s.texts) := by
  have htexts : t.internAll s.texts
      = (t.internAll (s.paint.definition?.toList.map Definition.text)).internAll
        ((s.shadow?.map Definition.shadow).toList.map Definition.text) := by
    rw [texts, definitions, List.map_append, StyleTable.internAll_append]
  rw [htexts] at hu ⊢
  have hpaint := Paint.intern_eq (hu.trans (StyleTable.internAll_extends _ _))
  have hshadow := internShadow_eq hu
  have hdefinitions := Fill.definitions_eq s.paint u.name
  unfold paint at hpaint hshadow hdefinitions
  rw [build, outline_eq, Guided.ok_bind, hpaint]
  dsimp only
  rw [hshadow, hdefinitions]
  dsimp only
  rw [← List.map_append]
  rfl

end ShapeSpec

/-! ## All shapes of a document -/

namespace ShapeSpec

/-- Compiles shapes one after the other into one style table. -/
def buildAll : List (ShapeSpec α) → StyleTable → Guided (List (Shape α) × StyleTable)
  | [], styles => .ok ([], styles)
  | s :: specs, styles => do
    let (shape, styles) ← s.build styles
    let (shapes, styles) ← buildAll specs styles
    return (shape :: shapes, styles)

/-- Shapes are compiled as each of them alone, with the names of the final table. -/
theorem buildAll_eq (specs : List (ShapeSpec α)) {t u : StyleTable}
    (hu : u.Extends (t.internAll (specs.flatMap texts))) :
    buildAll specs t
      = .ok (specs.map fun s => s.compiled u.name, t.internAll (specs.flatMap texts)) := by
  induction specs generalizing t with
  | nil => rfl
  | cons s specs ih =>
    rw [List.flatMap_cons, StyleTable.internAll_append] at hu ⊢
    -- the final table extends the one behind the first shape
    have hfirst := s.build_eq (hu.trans (StyleTable.internAll_extends _ _))
    rw [buildAll, hfirst, Guided.ok_bind]
    dsimp only
    rw [ih hu, Guided.ok_bind]
    rfl

/-- The style table of a document: what its shapes need to be defined, each text once. -/
def styles (specs : List (ShapeSpec α)) : StyleTable :=
  StyleTable.empty.internAll (specs.flatMap texts)

/-- Every document compiles, to its shapes as each of them alone and to its style table. -/
theorem buildAll_empty_eq (specs : List (ShapeSpec α)) :
    buildAll specs .empty = .ok (specs.map fun s => s.compiled (styles specs).name, styles specs) :=
  buildAll_eq specs (.refl _)

theorem mem_texts_styles {specs : List (ShapeSpec α)} {text : String} :
    text ∈ (styles specs).texts ↔ ∃ s ∈ specs, text ∈ s.texts := by
  rw [styles, StyleTable.mem_texts_internAll, List.mem_flatMap]
  exact or_iff_right List.not_mem_nil

/-- The style table of a document holds what each of its shapes needs to be defined. -/
theorem text_mem_styles {specs : List (ShapeSpec α)} {s : ShapeSpec α} {d : Definition α}
    (hs : s ∈ specs) (hd : d ∈ s.definitions) : d.text ∈ (styles specs).texts :=
  mem_texts_styles.mpr ⟨s, hs, List.mem_map_of_mem hd⟩

end ShapeSpec

/-! ## Identifiers stay valid -/

/-- The name of a definition that is held stands for its text. -/
theorem StyleTable.get?_name {t : StyleTable} {d : Definition α} (h : d.text ∈ t.texts) :
    t.get? (t.name d) = some d.text := by
  obtain ⟨id, hid⟩ := exists_lookup? h
  rw [name, hid]
  exact lookup?_eq_some_iff.mp hid

/-- Whether a definition is one of a fill. -/
def Definition.isPaint : Definition α → Bool
  | shadow _ => false
  | _ => true

/-- The identifiers of a compiled shape stand for its definitions in a table, are different, and
lead from the fill to its definition. -/
structure Shape.ResolvesIn (shape : Shape α) (styles : StyleTable) : Prop where
  text : ∀ d ∈ shape.definitions, styles.get? d.1 = some d.2.text
  distinct : (shape.definitions.map Prod.fst).Nodup
  definition : ∀ d ∈ shape.definitions, shape.definitions.get? d.1 = some d.2
  fill_isSome : shape.fill.id.isSome = true ↔ ∃ d ∈ shape.definitions, d.2.isPaint = true
  fill_first : ∀ id, shape.fill.id = some id →
    ∃ d rest, shape.definitions = (id, d) :: rest ∧ shape.fill.paint.definition? = some d

omit [Scalar α] in
theorem Paint.isPaint_of_definition? {p : Paint α} {d : Definition α}
    (h : p.definition? = some d) : d.isPaint = true := by
  cases p with
  | gradient g =>
    cases h
    rfl
  | pattern t =>
    cases h
    rfl
  | picture t =>
    cases h
    rfl
  | _ => cases h

/-- The definition of a fill is never written like a shadow. -/
theorem Definition.text_ne_shadow {d : Definition α} (h : d.isPaint = true) (s : Shadow α) :
    d.text ≠ (Definition.shadow s).text := by
  intro htext
  have hkind := kind_eq_of_chars_eq (String.ofList_inj.mp htext)
  cases d <;> cases hkind
  cases h

omit [Scalar α] in
/-- Under different identifiers every definition is found. -/
theorem Definitions.get?_of_mem {defs : Definitions α} (hdistinct : (defs.map Prod.fst).Nodup)
    {d : StyleId × Definition α} (hd : d ∈ defs) : defs.get? d.1 = some d.2 := by
  induction defs with
  | nil => cases hd
  | cons e defs ih =>
    obtain ⟨hnew, hdistinct⟩ := List.nodup_cons.mp hdistinct
    rcases List.mem_cons.mp hd with rfl | hd
    · rw [get?, List.find?_cons, beq_self_eq_true]
      rfl
    · have hne : (e.1 == d.1) = false := by
        rw [beq_eq_false_iff_ne]
        intro hsame
        rw [hsame] at hnew
        exact hnew (List.mem_map_of_mem hd)
      rw [get?, List.find?_cons, hne]
      exact ih hdistinct hd

namespace ShapeSpec

variable {s : ShapeSpec α} {t : StyleTable}

/-- The definitions of a shape are named differently. -/
theorem nodup_names (h : ∀ d ∈ s.definitions, d.text ∈ t.texts) :
    (s.definitions.map t.name).Nodup := by
  have hdistinct : (s.definitions.map Definition.text).Nodup := by
    unfold definitions
    cases hpaint : s.paint.definition? with
    | none => cases s.shadow? <;> simp
    | some d =>
      cases s.shadow? with
      | none => simp
      | some shadow =>
        -- only the fill and the shadow could collide
        have hne := Definition.text_ne_shadow (Paint.isPaint_of_definition? hpaint) shadow
        simpa using hne
  -- equal names stand for equal texts
  have htexts : (s.definitions.map t.name).map t.get?
      = (s.definitions.map Definition.text).map some := by
    rw [List.map_map, List.map_map]
    exact List.map_congr_left fun d hd => StyleTable.get?_name (h d hd)
  refine List.Nodup.of_map t.get? ?_
  rw [htexts]
  exact hdistinct.map (Option.some_injective _)

/-- The identifiers of a compiled shape stand for its definitions in every table that holds them. -/
theorem compiled_resolvesIn (h : ∀ d ∈ s.definitions, d.text ∈ t.texts) :
    (s.compiled t.name).ResolvesIn t := by
  have hdistinct : ((s.compiled t.name).definitions.map Prod.fst).Nodup := by
    show ((s.definitions.map fun d => (t.name d, d)).map Prod.fst).Nodup
    rw [List.map_map]
    exact nodup_names h
  refine ⟨?_, hdistinct, fun d hd => Definitions.get?_of_mem hdistinct hd, ?_, ?_⟩
  · intro d hd
    obtain ⟨e, he, rfl⟩ := List.mem_map.mp hd
    exact StyleTable.get?_name (h e he)
  · show (s.paint.definition?.map t.name).isSome = true ↔
      ∃ d ∈ s.definitions.map fun d => (t.name d, d), d.2.isPaint = true
    unfold definitions
    cases hpaint : s.paint.definition? with
    | none => cases s.shadow? <;> simp [Definition.isPaint]
    | some d =>
      have hd := Paint.isPaint_of_definition? hpaint
      simp [hd]
  · intro id hid
    obtain ⟨d, hd, rfl⟩ := Option.map_eq_some_iff.mp hid
    refine ⟨d, (s.shadow?.map Definition.shadow).toList.map fun d => (t.name d, d), ?_, hd⟩
    show (s.definitions.map fun d => (t.name d, d)) = _
    rw [definitions, hd]
    rfl

/-- In a document every identifier of every shape stands for its definition at the end, whatever is
compiled before and after. -/
theorem buildAll_resolvesIn (specs : List (ShapeSpec α)) :
    ∃ shapes styles, buildAll specs .empty = .ok (shapes, styles) ∧
      shapes.length = specs.length ∧ ∀ shape ∈ shapes, shape.ResolvesIn styles := by
  refine ⟨_, _, buildAll_empty_eq specs, List.length_map _, ?_⟩
  intro shape hshape
  obtain ⟨s, hs, rfl⟩ := List.mem_map.mp hshape
  exact compiled_resolvesIn fun d hd => text_mem_styles hs hd

end ShapeSpec

/-! ## Another order of shapes -/

namespace StyleTable

/-- The identifiers that were handed out. -/
def ids (t : StyleTable) : Set StyleId := {id | ∃ text, t.get? id = some text}

/-- A one-to-one correspondence between the identifiers of two tables that keeps what they stand
for. -/
structure Renames (t u : StyleTable) (rename : StyleId → StyleId) : Prop where
  bijOn : Set.BijOn rename t.ids u.ids
  get?_eq : ∀ id ∈ t.ids, u.get? (rename id) = t.get? id

/-- The identifier in `u` of what an identifier stands for in `t`. -/
def renamed (t u : StyleTable) (id : StyleId) : StyleId :=
  ((t.get? id).bind u.lookup?).getD ⟨0⟩

variable {t u : StyleTable}

theorem lookup?_renamed (h : ∀ text ∈ t.texts, text ∈ u.texts) {id : StyleId} {text : String}
    (hid : t.get? id = some text) : u.lookup? text = some (t.renamed u id) := by
  obtain ⟨id', hid'⟩ := exists_lookup? (h text (mem_texts_of_get? hid))
  rw [renamed, hid, Option.bind_some, hid']
  rfl

theorem get?_renamed (h : ∀ text ∈ t.texts, text ∈ u.texts) {id : StyleId} {text : String}
    (hid : t.get? id = some text) : u.get? (t.renamed u id) = some text :=
  lookup?_eq_some_iff.mp (lookup?_renamed h hid)

/-- Going to the other table and back is going nowhere. -/
theorem renamed_renamed (h : ∀ text ∈ t.texts, text ∈ u.texts) {id : StyleId}
    (hid : id ∈ t.ids) : u.renamed t (t.renamed u id) = id := by
  obtain ⟨text, htext⟩ := hid
  rw [renamed, get?_renamed h htext, Option.bind_some, lookup?_eq_some_iff.mpr htext]
  rfl

/-- Tables that hold the same texts differ in the identifiers only. -/
theorem renames_renamed (h : ∀ text, text ∈ t.texts ↔ text ∈ u.texts) :
    t.Renames u (t.renamed u) := by
  have htu : ∀ text ∈ t.texts, text ∈ u.texts := fun text => (h text).mp
  have hut : ∀ text ∈ u.texts, text ∈ t.texts := fun text => (h text).mpr
  constructor
  · have hback : Set.InvOn (u.renamed t) (t.renamed u) t.ids u.ids :=
      ⟨fun _ => renamed_renamed htu, fun _ => renamed_renamed hut⟩
    refine hback.bijOn ?_ ?_
    · rintro id ⟨text, htext⟩
      exact ⟨text, get?_renamed htu htext⟩
    · rintro id ⟨text, htext⟩
      exact ⟨text, get?_renamed hut htext⟩
  · rintro id ⟨text, htext⟩
    rw [get?_renamed htu htext, htext]

/-- What a definition is called in one table is what its name in the other one is renamed to. -/
theorem renamed_name {d : Definition α} (hd : d.text ∈ t.texts) :
    t.renamed u (t.name d) = u.name d := by
  rw [renamed, get?_name hd, Option.bind_some]
  rfl

end StyleTable

omit [Scalar α] in
/-- The shape with other identifiers. -/
def Shape.rename (rename : StyleId → StyleId) (shape : Shape α) : Shape α :=
  { shape with
    fill := ⟨shape.fill.paint, shape.fill.id.map rename⟩
    definitions := shape.definitions.map fun d => (rename d.1, d.2) }

namespace ShapeSpec

/-- Naming the definitions of a shape otherwise is renaming its identifiers. -/
theorem compiled_rename {s : ShapeSpec α} {name name' : Definition α → StyleId}
    {rename : StyleId → StyleId} (h : ∀ d ∈ s.definitions, rename (name d) = name' d) :
    (s.compiled name).rename rename = s.compiled name' := by
  have hfill : (s.paint.definition?.map name).map rename = s.paint.definition?.map name' := by
    rw [Option.map_map]
    refine Option.map_congr fun d hd => h d ?_
    rw [definitions, hd]
    exact List.mem_append_left _ List.mem_cons_self
  have hdefinitions : (s.definitions.map fun d => (name d, d)).map (fun d => (rename d.1, d.2))
      = s.definitions.map fun d => (name' d, d) := by
    rw [List.map_map]
    refine List.map_congr_left fun d hd => ?_
    show (rename (name d), d) = _
    rw [h d hd]
  rw [Shape.rename]
  show Shape.mk _ _ ⟨_, (s.paint.definition?.map name).map rename⟩ _
    ((s.definitions.map fun d => (name d, d)).map fun d => (rename d.1, d.2)) _ _ = _
  rw [hfill, hdefinitions]
  rfl

/-- The shapes of a document in another order are compiled to the same shapes, up to one renaming of
the identifiers that keeps what they stand for. -/
theorem buildAll_perm {specs specs' : List (ShapeSpec α)} (h : specs.Perm specs') :
    ∃ (shapes : List (Shape α)) (styles : StyleTable) (shapes' : List (Shape α))
      (styles' : StyleTable) (rename : StyleId → StyleId),
      buildAll specs .empty = .ok (shapes, styles) ∧
      buildAll specs' .empty = .ok (shapes', styles') ∧
      (∀ text, text ∈ styles.texts ↔ text ∈ styles'.texts) ∧
      styles.Renames styles' rename ∧
      shapes.length = specs.length ∧ shapes'.length = specs'.length ∧
      ∀ (i j : ℕ) (spec : ShapeSpec α), specs[i]? = some spec → specs'[j]? = some spec →
        shapes'[j]? = shapes[i]?.map (Shape.rename rename) := by
  -- all that the order decides is the final table
  have hsame : ∀ text, text ∈ (styles specs).texts ↔ text ∈ (styles specs').texts := by
    intro text
    rw [mem_texts_styles, mem_texts_styles]
    exact exists_congr fun s => and_congr_left fun _ => h.mem_iff
  have hrenames : (styles specs).Renames (styles specs') ((styles specs).renamed (styles specs')) :=
    StyleTable.renames_renamed hsame
  refine ⟨_, _, _, _, (styles specs).renamed (styles specs'), buildAll_empty_eq specs,
    buildAll_empty_eq specs', hsame, hrenames, List.length_map _, List.length_map _, ?_⟩
  intro i j spec hi hj
  have hrename : (spec.compiled (styles specs).name).rename
      ((styles specs).renamed (styles specs')) = spec.compiled (styles specs').name := by
    refine compiled_rename fun d hd => StyleTable.renamed_name ?_
    exact text_mem_styles (List.mem_of_getElem? hi) hd
  rw [List.getElem?_map, List.getElem?_map, hi, hj]
  exact congrArg some hrename.symm

/-- Two rectangles with different patterns, of which the second has a shadow, in both orders. -/
theorem buildAll_swap :
    let plain : ShapeSpec Float := {
      geometry := .preset "rect"
      box := ⟨20, 10⟩
      rotation := ⟨0⟩
      flipH := false
      flipV := false
      guides := []
      fill := some (.pattern "pct50" (.raw "red") (.raw "white"))
      groupFill := none
      line := none
      shadow := none
      scale := ⟨1⟩
      defaults := .standard }
    let shaded : ShapeSpec Float := { plain with
      fill := some (.pattern "pct25" (.raw "red") (.raw "white"))
      shadow := some ⟨.raw "black", none, 4, 3, 2700000⟩ }
    [plain, shaded].Perm [shaded, plain] ∧
    ∃ (shapes : List (Shape Float)) (styles : StyleTable) (shapes' : List (Shape Float))
      (styles' : StyleTable) (rename : StyleId → StyleId),
      buildAll [plain, shaded] .empty = .ok (shapes, styles) ∧
      buildAll [shaded, plain] .empty = .ok (shapes', styles') ∧
      (∀ text, text ∈ styles.texts ↔ text ∈ styles'.texts) ∧
      styles.Renames styles' rename ∧
      shapes.length = 2 ∧ shapes'.length = 2 ∧
      ∀ (i j : ℕ) (spec : ShapeSpec Float), [plain, shaded][i]? = some spec →
        [shaded, plain][j]? = some spec → shapes'[j]? = shapes[i]?.map (Shape.rename rename) := by
  intro plain shaded
  have hswap : [plain, shaded].Perm [shaded, plain] := .swap shaded plain []
  exact ⟨hswap, buildAll_perm hswap⟩

end ShapeSpec

end ShapeOutline
