import Mathlib
import ShapeOutline.Fill

/-!
# What a fill asks of a style sink

The identifiers of definitions need not come from a style table: whatever gives identifiers to texts will do.
A fill asks for an identifier at most once, and only for a gradient, a pattern or a picture that is painted.

* `StyleSink`: what gives identifiers to texts, and `StyleSink.recorded`: the same, with a list of all texts
  that it was asked for;
* `Paint.enter`, `resolveFill`: the fill of a shape over any sink;
* `resolveFill_sink`: over a style table, this is the fill that shapes have;
* `FillSpec.TakesGroup`, `FillSpec.effective_of_not_takesGroup`: when the fill of the group counts;
* `Paint.onOutline_cases`: what is left on bare outlines;
* `Paint.enter_recorded`, `Paint.enter_shared`, `Paint.enter_plain`: what a paint asks of the sink;
* `resolveFill_effects`: the fill of a shape, the definitions that it needs and what it asks of the sink.
-/

namespace ShapeOutline

/-! ## Sinks -/

/-- What gives identifiers to texts, and is perhaps changed by it. -/
structure StyleSink (σ : Type) where
  intern : σ → String → StyleId × σ

variable {α σ : Type} [Scalar α]

/-- A style table as a sink. -/
def StyleTable.sink : StyleSink StyleTable := ⟨StyleTable.intern⟩

/-- The same sink, with a list of the texts that it was asked for. -/
def StyleSink.recorded (sink : StyleSink σ) : StyleSink (σ × List String) where
  intern s text := ((sink.intern s.1 text).1, (sink.intern s.1 text).2, s.2 ++ [text])

namespace Paint

/-- The fill with a paint, and the sink after it was asked for what the paint needs. -/
def enter (paint : Paint α) (sink : StyleSink σ) (s : σ) : Fill α × σ :=
  match paint.definition? with
  | some d => (⟨paint, some (sink.intern s d.text).1⟩, (sink.intern s d.text).2)
  | Option.none => (⟨paint, Option.none⟩, s)

theorem enter_sink (paint : Paint α) (styles : StyleTable) :
    paint.enter StyleTable.sink styles = paint.intern styles := by
  unfold enter intern
  cases paint.definition? <;> rfl

end Paint

/-- The fill of a shape of some kind in a box with the definitions that it needs, and the sink after it. -/
def resolveFill (sink : StyleSink σ) (fill groupFill : Option (FillSpec α)) (kind : Option Kind)
    (box : Extent α) (s : σ) : (Fill α × Definitions α) × σ :=
  let (f, s) := (Paint.ofSpec fill groupFill kind box).enter sink s
  ((f, f.definitions), s)

/-! ## The fill of the group -/

namespace FillSpec

/-- The shape asks for the fill of its group, and the group has one of its own. -/
def TakesGroup (fill groupFill : Option (FillSpec α)) : Prop :=
  fill = some .group ∧ ∃ g, groupFill = some g ∧ g ≠ .group

omit [Scalar α] in
theorem effective_group (g : FillSpec α) : effective (some .group) (some g) = g := rfl

omit [Scalar α] in
/-- The fill of the group does not count for a group that asks for that of its own group. -/
theorem effective_of_not_group {f : FillSpec α} (h : f ≠ .group) (groupFill : Option (FillSpec α)) :
    effective (some f) groupFill = f := by
  cases f with
  | group => exact absurd rfl h
  | _ => rfl

omit [Scalar α] in
theorem effective_of_not_takesGroup {fill groupFill : Option (FillSpec α)}
    (h : ¬TakesGroup fill groupFill) : effective fill groupFill = fill.getD .none := by
  cases fill with
  | none => rfl
  | some f =>
    by_cases hgroup : f = .group
    · subst hgroup
      cases groupFill with
      | none => rfl
      | some g =>
        -- the group asks for the fill of its group too
        have hg : g = .group := by
          by_contra hne
          exact h ⟨rfl, g, rfl, hne⟩
        rw [effective_group, hg]
        rfl
    · exact effective_of_not_group hgroup groupFill

end FillSpec

/-! ## What a paint asks for -/

namespace Paint

/-- The paint is a gradient, a pattern or a picture, which are defined once and referred to. -/
inductive IsShared : Paint α → Prop
  | gradient (g : Gradient α) : IsShared (.gradient g)
  | pattern (t : PatternTile) : IsShared (.pattern t)
  | picture (t : PictureTile α) : IsShared (.picture t)

omit [Scalar α] in
theorem isShared_iff {paint : Paint α} : paint.IsShared ↔ ∃ d, paint.definition? = some d := by
  constructor
  · rintro (g | t | t) <;> exact ⟨_, rfl⟩
  · rintro ⟨d, hd⟩
    cases paint with
    | gradient g => exact .gradient g
    | pattern t => exact .pattern t
    | picture t => exact .picture t
    | _ => cases hd

omit [Scalar α] in
/-- A bare outline is not painted, or in one colour, or with a pattern. -/
theorem onOutline_cases (paint : Paint α) :
    paint.onOutline = none ∨ (∃ color alpha, paint.onOutline = solid color alpha) ∨
      ∃ tile, paint.onOutline = pattern tile := by
  cases paint with
  | solid color alpha => exact .inr (.inl ⟨color, alpha, rfl⟩)
  | pattern tile => exact .inr (.inr ⟨tile, rfl⟩)
  | _ => exact .inl rfl

variable (paint : Paint α) (sink : StyleSink σ) (s : σ)

@[simp] theorem enter_paint : (paint.enter sink s).1.paint = paint := by
  unfold enter
  cases paint.definition? <;> rfl

/-- The texts for which a paint needs identifiers. -/
def requests : List String := (paint.definition?.map Definition.text).toList

/-- Those texts, and no others, are what a paint asks a sink for. -/
theorem enter_recorded (log : List String) :
    paint.enter sink.recorded (s, log)
      = ((paint.enter sink s).1, (paint.enter sink s).2, log ++ paint.requests) := by
  unfold enter requests
  cases paint.definition? with
  | some d => rfl
  | none =>
    show _ = (_, _, log ++ [])
    rw [List.append_nil]

variable {paint}

/-- A paint that is shared asks once, and needs the definition that it asked for. -/
theorem enter_shared (h : paint.IsShared) :
    ∃ id d, paint.requests = [d.text] ∧ sink.intern s d.text = (id, (paint.enter sink s).2) ∧
      (paint.enter sink s).1.id = some id ∧ (paint.enter sink s).1.definitions = [(id, d)] := by
  obtain ⟨d, hd⟩ := isShared_iff.mp h
  have henter : paint.enter sink s
      = (⟨paint, some (sink.intern s d.text).1⟩, (sink.intern s d.text).2) := by
    rw [enter, hd]
  refine ⟨(sink.intern s d.text).1, d, ?_, ?_, ?_, ?_⟩
  · rw [requests, hd]
    rfl
  · rw [henter]
  · rw [henter]
  · rw [henter, Fill.definitions, hd]

/-- Any other paint asks for nothing and leaves the sink alone. -/
theorem enter_plain (h : ¬paint.IsShared) :
    paint.requests = [] ∧ (paint.enter sink s).2 = s ∧ (paint.enter sink s).1.id = Option.none ∧
      (paint.enter sink s).1.definitions = [] := by
  have hnone : paint.definition? = Option.none :=
    Option.eq_none_iff_forall_ne_some.mpr fun d hd => h (isShared_iff.mpr ⟨d, hd⟩)
  have henter : paint.enter sink s = (⟨paint, Option.none⟩, s) := by rw [enter, hnone]
  rw [henter, requests, hnone]
  exact ⟨rfl, rfl, rfl, rfl⟩

end Paint

/-! ## The fill of a shape -/

section

variable (sink : StyleSink σ) (fill : Option (FillSpec α)) (kind : Option Kind) (box : Extent α) (s : σ)

/-- Over a style table, this is the fill that shapes have. -/
theorem resolveFill_sink (groupFill : Option (FillSpec α)) (styles : StyleTable) :
    resolveFill StyleTable.sink fill groupFill kind box styles
      = let interned := (Paint.ofSpec fill groupFill kind box).intern styles
        ((interned.1, interned.1.definitions), interned.2) := by
  unfold resolveFill
  rw [Paint.enter_sink]

/-- The fill depends on that of the group only through the one that counts. -/
theorem resolveFill_congr {fill' groupFill groupFill' : Option (FillSpec α)}
    (h : FillSpec.effective fill groupFill = FillSpec.effective fill' groupFill') :
    resolveFill sink fill groupFill kind box s = resolveFill sink fill' groupFill' kind box s := by
  unfold resolveFill Paint.ofSpec
  rw [h]

/-- The fill of a shape over any sink, of which style tables are one. The fill of the group counts exactly
when the shape asks for it and the group has one of its own; then it is as if it was that of the shape. Bare
outlines have no gradient and no picture. The sink is asked once for a gradient, a pattern or a picture that
is painted, which is then the one definition that the shape needs, and not at all for anything else. -/
theorem resolveFill_effects :
    (∀ groupFill styles, resolveFill StyleTable.sink fill groupFill kind box styles
      = let interned := (Paint.ofSpec fill groupFill kind box).intern styles
        ((interned.1, interned.1.definitions), interned.2)) ∧
    (∀ g, FillSpec.TakesGroup fill (some g) → ∀ other,
      resolveFill sink fill (some g) kind box s = resolveFill sink (some g) other kind box s) ∧
    (∀ groupFill other, ¬FillSpec.TakesGroup fill groupFill → ¬FillSpec.TakesGroup fill other →
      resolveFill sink fill groupFill kind box s = resolveFill sink fill other kind box s) ∧
    ∀ groupFill,
      let resolved := resolveFill sink fill groupFill kind box s
      let paint := resolved.1.1.paint
      (kind.any Kind.isOutlineOnly = true → paint = .none ∨
        (∃ color alpha, paint = .solid color alpha) ∨ ∃ tile, paint = .pattern tile) ∧
      ∃ asked,
        (∀ log, resolveFill sink.recorded fill groupFill kind box (s, log)
          = (resolved.1, resolved.2, log ++ asked)) ∧
        (paint.IsShared → ∃ id d, asked = [d.text] ∧ sink.intern s d.text = (id, resolved.2) ∧
          resolved.1.1.id = some id ∧ resolved.1.2 = [(id, d)]) ∧
        (¬paint.IsShared → asked = [] ∧ resolved.2 = s ∧ resolved.1.1.id = none ∧
          resolved.1.2 = []) := by
  refine ⟨resolveFill_sink fill kind box, fun g hg other => ?_,
    fun groupFill other hgroup hother => ?_, fun groupFill => ?_⟩
  · obtain ⟨rfl, g', hg', hne⟩ := hg
    obtain rfl : g = g' := Option.some.inj hg'
    refine resolveFill_congr sink _ kind box s ?_
    rw [FillSpec.effective_group, FillSpec.effective_of_not_group hne]
  · refine resolveFill_congr sink _ kind box s ?_
    rw [FillSpec.effective_of_not_takesGroup hgroup, FillSpec.effective_of_not_takesGroup hother]
  · intro resolved paint
    have hpaint : paint = Paint.ofSpec fill groupFill kind box := Paint.enter_paint _ sink s
    refine ⟨fun houtline => ?_, (Paint.ofSpec fill groupFill kind box).requests, fun log => ?_,
      fun hshared => Paint.enter_shared sink s (hpaint ▸ hshared),
      fun hplain => Paint.enter_plain sink s (hpaint ▸ hplain)⟩
    · rw [hpaint, Paint.ofSpec, if_pos houtline]
      exact Paint.onOutline_cases _
    · unfold resolveFill
      rw [Paint.enter_recorded]
      rfl

end

end ShapeOutline
