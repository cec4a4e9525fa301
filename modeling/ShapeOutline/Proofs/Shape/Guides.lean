import Mathlib
import ShapeOutline.Proofs.Shape.Outline

/-!
# No guide is missing

Reading a guide fails when the set does not hold it. Whatever a document says, the set of a shape holds
the guides that its kind declares and no others, and its formula reads no others.

* `GuideSet.get_eq_error_iff`: when a read fails;
* `GuideSet.get?_resolve_eq_none_iff`: what a resolved set does not hold;
* `ShapeSpec.build_reads_declared`: formulas read what is declared.
-/

namespace ShapeOutline

variable {α : Type} [Scalar α]

namespace GuideSet

omit [Scalar α] in
/-- A read fails exactly when the set does not hold the name, and says which name it was. -/
theorem get_eq_error_iff {s : GuideSet α} {name : String} {e : UndeclaredGuide} :
    s.get name = .error e ↔ s.get? name = none ∧ e = ⟨name⟩ := by
  unfold get
  cases s.get? name with
  | none => exact ⟨fun h => ⟨rfl, (Except.error.inj h).symm⟩, fun h => congrArg _ h.2.symm⟩
  | some v => exact ⟨nofun, fun h => nomatch h.1⟩

/-- A resolved set holds the declared names and no others, whatever names a document uses. -/
theorem get?_resolve_eq_none_iff (decls : List (GuideDecl α)) (raw : List RawGuide)
    (scale : UnitScale α) (name : String) :
    (resolve decls raw scale).get? name = none ↔ name ∉ decls.map GuideDecl.name := by
  rw [get?, Option.map_eq_none_iff, List.find?_eq_none, List.mem_map]
  show (∀ v ∈ decls.map _, _) ↔ _
  simp only [List.forall_mem_map, beq_iff_eq, not_exists, not_and]

end GuideSet

/-- A read of the set that a kind has resolved fails exactly when the kind does not declare the name.
The formula of the kind makes no such read, whatever the raw guides, the scale and the box are, and
neither does compiling a shape. -/
theorem ShapeSpec.build_reads_declared :
    (∀ (k : Kind) (raw : List RawGuide) (scale : UnitScale α),
      (∀ name e, (GuideSet.resolve (k.guides : List (GuideDecl α)) raw scale).get name = .error e ↔
        name ∉ (k.guides : List (GuideDecl α)).map GuideDecl.name ∧ e = ⟨name⟩) ∧
      ∀ w h : α, ∃ p, k.outline w h (.resolve k.guides raw scale) = .ok p) ∧
    ∀ (s : ShapeSpec α) (styles : StyleTable),
      ∃ shape styles', s.build styles = .ok (shape, styles') := by
  refine ⟨fun k raw scale => ⟨fun name e => ?_, fun w h => ?_⟩, fun s styles => ?_⟩
  · rw [GuideSet.get_eq_error_iff, GuideSet.get?_resolve_eq_none_iff]
  · obtain ⟨p, hp, -⟩ := k.outline_resolve_drawable w h raw scale
    exact ⟨p, hp⟩
  · obtain ⟨p, hp⟩ := s.exists_outline
    obtain ⟨shape, styles', hbuild, -⟩ := build_path hp styles
    exact ⟨shape, styles', hbuild⟩

end ShapeOutline
