import Mathlib
import ShapeOutline.Preset.Frame

/-!
# Reading declared guides

A formula fails only when it reads a guide that its kind does not declare. In a frame that holds all
guides of a kind every read has a value.

* `GuideSet.Declares`: the set has a value for each of some names;
* `GuideSet.resolve_declares`: resolving gives a value to every declared guide;
* `Frame.value`: the value of a guide, as formulas read it;
* `Frame.adj_eq`, `Frame.angle_eq`, `Frame.shortShare_eq`: reading succeeds with that value.
-/

namespace ShapeOutline

variable {α : Type} [Scalar α]

@[simp] theorem Guided.ok_bind {β γ : Type} (a : β) (k : β → Guided γ) :
    ((Except.ok a : Guided β) >>= k) = k a := rfl

namespace GuideSet

/-- The set holds a value for each of the names. -/
def Declares (s : GuideSet α) (names : List String) : Prop :=
  ∀ name ∈ names, ∃ v, s.get? name = some v

omit [Scalar α] in
theorem declares_of_mem {s : GuideSet α} {names : List String}
    (h : ∀ name ∈ names, ∃ v, (name, v) ∈ s.values) : s.Declares names := by
  intro name hname
  obtain ⟨v, hv⟩ := h name hname
  have hfound : (s.values.find? fun w => w.1 == name).isSome = true := by
    rw [List.find?_isSome]
    exact ⟨(name, v), hv, beq_self_eq_true name⟩
  obtain ⟨w, hw⟩ := Option.isSome_iff_exists.mp hfound
  exact ⟨w.2, by rw [get?, hw]; rfl⟩

/-- Whatever a document says, every declared guide gets a value. -/
theorem resolve_declares (decls : List (GuideDecl α)) (raw : List RawGuide) (scale : UnitScale α) :
    (resolve decls raw scale).Declares (decls.map GuideDecl.name) := by
  refine declares_of_mem fun name hname => ?_
  obtain ⟨d, hd, rfl⟩ := List.mem_map.mp hname
  exact ⟨_, List.mem_map.mpr ⟨d, hd, rfl⟩⟩

end GuideSet

namespace Frame

variable {f : Frame α} {names : List String} {name : String}

/-- The value of a guide in document units, which formulas read when it is declared. -/
def value (f : Frame α) (name : String) : α :=
  f.guides.scale.unapply ((f.guides.get? name).getD 0)

theorem adj_eq (h : f.guides.Declares names) (hname : name ∈ names) :
    f.adj name = .ok (f.value name) := by
  obtain ⟨v, hv⟩ := h name hname
  rw [adj, GuideSet.raw, GuideSet.get, hv, value, hv]
  rfl

theorem angle_eq (h : f.guides.Declares names) (hname : name ∈ names) :
    f.angle name = .ok (f.value name / 60000) := by
  rw [angle, adj_eq h hname]
  rfl

theorem shortShare_eq (h : f.guides.Declares names) (hname : name ∈ names) (limit : α) :
    f.shortShare name limit = .ok (f.ofShort (Scalar.pin 0 (f.value name) limit)) := by
  rw [shortShare, adj_eq h hname]
  rfl

end Frame

end ShapeOutline
