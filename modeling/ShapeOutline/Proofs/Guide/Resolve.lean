import Mathlib
import ShapeOutline.Proofs.Exact
import ShapeOutline.Guide.Set

/-!
# Which entries of a document count

A document lists its guides in any order; some are of no declared guide, some have no value, and a name may
come more than once. Of the entries of a name the first counts, whether it has a value or not. So the order
of entries of different names and the entries of foreign names do not matter. Entries without a value are
as good as absent except where one is the first of its name: there it hides the entries behind it, and the
guide keeps its default.

* `RawGuide.value?`, `GuideSet.entries`, `GuideSet.usable`: the entries of a document and their values;
* `GuideSet.Hidden`: a guide whose value is hidden by an entry that has none;
* `GuideSet.resolve_usable`: what guides get from the entries that have a value;
* `GuideSet.resolve_usable_eq_iff`: leaving out the others changes nothing unless a guide is hidden;
* `GuideSet.resolve_entries`: which entries of a document count.
-/

namespace ShapeOutline

variable {α : Type} [Scalar α]

/-- The value of an entry, if its formula has one. -/
def RawGuide.value? (g : RawGuide) : Option α := (guideValue g.name g.formula).toOption

namespace GuideSet

/-- The entries of a name, in order. -/
def entries (raw : List RawGuide) (name : String) : List RawGuide := raw.filter fun g => g.name == name

/-- Whether an entry is of a declared guide. -/
def isDeclared (decls : List (GuideDecl α)) (g : RawGuide) : Bool := decls.any fun d => d.name == g.name

/-- The entries of declared guides that have a value. -/
def usable (decls : List (GuideDecl α)) (raw : List RawGuide) : List RawGuide :=
  raw.filter fun g => isDeclared decls g && (g.value? (α := α)).isSome

/-- The value of the first entry of the guide's name that has one, else the default. -/
def usableValue (raw : List RawGuide) (d : GuideDecl α) : α :=
  ((entries raw d.name).findSome? RawGuide.value?).getD d.default

/-- The first entry of the guide's name has no value, and a later one has one that is not the default. -/
def Hidden (scale : UnitScale α) (raw : List RawGuide) (d : GuideDecl α) : Prop :=
  ∃ g rest v, entries raw d.name = g :: rest ∧ g.value? (α := α) = none ∧
    rest.findSome? RawGuide.value? = some v ∧ scale.apply v ≠ scale.apply d.default

variable {decls : List (GuideDecl α)} {raw raw' : List RawGuide} {scale : UnitScale α}

/-- A guide gets the value of the first entry of its name. -/
theorem documentValue_eq (raw : List RawGuide) (d : GuideDecl α) :
    documentValue raw d = ((entries raw d.name).head?.bind RawGuide.value?).getD d.default := by
  rw [documentValue, entries, List.head?_filter]
  cases raw.find? fun g => g.name == d.name with
  | none => rfl
  | some g =>
    show _ = (g.value? (α := α)).getD d.default
    dsimp only [RawGuide.value?]
    cases guideValue (α := α) g.name g.formula <;> rfl

/-- Only the order among the entries of one name matters. -/
theorem resolve_congr (h : ∀ d ∈ decls, entries raw' d.name = entries raw d.name) :
    resolve decls raw' scale = resolve decls raw scale := by
  rw [resolve, resolve]
  congr 1
  refine List.map_congr_left fun d hd => ?_
  rw [documentValue_eq, documentValue_eq, h d hd]

omit [Scalar α] in
theorem isDeclared_of_mem {d : GuideDecl α} (hd : d ∈ decls) {g : RawGuide} (hg : g.name = d.name) :
    isDeclared decls g = true :=
  List.any_eq_true.mpr ⟨d, hd, beq_iff_eq.mpr hg.symm⟩

omit [Scalar α] in
/-- Entries of foreign names are as good as absent. -/
theorem entries_filter_isDeclared {d : GuideDecl α} (hd : d ∈ decls) (raw : List RawGuide) :
    entries (raw.filter (isDeclared decls)) d.name = entries raw d.name := by
  rw [entries, entries, List.filter_filter]
  refine List.filter_congr fun g _ => ?_
  cases hname : g.name == d.name with
  | false => rfl
  | true => exact isDeclared_of_mem hd (beq_iff_eq.mp hname)

/-- The usable entries of a declared guide are its entries that have a value. -/
theorem entries_usable {d : GuideDecl α} (hd : d ∈ decls) (raw : List RawGuide) :
    entries (usable decls raw) d.name
      = (entries raw d.name).filter fun g => (g.value? (α := α)).isSome := by
  rw [entries, entries, usable, List.filter_filter, List.filter_filter]
  refine List.filter_congr fun g _ => ?_
  cases hname : g.name == d.name with
  | false => rw [Bool.false_and, Bool.and_false]
  | true => rw [isDeclared_of_mem hd (beq_iff_eq.mp hname), Bool.true_and, Bool.true_and, Bool.and_true]

theorem head?_filter_isSome_bind {β γ : Type} (f : β → Option γ) (xs : List β) :
    (xs.filter fun x => (f x).isSome).head?.bind f = xs.findSome? f := by
  induction xs with
  | nil => rfl
  | cons x xs ih =>
    rw [List.filter_cons, List.findSome?_cons]
    cases hx : f x with
    | none => exact ih
    | some y => exact hx

/-- Among the entries that have a value, each guide finds its own. -/
theorem resolve_usable (decls : List (GuideDecl α)) (raw : List RawGuide) (scale : UnitScale α) :
    resolve decls (usable decls raw) scale
      = ⟨scale, decls.map fun d => (d.name, scale.apply (usableValue raw d))⟩ := by
  rw [resolve]
  congr 1
  refine List.map_congr_left fun d hd => ?_
  rw [documentValue_eq, entries_usable hd, head?_filter_isSome_bind]
  rfl

/-- A guide gets the value of the first entry that has one, unless that is hidden. -/
theorem apply_usableValue_eq_iff (d : GuideDecl α) :
    scale.apply (usableValue raw d) = scale.apply (documentValue raw d) ↔ ¬ Hidden scale raw d := by
  rw [documentValue_eq, usableValue, Hidden]
  cases hentries : entries raw d.name with
  | nil =>
    refine iff_of_true rfl ?_
    rintro ⟨g, rest, v, heq, -⟩
    cases heq
  | cons g rest =>
    rw [List.findSome?_cons, List.head?_cons, Option.bind_some]
    cases hg : g.value? (α := α) with
    | some v =>
      refine iff_of_true rfl ?_
      rintro ⟨g', rest', v', heq, hnone, -⟩
      obtain ⟨rfl, rfl⟩ := List.cons.inj heq
      cases hg.symm.trans hnone
    | none =>
      dsimp only
      cases hrest : rest.findSome? (RawGuide.value? (α := α)) with
      | none =>
        refine iff_of_true rfl ?_
        rintro ⟨g', rest', v', heq, -, hsome, -⟩
        obtain ⟨rfl, rfl⟩ := List.cons.inj heq
        cases hrest.symm.trans hsome
      | some v =>
        rw [← not_iff_not, not_not]
        constructor
        · intro hne
          exact ⟨g, rest, v, rfl, hg, hrest, hne⟩
        · rintro ⟨g', rest', v', heq, -, hsome, hne⟩
          obtain ⟨rfl, rfl⟩ := List.cons.inj heq
          obtain rfl := Option.some.inj (hrest.symm.trans hsome)
          exact hne

/-- Leaving out all entries that are not usable changes nothing unless a declared guide is hidden. -/
theorem resolve_usable_eq_iff :
    resolve decls (usable decls raw) scale = resolve decls raw scale ↔
      ∀ d ∈ decls, ¬ Hidden scale raw d := by
  rw [resolve_usable, resolve, GuideSet.mk.injEq, List.map_inj_left]
  simp only [true_and, Prod.mk.injEq, apply_usableValue_eq_iff]

/-- Which entries of a document count. The set holds the declared names in order. Entries of foreign names
can be left out, and entries of different names can change places: only the order among the entries of one
name matters. When all entries that have no value are left out as well, each guide gets the value of the
first entry of its name that has one, or else its default, multiplied by the scale; and the set is the
same as before exactly when no declared guide is hidden. -/
theorem resolve_entries (decls : List (GuideDecl α)) (raw : List RawGuide) (scale : UnitScale α) :
    (resolve decls raw scale).values.map Prod.fst = decls.map GuideDecl.name ∧
      resolve decls (raw.filter (isDeclared decls)) scale = resolve decls raw scale ∧
      (∀ raw', (∀ name, entries raw' name = entries raw name) →
        resolve decls raw' scale = resolve decls raw scale) ∧
      resolve decls (usable decls raw) scale
        = ⟨scale, decls.map fun d => (d.name, scale.apply (usableValue raw d))⟩ ∧
      (resolve decls (usable decls raw) scale = resolve decls raw scale ↔
        ∀ d ∈ decls, ¬ Hidden scale raw d) := by
  refine ⟨?_, ?_, fun raw' h => resolve_congr fun d _ => h d.name, resolve_usable decls raw scale,
    resolve_usable_eq_iff⟩
  · rw [resolve, List.map_map]
    rfl
  · exact resolve_congr fun d hd => entries_filter_isDeclared hd raw

/-- An entry without a value hides the one behind it: the guide keeps its default. -/
theorem unreadable_entry_hides :
    let decls : List (GuideDecl ℝ) := [⟨"adj1", 25000⟩]
    let raw : List RawGuide := [⟨"adj1", "val bad"⟩, ⟨"adj1", "val 5"⟩]
    usable decls raw = [⟨"adj1", "val 5"⟩] ∧
      (resolve decls (usable decls raw) .one).values = [("adj1", 5)] ∧
      (resolve decls raw .one).values = [("adj1", 25000)] ∧
      resolve decls (usable decls raw) .one ≠ resolve decls raw .one := by
  intro decls raw
  have hbad : (RawGuide.mk "adj1" "val bad").value? = (none : Option ℝ) := rfl
  have hgood : (RawGuide.mk "adj1" "val 5").value? = (some 5 : Option ℝ) := by
    have hfive : (Scalar.ofScientific 5 true 0 : ℝ) = 5 := by
      show (OfScientific.ofScientific 5 true 0 : ℝ) = 5
      norm_num
    show some (Scalar.ofScientific 5 true 0 : ℝ) = some 5
    rw [hfive]
  have hone (v : ℝ) : (UnitScale.one : UnitScale ℝ).apply v = v := by
    show v * ((1 : ℕ) : ℝ) = v
    rw [Nat.cast_one, mul_one]
  have husable : usable decls raw = [⟨"adj1", "val 5"⟩] := by
    have hdeclared : decls.any (fun d => d.name == "adj1") = true := rfl
    simp only [usable, raw, List.filter_cons, List.filter_nil, isDeclared, hdeclared, hbad, hgood]
    rfl
  have hentries : entries raw "adj1" = raw := rfl
  have hreadable : (resolve decls (usable decls raw) .one).values = [("adj1", 5)] := by
    rw [resolve_usable]
    show [("adj1", UnitScale.one.apply (usableValue raw ⟨"adj1", 25000⟩))] = _
    rw [usableValue, hentries, List.findSome?_cons, hbad, List.findSome?_cons, hgood, hone]
    rfl
  have hdefault : (resolve decls raw .one).values = [("adj1", 25000)] := by
    show [("adj1", UnitScale.one.apply (documentValue raw ⟨"adj1", 25000⟩))] = _
    rw [documentValue_eq, hentries, List.head?_cons, Option.bind_some, hbad, hone]
    rfl
  refine ⟨husable, hreadable, hdefault, fun heq => ?_⟩
  rw [heq, hdefault] at hreadable
  norm_num at hreadable

end GuideSet

end ShapeOutline
