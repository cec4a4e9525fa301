import Mathlib
import ShapeOutline.Style

/-!
# Style tables over a run

A table only grows: a text that was given an identifier keeps it, and no text is given a second one.
Both records of a table agree, so that what is known of one is known of the other.

* `StyleTable.lookup?_eq_some_iff`: the two directions in which a table is read;
* `lookup?_eq_idxOf?`, `texts_intern`: a table is as good as the list of its texts, which is searched, and
  added to behind when nothing is found;
* `StyleTable.Extends`: one table holds the texts of another under the same identifiers;
* `lookup?_intern`, `get?_intern`: what interning hands out can be read back;
* `StyleTable.internAll`: the table after many texts;
* `intern_eq_iff`: two texts are given one identifier exactly when they are the same.
-/

namespace ShapeOutline.StyleTable

variable {t u v : StyleTable} {text : String} {id : StyleId}

/-- The table `u` holds the texts of `t` under the same identifiers, and perhaps more. -/
def Extends (u t : StyleTable) : Prop := t.texts <+: u.texts

/-- The table after some more texts. -/
def internAll (t : StyleTable) (texts : List String) : StyleTable :=
  texts.foldl (fun t text => (t.intern text).2) t

/-! ## From a text to its identifier and back -/

theorem lookup?_eq_some_iff : t.lookup? text = some id ↔ t.get? id = some text := t.coherent text id

theorem mem_texts_of_get? (h : t.get? id = some text) : text ∈ t.texts := List.mem_of_getElem? h

theorem exists_lookup? (h : text ∈ t.texts) : ∃ id, t.lookup? text = some id := by
  obtain ⟨i, hi⟩ := List.mem_iff_getElem?.mp h
  exact ⟨⟨i⟩, lookup?_eq_some_iff.mpr hi⟩

theorem lookup?_eq_none_iff : t.lookup? text = none ↔ text ∉ t.texts := by
  constructor
  · intro hnone hmem
    obtain ⟨id, hid⟩ := exists_lookup? hmem
    rw [hnone] at hid
    cases hid
  · intro hnew
    refine Option.eq_none_iff_forall_ne_some.mpr fun id hid => hnew ?_
    exact mem_texts_of_get? (lookup?_eq_some_iff.mp hid)

/-- The identifier of a text is the first place of the text, as if the texts were searched for it. -/
theorem lookup?_eq_idxOf? (t : StyleTable) (text : String) :
    t.lookup? text = (t.texts.idxOf? text).map StyleId.mk := by
  cases hplace : t.texts.idxOf? text with
  | none => exact lookup?_eq_none_iff.mpr (List.idxOf?_eq_none_iff.mp hplace)
  | some i =>
    obtain ⟨hlt, hbeq, -⟩ := List.findIdx?_eq_some_iff_getElem.mp hplace
    refine lookup?_eq_some_iff.mpr ?_
    show t.texts[i]? = some text
    rw [List.getElem?_eq_getElem hlt, eq_of_beq hbeq]

/-! ## Tables that grow -/

theorem Extends.refl (t : StyleTable) : t.Extends t := List.prefix_refl _

theorem Extends.trans (hvu : v.Extends u) (hut : u.Extends t) : v.Extends t :=
  List.IsPrefix.trans hut hvu

theorem Extends.get? (h : u.Extends t) (hid : t.get? id = some text) :
    u.get? id = some text := by
  obtain ⟨more, hmore⟩ := h
  show u.texts[id.index]? = some text
  rw [← hmore, List.getElem?_append_left (List.getElem?_eq_some_iff.mp hid).1]
  exact hid

theorem Extends.lookup? (h : u.Extends t) (hid : t.lookup? text = some id) :
    u.lookup? text = some id :=
  lookup?_eq_some_iff.mpr (h.get? (lookup?_eq_some_iff.mp hid))

theorem intern_of_lookup? (h : t.lookup? text = some id) : t.intern text = (id, t) := by
  have hfound : t.toRaw.intern text = (id, t.toRaw) := by rw [Raw.intern, h]
  unfold intern
  simp only [hfound]

/-- A text that is new gets the next identifier. -/
theorem intern_of_notMem (h : text ∉ t.texts) :
    (t.intern text).1 = ⟨t.size⟩ ∧ (t.intern text).2.texts = t.texts ++ [text] := by
  have hadded : t.toRaw.intern text = (⟨t.size⟩, t.add text) := by
    rw [Raw.intern, lookup?_eq_none_iff.mpr h]
  exact ⟨congrArg Prod.fst hadded, congrArg (fun interned => interned.2.texts) hadded⟩

/-- Interning adds a text behind all others if it is new, and otherwise changes no text. -/
theorem texts_intern (t : StyleTable) (text : String) :
    (t.intern text).2.texts = if text ∈ t.texts then t.texts else t.texts ++ [text] := by
  split
  · next h =>
    obtain ⟨id, hid⟩ := exists_lookup? h
    rw [intern_of_lookup? hid]
  · next h => exact (intern_of_notMem h).2

theorem intern_extends (t : StyleTable) (text : String) : (t.intern text).2.Extends t := by
  rw [Extends, texts_intern]
  split
  · exact List.prefix_refl _
  · exact List.prefix_append _ _

/-- The identifier that was handed out reads back the text. -/
theorem get?_intern (t : StyleTable) (text : String) :
    (t.intern text).2.get? (t.intern text).1 = some text := by
  by_cases h : text ∈ t.texts
  · obtain ⟨id, hid⟩ := exists_lookup? h
    rw [intern_of_lookup? hid]
    exact lookup?_eq_some_iff.mp hid
  · obtain ⟨hnext, htexts⟩ := intern_of_notMem h
    rw [Raw.get?, htexts, hnext]
    exact List.getElem?_concat_length

/-- Interning finds the text from then on, under the identifier that it handed out. -/
theorem lookup?_intern (t : StyleTable) (text : String) :
    (t.intern text).2.lookup? text = some (t.intern text).1 :=
  lookup?_eq_some_iff.mpr (t.get?_intern text)

theorem mem_texts_intern {other : String} :
    other ∈ (t.intern text).2.texts ↔ other ∈ t.texts ∨ other = text := by
  rw [texts_intern]
  split
  · next h =>
    rw [or_iff_left_of_imp]
    rintro rfl
    exact h
  · rw [List.mem_append, List.mem_singleton]

/-! ## Many texts -/

@[simp] theorem internAll_nil (t : StyleTable) : t.internAll [] = t := rfl

@[simp] theorem internAll_cons (t : StyleTable) (text : String) (texts : List String) :
    t.internAll (text :: texts) = (t.intern text).2.internAll texts := rfl

@[simp] theorem internAll_append (t : StyleTable) (texts more : List String) :
    t.internAll (texts ++ more) = (t.internAll texts).internAll more := List.foldl_append

theorem internAll_extends (t : StyleTable) (texts : List String) :
    (t.internAll texts).Extends t := by
  induction texts generalizing t with
  | nil => exact .refl t
  | cons text texts ih => exact (ih (t.intern text).2).trans (t.intern_extends text)

theorem mem_texts_internAll {texts : List String} {other : String} :
    other ∈ (t.internAll texts).texts ↔ other ∈ t.texts ∨ other ∈ texts := by
  induction texts generalizing t with
  | nil => simp
  | cons text texts ih =>
    rw [internAll_cons, ih, mem_texts_intern, List.mem_cons, or_assoc]

/-- Two texts are given one identifier exactly when they are the same, whatever is interned between
them. -/
theorem intern_eq_iff (t : StyleTable) (text other : String) (between : List String) :
    (t.intern text).1 = (((t.intern text).2.internAll between).intern other).1 ↔ text = other := by
  have hbetween := (t.intern text).2.internAll_extends between
  constructor
  · intro h
    -- the table reads both texts back, from what is one identifier
    have hother := get?_intern ((t.intern text).2.internAll between) other
    have htext := (intern_extends _ other).get? (hbetween.get? (t.get?_intern text))
    rw [h] at htext
    exact Option.some.inj (htext.symm.trans hother)
  · rintro rfl
    rw [intern_of_lookup? (hbetween.lookup? (t.lookup?_intern text))]

end ShapeOutline.StyleTable
