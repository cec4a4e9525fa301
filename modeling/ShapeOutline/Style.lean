import Std.Data.HashMap.Lemmas

/-!
# Style tables

Gradients, pattern tiles, pictures and shadows are written once per document and referred to by an
identifier. A style table holds the texts of these definitions: equal texts share an identifier,
and identifiers are handed out in the order in which texts are first seen.

A table keeps two records, one from texts to identifiers and one from identifiers to texts. They are
written to separately; that they agree is kept by every operation, and comes with the table.

* `StyleTable.Raw`: the two records;
* `Raw.intern`: the identifier of a text, which is added if it is new;
* `Raw.lookup?`, `Raw.get?`: from a text to its identifier, by the first record, and back, by the second;
* `Raw.Coherent`, `Raw.Coherent.intern`: the records are inverse to each other, and stay so;
* `StyleTable`: two records that agree.
-/

namespace ShapeOutline

/-- The identifier of a definition within one table: its place among the definitions, counted from
zero. A table holds fewer than `2 ^ 32` texts, so that its identifiers have 32 bits. -/
structure StyleId where
  index : Nat
deriving DecidableEq, Repr

/-- How an identifier is written. -/
def StyleId.text (id : StyleId) : String := "st" ++ toString id.index

namespace StyleTable

/-- The two records of the definitions of a document. -/
structure Raw where
  /-- The identifier of each text. -/
  idOf : Std.HashMap String StyleId
  /-- The texts in the order of their identifiers. -/
  texts : List String

namespace Raw

/-- The records of a document in which nothing is defined yet. -/
def empty : Raw := ⟨∅, []⟩

/-- The number of definitions. -/
def size (t : Raw) : Nat := t.texts.length

/-- Whether nothing is defined. -/
def isEmpty (t : Raw) : Bool := t.texts.isEmpty

/-- The text of an identifier. -/
def get? (t : Raw) (id : StyleId) : Option String := t.texts[id.index]?

/-- The identifier of a text that is recorded. -/
def lookup? (t : Raw) (text : String) : Option StyleId := t.idOf[text]?

/-- Both records with one more text, under the next identifier. -/
def add (t : Raw) (text : String) : Raw := ⟨t.idOf.insert text ⟨t.size⟩, t.texts ++ [text]⟩

/-- The identifier of a text, and the records that hold the text. -/
def intern (t : Raw) (text : String) : StyleId × Raw :=
  match t.lookup? text with
  | some id => (id, t)
  | none => (⟨t.size⟩, t.add text)

/-- The identifiers with their texts. -/
def entries (t : Raw) : List (StyleId × String) :=
  t.texts.zipIdx.map fun e => (⟨e.2⟩, e.1)

/-! ## Records that agree -/

/-- Looking up a text and reading an identifier are inverse to each other. -/
def Coherent (t : Raw) : Prop := ∀ text id, t.lookup? text = some id ↔ t.get? id = some text

variable {t : Raw} {text other : String} {id : StyleId}

theorem coherent_empty : empty.Coherent := by
  intro text id
  have hlookup : empty.lookup? text = none := Std.HashMap.getElem?_empty
  rw [hlookup]
  exact iff_of_false (fun h => nomatch h) (fun h => nomatch h)

/-- An added text is found under the next identifier. -/
theorem lookup?_add (t : Raw) (text other : String) :
    (t.add text).lookup? other = if text = other then some ⟨t.size⟩ else t.lookup? other := by
  unfold lookup? add
  rw [Std.HashMap.getElem?_insert]
  simp only [beq_iff_eq]

/-- An added text stands behind all others. -/
theorem get?_add_eq_some_iff :
    (t.add text).get? id = some other ↔ t.get? id = some other ∨ id = ⟨t.size⟩ ∧ text = other := by
  obtain ⟨i⟩ := id
  show (t.texts ++ [text])[i]? = some other ↔
    t.texts[i]? = some other ∨ StyleId.mk i = ⟨t.texts.length⟩ ∧ text = other
  rw [StyleId.mk.injEq]
  by_cases hlt : i < t.texts.length
  · rw [List.getElem?_append_left hlt]
    exact (or_iff_left fun h => Nat.ne_of_lt hlt h.1).symm
  · rw [List.getElem?_append_right (Nat.le_of_not_lt hlt), List.getElem?_singleton,
      List.getElem?_eq_none (Nat.le_of_not_lt hlt)]
    by_cases hnext : i = t.texts.length
    · simp [hnext]
    · have hbehind : i - t.texts.length ≠ 0 := by omega
      simp [hnext, hbehind]

/-- A text that is new may be added to both records. -/
theorem Coherent.add (ht : t.Coherent) (hnew : t.lookup? text = none) : (t.add text).Coherent := by
  intro other id
  rw [lookup?_add, get?_add_eq_some_iff]
  split
  · next hsame =>
    subst hsame
    -- the text has no place but the new one
    have hold : ¬t.get? id = some text := by
      rw [← ht text id, hnew]
      exact fun h => nomatch h
    rw [or_iff_right hold, and_iff_left rfl, Option.some.injEq]
    exact eq_comm
  · next hother =>
    rw [or_iff_left fun h => hother h.2]
    exact ht other id

/-- The records still agree after a text was interned. -/
theorem Coherent.intern (ht : t.Coherent) (text : String) : (t.intern text).2.Coherent := by
  unfold Raw.intern
  split
  · exact ht
  · next hnew => exact ht.add hnew

end Raw

end StyleTable

/-- The definitions of a document: two records that agree. -/
structure StyleTable extends StyleTable.Raw where
  coherent : toRaw.Coherent

namespace StyleTable

/-- The table of a document in which nothing is defined yet. -/
def empty : StyleTable := ⟨Raw.empty, Raw.coherent_empty⟩

/-- The identifier of a text, and the table that holds the text. -/
def intern (t : StyleTable) (text : String) : StyleId × StyleTable :=
  let interned := t.toRaw.intern text
  (interned.1, ⟨interned.2, t.coherent.intern text⟩)

end StyleTable

end ShapeOutline
