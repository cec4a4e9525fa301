import Mathlib
import ShapeOutline.Proofs.Style.Table

/-!
# What a run of interning leaves

Two records that were empty at first hold the distinct texts of a run in the order in which they were
first seen, and are inverse to each other. Every call hands out the identifier that the first call
with its text handed out, and no later call changes what an identifier stands for.

* `Raw.Records`: the two records are those of a run;
* `Raw.records_iff`: that they agree and the order of the texts say all of it;
* `Raw.Records.intern`, `Raw.internAll_records`: one call keeps the records of a run, and so does a run;
* `toRaw_internAll`: the tables of documents hold these records;
* `intern_run`: what a call hands out, wherever it stands in a run.
-/

namespace ShapeOutline.StyleTable

/-! ## Distinct texts in the order of their first occurrences -/

/-- One more text is put behind the distinct ones if it is new. -/
theorem eraseDups_append_singleton (texts : List String) (text : String) :
    (texts ++ [text]).eraseDups =
      if text ∈ texts then texts.eraseDups else texts.eraseDups ++ [text] := by
  rw [List.eraseDups_append, List.removeAll]
  by_cases h : text ∈ texts
  · simp [h]
  · simp [h, List.eraseDups_cons]

theorem nodup_eraseDups (texts : List String) : texts.eraseDups.Nodup := by
  induction texts using List.reverseRecOn with
  | nil => exact List.nodup_nil
  | append_singleton texts text ih =>
    rw [eraseDups_append_singleton]
    split
    · exact ih
    · next h =>
      rw [← List.concat_eq_append]
      exact ih.concat (mt List.mem_eraseDups.mp h)

/-! ## One call after the other -/

namespace Raw

variable {t : Raw} {texts : List String}

/-- The records after some more texts. -/
def internAll (t : Raw) (texts : List String) : Raw :=
  texts.foldl (fun t text => (t.intern text).2) t

/-- The two records are those of a run of texts. -/
structure Records (t : Raw) (texts : List String) : Prop where
  /-- The distinct texts stand in the order of their first occurrences. -/
  inOrder : t.entries.map Prod.snd = texts.eraseDups
  /-- Identifiers count up from zero. -/
  numbered : t.entries.map (fun e => e.1.index) = List.range t.size
  distinct : (t.entries.map Prod.snd).Nodup
  /-- Looking up a text and reading an identifier are inverse to each other. -/
  inverse : ∀ text id, t.lookup? text = some id ↔ t.get? id = some text
  /-- Looking up a text gives its place among the texts. -/
  placed : ∀ text, t.lookup? text = (t.texts.idxOf? text).map StyleId.mk

theorem map_snd_entries (t : Raw) : t.entries.map Prod.snd = t.texts := by
  rw [entries, List.map_map]
  exact List.zipIdx_map_fst 0 t.texts

theorem map_index_entries (t : Raw) :
    t.entries.map (fun e => e.1.index) = List.range t.size := by
  rw [entries, List.map_map, List.range_eq_range']
  exact List.zipIdx_map_snd 0 t.texts

/-- That they agree and the order of the texts is all that is asked of the records of a run. -/
theorem records_iff : t.Records texts ↔ t.Coherent ∧ t.texts = texts.eraseDups := by
  constructor
  · intro h
    exact ⟨h.inverse, by rw [← t.map_snd_entries, h.inOrder]⟩
  · rintro ⟨ht, htexts⟩
    have hdistinct : t.texts.Nodup := by
      rw [htexts]
      exact nodup_eraseDups texts
    exact ⟨t.map_snd_entries.trans htexts, t.map_index_entries, by rwa [map_snd_entries], ht,
      lookup?_eq_idxOf? ⟨t, ht⟩⟩

theorem empty_records : empty.Records [] := records_iff.mpr ⟨coherent_empty, rfl⟩

/-- A call leaves the records of the run with one more text. -/
theorem Records.intern (h : t.Records texts) (text : String) :
    (t.intern text).2.Records (texts ++ [text]) := by
  obtain ⟨ht, htexts⟩ := records_iff.mp h
  refine records_iff.mpr ⟨ht.intern text, ?_⟩
  have hadded : (t.intern text).2.texts = if text ∈ t.texts then t.texts else t.texts ++ [text] :=
    texts_intern ⟨t, ht⟩ text
  rw [hadded, htexts, eraseDups_append_singleton]
  simp only [List.mem_eraseDups]

/-- A run that starts with nothing leaves its records. -/
theorem internAll_records (texts : List String) : (empty.internAll texts).Records texts := by
  induction texts using List.reverseRecOn with
  | nil => exact empty_records
  | append_singleton texts text ih =>
    rw [internAll, List.foldl_append]
    exact ih.intern text

end Raw

/-! ## Tables of documents -/

variable {t u : StyleTable} {text : String}

/-- Interning into a table is interning into its records. -/
theorem toRaw_internAll (t : StyleTable) (texts : List String) :
    (t.internAll texts).toRaw = t.toRaw.internAll texts := by
  induction texts generalizing t with
  | nil => rfl
  | cons text texts ih => exact ih (t.intern text).2

theorem texts_internAll_empty (texts : List String) :
    (empty.internAll texts).texts = texts.eraseDups := by
  rw [toRaw_internAll]
  exact (Raw.records_iff.mp (Raw.internAll_records texts)).2

theorem size_internAll_empty (texts : List String) :
    (empty.internAll texts).size = texts.eraseDups.length :=
  congrArg List.length (texts_internAll_empty texts)

/-- The table grows by one when the text is new, and not at all otherwise. -/
theorem size_intern (t : StyleTable) (text : String) :
    (t.intern text).2.size = t.size + if text ∈ t.texts then 0 else 1 := by
  rw [Raw.size, texts_intern]
  split
  · rfl
  · exact List.length_append

/-- A later call with the same text hands out the same identifier. -/
theorem Extends.intern_fst (h : u.Extends (t.intern text).2) :
    (u.intern text).1 = (t.intern text).1 := by
  rw [intern_of_lookup? (h.lookup? (t.lookup?_intern text))]

/-- What stands before the first occurrence of a text leads to the table at its first call. -/
theorem intern_fst_firstOccurrence (before : List String) (text : String) :
    ((empty.internAll before).intern text).1
      = ((empty.internAll (before.takeWhile (· != text))).intern text).1 := by
  have hsplit := List.takeWhile_append_dropWhile (p := (· != text)) (l := before)
  cases hrest : before.dropWhile (· != text) with
  | nil => rw [hrest, List.append_nil] at hsplit; rw [hsplit]
  | cons first rest =>
    -- what comes first behind them is the text itself
    have hfirst := List.head?_dropWhile_not (· != text) before
    rw [hrest] at hfirst hsplit
    obtain rfl : first = text := by simpa using hfirst
    conv_lhs => rw [← hsplit, internAll_append, internAll_cons]
    exact (internAll_extends _ rest).intern_fst

/-- A text that is new gets the number of the texts before it. -/
theorem index_intern_takeWhile (before : List String) (text : String) :
    ((empty.internAll (before.takeWhile (· != text))).intern text).1.index
      = (before.takeWhile (· != text)).eraseDups.length := by
  have hnew : text ∉ (empty.internAll (before.takeWhile (· != text))).texts := by
    rw [texts_internAll_empty, List.mem_eraseDups]
    intro hmem
    simpa using List.mem_takeWhile_imp hmem
  rw [(intern_of_notMem hnew).1]
  exact size_internAll_empty _

/-- Every run leaves its records, which the tables of documents hold. A call in a run hands out the
identifier that was handed out at the first occurrence of its text, which is the number of distinct
texts before that; the identifier reads back the text, at once and behind all calls that follow; and
the records grow by one when the text is new, else not at all. -/
theorem intern_run :
    (∀ texts, (Raw.empty.internAll texts).Records texts ∧
      (empty.internAll texts).toRaw = Raw.empty.internAll texts) ∧
    ∀ (before : List String) (text : String) (after : List String),
      let t := Raw.empty.internAll before
      let id := (t.intern text).1
      let first := before.takeWhile (· != text)
      id = ((Raw.empty.internAll first).intern text).1 ∧
      id.index = first.eraseDups.length ∧
      id.index < (t.intern text).2.size ∧
      (t.intern text).2.get? id = some text ∧
      (t.intern text).2.size = (t.size + if text ∈ before then 0 else 1) ∧
      (Raw.empty.internAll (before ++ text :: after)).get? id = some text := by
  have hrun (texts : List String) : Raw.empty.internAll texts = (empty.internAll texts).toRaw :=
    (toRaw_internAll empty texts).symm
  refine ⟨fun texts => ⟨Raw.internAll_records texts, toRaw_internAll empty texts⟩,
    fun before text after => ?_⟩
  dsimp only
  rw [hrun, hrun, hrun]
  have hfirst := intern_fst_firstOccurrence before text
  have hread := (empty.internAll before).get?_intern text
  have hsize := (empty.internAll before).size_intern text
  simp only [texts_internAll_empty, List.mem_eraseDups] at hsize
  have hlater : (empty.internAll (before ++ text :: after)).Extends
      ((empty.internAll before).intern text).2 := by
    rw [internAll_append, internAll_cons]
    exact internAll_extends _ after
  refine ⟨hfirst, ?_, (List.getElem?_eq_some_iff.mp hread).1, hread, hsize, hlater.get? hread⟩
  exact (congrArg StyleId.index hfirst).trans (index_intern_takeWhile before text)

end ShapeOutline.StyleTable
