import Mathlib
import ShapeOutline.Binary64
import ShapeOutline.Proofs.Style.Table
import ShapeOutline.Proofs.Style.Text

/-!
# Which definitions share an identifier

Definitions share an identifier when their texts are equal. Colours stand in these texts as they
are, so that the text of a colour can take over what should follow it: a gradient with one stop may
be written like one with two, and the foreground of a pattern may reach into its background.

* `Definition.Agrees`: two definitions are written alike, piece by piece;
* `Definition.Absorbs`: a colour of the second definition reaches over pieces of the first;
* `Definition.text_eq_iff`: texts are equal in these cases only;
* `Definition.Separated`: no colour holds the separator that would let it reach over;
* `Definition.same_id_iff`: what this means for identifiers.
-/

namespace ShapeOutline

variable {α : Type} [Scalar α]

/-! ## Pieces that are written alike -/

/-- Two numbers are written alike. -/
def Scalar.SameText (x y : α) : Prop := Scalar.text x = Scalar.text y

/-- Two points are written alike. -/
def Point.SameText (p q : Point α) : Prop := Scalar.SameText p.x q.x ∧ Scalar.SameText p.y q.y

theorem Scalar.sameText_iff {x y : α} : SameText x y ↔ chars x = chars y := String.ofList_inj

theorem Color.text_eq_iff {c d : Color} : c.text = d.text ↔ c.chars = d.chars := String.ofList_inj

/-- Two stops are written alike. -/
structure GradientStop.Agrees (s t : GradientStop α) : Prop where
  offset : Scalar.SameText s.offset t.offset
  color : s.color.text = t.color.text
  alpha : Scalar.SameText s.alpha t.alpha

theorem GradientStop.Agrees.symm {s t : GradientStop α} (h : s.Agrees t) : t.Agrees s :=
  ⟨h.offset.symm, h.color.symm, h.alpha.symm⟩

/-- Two gradients run alike: along vectors or in circles that are written alike. -/
def GradientGeometry.Agrees : GradientGeometry α → GradientGeometry α → Prop
  | linear _ start stop, linear _ start' stop' => start.SameText start' ∧ stop.SameText stop'
  | radial center radius, radial center' radius' =>
    center.SameText center' ∧ Scalar.SameText radius radius'
  | _, _ => False

/-- Two gradients run alike and have the same number of stops, which are written alike. -/
structure Gradient.Agrees (g g' : Gradient α) : Prop where
  geometry : g.geometry.Agrees g'.geometry
  stops : List.Forall₂ GradientStop.Agrees g.stops g'.stops

/-- Two tiles have one pattern, in colours that are written alike. -/
structure PatternTile.Agrees (t t' : PatternTile) : Prop where
  pattern : t.pattern = t'.pattern
  foreground : t.foreground.text = t'.foreground.text
  background : t.background.text = t'.background.text

/-- Two tiles show one picture, in extents that are written alike. -/
structure PictureTile.Agrees (t t' : PictureTile α) : Prop where
  name : t.name = t'.name
  width : Scalar.SameText t.extent.w t'.extent.w
  height : Scalar.SameText t.extent.h t'.extent.h

/-- Two shadows are written alike. -/
structure Shadow.Agrees (s s' : Shadow α) : Prop where
  offset : s.offset.SameText s'.offset
  blur : Scalar.SameText s.blur s'.blur
  color : s.color.text = s'.color.text
  alpha : Scalar.SameText s.alpha s'.alpha

/-- Two definitions are of one kind, and all that they are made of is written alike. -/
def Definition.Agrees : Definition α → Definition α → Prop
  | gradient g, gradient g' => g.Agrees g'
  | pattern t, pattern t' => t.Agrees t'
  | picture t, picture t' => t.Agrees t'
  | shadow s, shadow s' => s.Agrees s'
  | _, _ => False

/-! ## Numbers with commas -/

theorem numberChars_cons (x y : α) (rest : List α) :
    numberChars (x :: y :: rest) = Scalar.chars x ++ ',' :: numberChars (y :: rest) := by
  simp [numberChars, List.intercalate]

theorem numberChars_singleton (x : α) : numberChars [x] = Scalar.chars x := by
  simp [numberChars, List.intercalate]

theorem notMem_numberChars {c : Char} (hc : isNumeral c = false) (hcomma : c ≠ ',') (x : α)
    (xs : List α) : c ∉ numberChars (x :: xs) := by
  induction xs generalizing x with
  | nil =>
    rw [numberChars_singleton]
    exact Scalar.notMem_chars hc x
  | cons y ys ih =>
    rw [numberChars_cons, List.mem_append, List.mem_cons]
    rintro (h | h | h)
    · exact Scalar.notMem_chars hc x h
    · exact hcomma h
    · exact ih y h

/-- As many numbers are written alike when each of them is. -/
theorem numberChars_inj {x y : α} {xs ys : List α} (hlength : xs.length = ys.length) :
    numberChars (x :: xs) = numberChars (y :: ys) ↔
      (x :: xs).map Scalar.chars = (y :: ys).map Scalar.chars := by
  constructor
  · intro h
    induction xs generalizing x y ys with
    | nil =>
      obtain rfl := List.length_eq_zero_iff.mp hlength.symm
      rw [numberChars_singleton, numberChars_singleton] at h
      rw [List.map_cons, List.map_cons, h]
    | cons x' xs ih =>
      obtain ⟨y', ys, rfl⟩ := List.exists_cons_of_length_eq_add_one hlength.symm
      rw [numberChars_cons, numberChars_cons] at h
      obtain ⟨hhead, htail⟩ := cut_first (Scalar.notMem_chars (by decide) x)
        (Scalar.notMem_chars (by decide) y) h
      rw [List.map_cons, ih (Nat.succ.inj hlength) htail, hhead]
      rfl
  · intro h
    rw [numberChars, h, numberChars]

namespace GradientGeometry

theorem chars_linear (angle : α) (p q : Point α) :
    (linear angle p q).chars = "linear:".toList ++ numberChars [p.x, p.y, q.x, q.y] := rfl

theorem chars_radial (center : Point α) (radius : α) :
    (radial center radius).chars
      = "radial:".toList ++ numberChars [center.x, center.y, radius] := rfl

/-- How a gradient runs is read off its text. -/
theorem chars_eq_iff {g g' : GradientGeometry α} : g.chars = g'.chars ↔ g.Agrees g' := by
  cases g with
  | linear angle p q =>
    cases g' with
    | linear angle' p' q' =>
      have hlength : [p.y, q.x, q.y].length = [p'.y, q'.x, q'.y].length := rfl
      rw [chars_linear, chars_linear, List.append_cancel_left_eq, numberChars_inj hlength]
      simp only [List.map_cons, List.cons.injEq, List.map_nil, and_true, ← Scalar.sameText_iff]
      exact and_assoc.symm
    | radial center radius =>
      rw [chars_linear, chars_radial]
      simp [Agrees]
  | radial center radius =>
    cases g' with
    | linear angle p q =>
      rw [chars_linear, chars_radial]
      simp [Agrees]
    | radial center' radius' =>
      have hlength : [center.y, radius].length = [center'.y, radius'].length := rfl
      rw [chars_radial, chars_radial, List.append_cancel_left_eq, numberChars_inj hlength]
      simp only [List.map_cons, List.cons.injEq, List.map_nil, and_true, ← Scalar.sameText_iff]
      exact and_assoc.symm

theorem notMem_chars (g : GradientGeometry α) : ';' ∉ g.chars := by
  cases g with
  | linear angle p q =>
    rw [chars_linear, List.mem_append]
    rintro (h | h)
    · simp at h
    · exact notMem_numberChars (by decide) (by decide) _ _ h
  | radial center radius =>
    rw [chars_radial, List.mem_append]
    rintro (h | h)
    · simp at h
    · exact notMem_numberChars (by decide) (by decide) _ _ h

end GradientGeometry

/-! ## Stops -/

namespace GradientStop

/-- The text of some stops. -/
def listChars (stops : List (GradientStop α)) : List Char := stops.flatMap chars

/-- In the first stop that is not written alike, the colour of the second list takes over the alpha
of the first one and all that follows up to a blank. -/
inductive Absorbs : List (GradientStop α) → List (GradientStop α) → Prop where
  | here {s t : GradientStop α} {ss ts : List (GradientStop α)} (taken : List Char) :
    Scalar.SameText s.offset t.offset →
      t.color.chars = s.color.chars ++ ' ' :: Scalar.chars s.alpha ++ ";stop:".toList ++ taken →
      listChars ss = ";stop:".toList ++ taken ++ ' ' :: (Scalar.chars t.alpha ++ listChars ts) →
      Absorbs (s :: ss) (t :: ts)
  | there {s t : GradientStop α} {ss ts : List (GradientStop α)} :
    s.Agrees t → Absorbs ss ts → Absorbs (s :: ss) (t :: ts)

theorem chars_append (s : GradientStop α) (rest : List Char) :
    s.chars ++ rest = (";stop:".toList ++ Scalar.chars s.offset) ++
      ' ' :: (s.color.chars ++ ' ' :: (Scalar.chars s.alpha ++ rest)) := by
  have hchars : s.chars = ";stop:".toList ++ Scalar.chars s.offset ++ ' ' :: s.color.chars ++
      ' ' :: Scalar.chars s.alpha := rfl
  rw [hchars]
  simp only [List.append_assoc, List.cons_append]

theorem listChars_cons (s : GradientStop α) (ss : List (GradientStop α)) :
    listChars (s :: ss) = (";stop:".toList ++ Scalar.chars s.offset) ++
      ' ' :: (s.color.chars ++ ' ' :: (Scalar.chars s.alpha ++ listChars ss)) :=
  s.chars_append (listChars ss)

theorem listChars_cons_ne_nil (s : GradientStop α) (ss : List (GradientStop α)) :
    listChars (s :: ss) ≠ [] := by
  rw [listChars_cons]
  exact List.append_ne_nil_of_right_ne_nil _ (List.cons_ne_nil _ _)

theorem listChars_starts (ss : List (GradientStop α)) :
    listChars ss = [] ∨ ∃ zs, listChars ss = ';' :: zs := by
  cases ss with
  | nil => exact .inl rfl
  | cons s ss =>
    have hmark : ";stop:".toList = ';' :: "stop:".toList := by simp
    rw [listChars_cons, hmark]
    exact .inr ⟨_, rfl⟩

/-- A blank behind an alpha stands behind the beginning of the next stop. -/
theorem blank_behind_alpha {alpha : α} {ss : List (GradientStop α)} {zs rest : List Char}
    (h : Scalar.chars alpha ++ listChars ss = zs ++ ' ' :: rest) :
    ∃ taken, zs = Scalar.chars alpha ++ ";stop:".toList ++ taken ∧
      listChars ss = ";stop:".toList ++ taken ++ ' ' :: rest := by
  obtain ⟨ws, rfl, hws⟩ := cut_behind (Scalar.notMem_chars (by decide) alpha) h
  cases ss with
  | nil => exact absurd hws.symm (List.append_ne_nil_of_right_ne_nil _ (List.cons_ne_nil _ _))
  | cons s ss =>
    rw [listChars_cons, List.append_assoc] at hws
    obtain ⟨taken, rfl, htaken⟩ := cut_behind (by simp) hws
    refine ⟨taken, (List.append_assoc _ _ _).symm, ?_⟩
    rw [listChars_cons, List.append_assoc, htaken, List.append_assoc]

/-- A colour that goes on behind the blank after another one reaches over to the next stop. -/
theorem absorbs_of_color {s t : GradientStop α} {ss ts : List (GradientStop α)} {zs : List Char}
    (hoffset : Scalar.SameText s.offset t.offset)
    (hcolor : t.color.chars = s.color.chars ++ ' ' :: zs)
    (hrest : Scalar.chars s.alpha ++ listChars ss
      = zs ++ ' ' :: (Scalar.chars t.alpha ++ listChars ts)) : Absorbs (s :: ss) (t :: ts) := by
  obtain ⟨taken, rfl, htaken⟩ := blank_behind_alpha hrest
  refine .here taken hoffset ?_ htaken
  rw [hcolor]
  simp

/-- Stops that are written alike have one text. -/
theorem listChars_of_forall₂ {ss ts : List (GradientStop α)} (h : List.Forall₂ Agrees ss ts) :
    listChars ss = listChars ts := by
  induction h with
  | nil => rfl
  | cons hst _ ih =>
    rw [listChars_cons, listChars_cons, ih, Scalar.sameText_iff.mp hst.offset,
      Color.text_eq_iff.mp hst.color, Scalar.sameText_iff.mp hst.alpha]

/-- A colour that reaches over leaves the text as it is. -/
theorem Absorbs.listChars_eq {ss ts : List (GradientStop α)} (h : Absorbs ss ts) :
    listChars ss = listChars ts := by
  induction h with
  | @here s t ss ts taken hoffset hcolor hrest =>
    rw [listChars_cons, listChars_cons, hrest, hcolor, Scalar.sameText_iff.mp hoffset]
    simp
  | there hst _ ih =>
    rw [listChars_cons, listChars_cons, ih, Scalar.sameText_iff.mp hst.offset,
      Color.text_eq_iff.mp hst.color, Scalar.sameText_iff.mp hst.alpha]

/-- Stops have one text when they are written alike, or when a colour on one side reaches over. -/
theorem listChars_eq_iff {ss ts : List (GradientStop α)} :
    listChars ss = listChars ts ↔ List.Forall₂ Agrees ss ts ∨ Absorbs ss ts ∨ Absorbs ts ss := by
  constructor
  · intro h
    induction ss generalizing ts with
    | nil =>
      cases ts with
      | nil => exact .inl .nil
      | cons t ts => exact absurd h.symm (t.listChars_cons_ne_nil ts)
    | cons s ss ih =>
      cases ts with
      | nil => exact absurd h (s.listChars_cons_ne_nil ss)
      | cons t ts =>
        rw [listChars_cons, listChars_cons] at h
        obtain ⟨hhead, hbody⟩ := cut_first
          (Scalar.notMem_append_chars (by decide) (by simp) s.offset)
          (Scalar.notMem_append_chars (by decide) (by simp) t.offset) h
        have hoffset := Scalar.sameText_iff.mpr (List.append_cancel_left hhead)
        -- a blank may stand in either colour, so that the cut is in one of three places
        rcases cut_blank hbody with ⟨hcolor, hrest⟩ | ⟨zs, hcolor, hrest⟩ | ⟨zs, hcolor, hrest⟩
        · obtain ⟨halpha, htail⟩ := cut_before (Scalar.notMem_chars (by decide) _)
            (Scalar.notMem_chars (by decide) _) (listChars_starts ss) (listChars_starts ts) hrest
          have hagrees : s.Agrees t :=
            ⟨hoffset, Color.text_eq_iff.mpr hcolor, Scalar.sameText_iff.mpr halpha⟩
          rcases ih htail with h | h | h
          · exact .inl (.cons hagrees h)
          · exact .inr (.inl (.there hagrees h))
          · exact .inr (.inr (.there hagrees.symm h))
        · exact .inr (.inl (absorbs_of_color hoffset hcolor hrest))
        · exact .inr (.inr (absorbs_of_color hoffset.symm hcolor hrest))
  · rintro (h | h | h)
    · exact listChars_of_forall₂ h
    · exact h.listChars_eq
    · exact h.listChars_eq.symm

end GradientStop

/-! ## Gradients -/

/-- The colours of the second gradient take over pieces of the first. -/
structure Gradient.Absorbs (g g' : Gradient α) : Prop where
  geometry : g.geometry.Agrees g'.geometry
  stops : GradientStop.Absorbs g.stops g'.stops

theorem GradientGeometry.Agrees.symm {g g' : GradientGeometry α} (h : g.Agrees g') :
    g'.Agrees g :=
  chars_eq_iff.mp (chars_eq_iff.mpr h).symm

theorem Gradient.chars_eq_iff {g g' : Gradient α} :
    g.chars = g'.chars ↔ g.Agrees g' ∨ g.Absorbs g' ∨ g'.Absorbs g := by
  have hchars : ∀ g : Gradient α,
      g.chars = g.geometry.chars ++ GradientStop.listChars g.stops := fun _ => rfl
  rw [hchars, hchars]
  constructor
  · intro h
    obtain ⟨hgeometry, hstops⟩ := cut_before g.geometry.notMem_chars g'.geometry.notMem_chars
      (GradientStop.listChars_starts _) (GradientStop.listChars_starts _) h
    have hagrees := GradientGeometry.chars_eq_iff.mp hgeometry
    rcases GradientStop.listChars_eq_iff.mp hstops with h | h | h
    · exact .inl ⟨hagrees, h⟩
    · exact .inr (.inl ⟨hagrees, h⟩)
    · exact .inr (.inr ⟨hagrees.symm, h⟩)
  · rintro (h | h | h)
    · rw [GradientGeometry.chars_eq_iff.mpr h.geometry, GradientStop.listChars_of_forall₂ h.stops]
    · rw [GradientGeometry.chars_eq_iff.mpr h.geometry, h.stops.listChars_eq]
    · rw [GradientGeometry.chars_eq_iff.mpr h.geometry, h.stops.listChars_eq]

/-! ## Patterns -/

namespace Pattern

theorem ofTag?_tag (p : Pattern) : ofTag? p.tag = some p := by
  cases p <;> rfl

/-- Patterns have different names. -/
theorem tag_injective : Function.Injective tag := by
  intro p q h
  have hp := p.ofTag?_tag
  rw [h, q.ofTag?_tag] at hp
  exact (Option.some.inj hp).symm

theorem notMem_tag (p : Pattern) : ';' ∉ p.tag.toList := by
  cases p <;> simp [tag]

end Pattern

namespace PatternTile

/-- The foreground of the second tile takes over the beginning of the background of the first. -/
structure Absorbs (t t' : PatternTile) : Prop where
  pattern : t.pattern = t'.pattern
  taken : ∃ taken, t'.foreground.chars = t.foreground.chars ++ ";bg:".toList ++ taken ∧
    t.background.chars = taken ++ ";bg:".toList ++ t'.background.chars

/-- What is written behind the colours of a tile depends on its pattern. -/
def tailChars (α : Type) [Scalar α] (p : Pattern) : List Char :=
  ";size:".toList ++ Scalar.chars (side : α) ++ ";d:".toList ++
    (PatternTile.marks ⟨p, .black, .black⟩ : Path α).chars

theorem chars_eq (t : PatternTile) :
    t.chars α = ("pattern:".toList ++ t.pattern.tag.toList) ++ ';' :: ("fg:".toList ++
      (t.foreground.chars ++ ";bg:".toList ++ t.background.chars ++ tailChars α t.pattern)) := by
  have hchars : t.chars α = "pattern:".toList ++ t.pattern.tag.toList ++ ";fg:".toList ++
      t.foreground.chars ++ ";bg:".toList ++ t.background.chars ++ ";size:".toList ++
      Scalar.chars (side : α) ++ ";d:".toList ++ (t.marks : Path α).chars := rfl
  have htail : tailChars α t.pattern = ";size:".toList ++ Scalar.chars (side : α) ++
      ";d:".toList ++ (t.marks : Path α).chars := rfl
  have hmark : ";fg:".toList = ';' :: "fg:".toList := by simp
  rw [hchars, htail, hmark]
  simp only [List.append_assoc, List.cons_append]

theorem chars_eq_iff {t t' : PatternTile} :
    t.chars α = t'.chars α ↔ t.Agrees t' ∨ t.Absorbs t' ∨ t'.Absorbs t := by
  have hmark : ";bg:".toList = ';' :: "bg:".toList := by simp
  have hname : ∀ t : PatternTile, ';' ∉ "pattern:".toList ++ t.pattern.tag.toList := by
    intro t
    rw [List.mem_append]
    rintro (h | h)
    · simp at h
    · exact t.pattern.notMem_tag h
  constructor
  · intro h
    rw [chars_eq, chars_eq] at h
    -- equal patterns have equal marks, which leaves the two colours
    obtain ⟨htag, hcolors⟩ := cut_first (hname t) (hname t') h
    have hpattern : t.pattern = t'.pattern :=
      Pattern.tag_injective (String.toList_inj.mp (List.append_cancel_left htag))
    rw [hpattern, List.append_cancel_left_eq, List.append_cancel_right_eq, hmark] at hcolors
    rcases cut_anywhere "bg:".toList (by simp) hcolors with
      ⟨hfg, hbg⟩ | ⟨taken, hfg, hbg⟩ | ⟨taken, hfg, hbg⟩
    · exact .inl ⟨hpattern, Color.text_eq_iff.mpr hfg, Color.text_eq_iff.mpr hbg⟩
    · exact .inr (.inl ⟨hpattern, taken, by rw [hmark]; exact hfg, by rw [hmark]; exact hbg⟩)
    · exact .inr (.inr ⟨hpattern.symm, taken, by rw [hmark]; exact hfg, by rw [hmark]; exact hbg⟩)
  · rw [chars_eq, chars_eq]
    rintro (h | ⟨hpattern, taken, hfg, hbg⟩ | ⟨hpattern, taken, hfg, hbg⟩)
    · rw [h.pattern, Color.text_eq_iff.mp h.foreground, Color.text_eq_iff.mp h.background]
    · rw [hpattern, hfg, hbg]
      simp only [List.append_assoc]
    · rw [hpattern, hfg, hbg]
      simp only [List.append_assoc]

end PatternTile

/-! ## Pictures and shadows -/

namespace PictureTile

theorem chars_eq (t : PictureTile α) :
    t.chars = ("picture:".toList ++ t.name.toList) ++ ';' :: (("tile:".toList ++
      Scalar.chars t.extent.w) ++ ',' :: Scalar.chars t.extent.h) := by
  have hchars : t.chars = "picture:".toList ++ t.name.toList ++ ";tile:".toList ++
      Scalar.chars t.extent.w ++ ',' :: Scalar.chars t.extent.h := rfl
  have hmark : ";tile:".toList = ';' :: "tile:".toList := by simp
  rw [hchars, hmark]
  simp only [List.append_assoc, List.cons_append]

/-- Nothing stands behind the name of a picture but numbers, so that no name reaches over. -/
theorem chars_eq_iff {t t' : PictureTile α} : t.chars = t'.chars ↔ t.Agrees t' := by
  have hextent : ∀ t : PictureTile α, ';' ∉ ("tile:".toList ++ Scalar.chars t.extent.w) ++
      ',' :: Scalar.chars t.extent.h := by
    intro t
    rw [List.mem_append, List.mem_cons]
    rintro (h | h | h)
    · exact Scalar.notMem_append_chars (by decide) (by simp) _ h
    · exact absurd h (by decide)
    · exact Scalar.notMem_chars (by decide) _ h
  rw [chars_eq, chars_eq]
  constructor
  · intro h
    -- the name may hold anything, and ends at the last separator
    obtain ⟨hname, hnumbers⟩ := cut_last (hextent t) (hextent t') h
    obtain ⟨hw, hh⟩ := cut_first (Scalar.notMem_append_chars (by decide) (by simp) _)
      (Scalar.notMem_append_chars (by decide) (by simp) _) hnumbers
    exact ⟨String.toList_inj.mp (List.append_cancel_left hname),
      Scalar.sameText_iff.mpr (List.append_cancel_left hw), Scalar.sameText_iff.mpr hh⟩
  · intro h
    rw [h.name, Scalar.sameText_iff.mp h.width, Scalar.sameText_iff.mp h.height]

end PictureTile

namespace Shadow

theorem chars_eq (s : Shadow α) :
    s.chars = ("shadow:".toList ++ Scalar.chars s.offset.x) ++ ',' :: (Scalar.chars s.offset.y ++
      ';' :: (("blur:".toList ++ Scalar.chars s.blur) ++ ';' :: (("color:".toList ++
        s.color.chars) ++ ';' :: ("alpha:".toList ++ Scalar.chars s.alpha)))) := by
  have hchars : s.chars = "shadow:".toList ++ Scalar.chars s.offset.x ++
      ',' :: Scalar.chars s.offset.y ++ ";blur:".toList ++ Scalar.chars s.blur ++
      ";color:".toList ++ s.color.chars ++ ";alpha:".toList ++ Scalar.chars s.alpha := rfl
  have hblur : ";blur:".toList = ';' :: "blur:".toList := by simp
  have hcolor : ";color:".toList = ';' :: "color:".toList := by simp
  have halpha : ";alpha:".toList = ';' :: "alpha:".toList := by simp
  rw [hchars, hblur, hcolor, halpha]
  simp only [List.append_assoc, List.cons_append]

/-- The colour of a shadow stands between numbers, which are cut off on both sides. -/
theorem chars_eq_iff {s s' : Shadow α} : s.chars = s'.chars ↔ s.Agrees s' := by
  rw [chars_eq, chars_eq]
  constructor
  · intro h
    obtain ⟨hx, h⟩ := cut_first (Scalar.notMem_append_chars (by decide) (by simp) _)
      (Scalar.notMem_append_chars (by decide) (by simp) _) h
    obtain ⟨hy, h⟩ := cut_first (Scalar.notMem_chars (by decide) _)
      (Scalar.notMem_chars (by decide) _) h
    obtain ⟨hblur, h⟩ := cut_first (Scalar.notMem_append_chars (by decide) (by simp) _)
      (Scalar.notMem_append_chars (by decide) (by simp) _) h
    -- the colour may hold anything, and ends at the last separator
    obtain ⟨hcolor, halpha⟩ := cut_last (Scalar.notMem_append_chars (by decide) (by simp) _)
      (Scalar.notMem_append_chars (by decide) (by simp) _) h
    exact ⟨⟨Scalar.sameText_iff.mpr (List.append_cancel_left hx), Scalar.sameText_iff.mpr hy⟩,
      Scalar.sameText_iff.mpr (List.append_cancel_left hblur),
      Color.text_eq_iff.mpr (List.append_cancel_left hcolor),
      Scalar.sameText_iff.mpr (List.append_cancel_left halpha)⟩
  · intro h
    rw [Scalar.sameText_iff.mp h.offset.1, Scalar.sameText_iff.mp h.offset.2,
      Scalar.sameText_iff.mp h.blur, Color.text_eq_iff.mp h.color, Scalar.sameText_iff.mp h.alpha]

end Shadow

/-! ## Definitions -/

namespace Definition

/-- A colour of the second definition takes over pieces of the first. -/
def Absorbs : Definition α → Definition α → Prop
  | gradient g, gradient g' => g.Absorbs g'
  | pattern t, pattern t' => t.Absorbs t'
  | _, _ => False

/-- The number of the kind of a definition. -/
def kind : Definition α → ℕ
  | gradient _ => 0
  | pattern _ => 1
  | picture _ => 2
  | shadow _ => 3

/-- The first characters of a text tell the kind of what it defines. -/
def kindOfChars : List Char → ℕ
  | 'p' :: 'a' :: _ => 1
  | 'p' :: 'i' :: _ => 2
  | 's' :: _ => 3
  | _ => 0

theorem kindOfChars_chars (d : Definition α) : kindOfChars d.chars = d.kind := by
  cases d with
  | gradient g =>
    show kindOfChars (g.geometry.chars ++ GradientStop.listChars g.stops) = 0
    cases g.geometry with
    | linear angle p q =>
      have hmark : "linear:".toList = 'l' :: "inear:".toList := by simp
      rw [GradientGeometry.chars_linear, hmark]
      rfl
    | radial center radius =>
      have hmark : "radial:".toList = 'r' :: "adial:".toList := by simp
      rw [GradientGeometry.chars_radial, hmark]
      rfl
  | pattern t =>
    have hmark : "pattern:".toList = 'p' :: 'a' :: "ttern:".toList := by simp
    show kindOfChars (t.chars α) = 1
    rw [PatternTile.chars_eq, hmark]
    rfl
  | picture t =>
    have hmark : "picture:".toList = 'p' :: 'i' :: "cture:".toList := by simp
    show kindOfChars t.chars = 2
    rw [PictureTile.chars_eq, hmark]
    rfl
  | shadow s =>
    have hmark : "shadow:".toList = 's' :: "hadow:".toList := by simp
    show kindOfChars s.chars = 3
    rw [Shadow.chars_eq, hmark]
    rfl

/-- Definitions of different kinds are never written alike. -/
theorem kind_eq_of_chars_eq {d e : Definition α} (h : d.chars = e.chars) : d.kind = e.kind := by
  rw [← kindOfChars_chars, h, kindOfChars_chars]

theorem chars_eq_iff {d e : Definition α} :
    d.chars = e.chars ↔ d.Agrees e ∨ d.Absorbs e ∨ e.Absorbs d := by
  cases d <;> cases e
  case gradient.gradient g g' => exact Gradient.chars_eq_iff
  case pattern.pattern t t' => exact PatternTile.chars_eq_iff
  case picture.picture t t' =>
    show t.chars = t'.chars ↔ t.Agrees t' ∨ False ∨ False
    rw [or_false, or_false]
    exact PictureTile.chars_eq_iff
  case shadow.shadow s s' =>
    show s.chars = s'.chars ↔ s.Agrees s' ∨ False ∨ False
    rw [or_false, or_false]
    exact Shadow.chars_eq_iff
  -- kinds that differ
  all_goals
    refine iff_of_false (fun h => ?_) (by simp [Agrees, Absorbs])
    cases kind_eq_of_chars_eq h

/-- Two definitions have one text when all that they are made of is written alike, or when a colour
of one takes over pieces of the other. -/
theorem text_eq_iff {d e : Definition α} :
    d.text = e.text ↔ d.Agrees e ∨ d.Absorbs e ∨ e.Absorbs d :=
  String.ofList_inj.trans chars_eq_iff

/-! ## Colours that stay in their place -/

/-- No colour holds the separator that stands behind it. -/
def Separated : Definition α → Prop
  | gradient g => ∀ s ∈ g.stops, ¬";stop:".toList <:+: s.color.chars
  | pattern t => ¬";bg:".toList <:+: t.foreground.chars
  | _ => True

end Definition

/-- A colour that takes over the beginning of a stop holds the mark of stops. -/
theorem GradientStop.Absorbs.exists_mark {ss ts : List (GradientStop α)} (h : Absorbs ss ts) :
    ∃ t ∈ ts, ";stop:".toList <:+: t.color.chars := by
  induction h with
  | @here s t ss ts taken _ hcolor _ =>
    exact ⟨t, List.mem_cons_self, ⟨_, taken, hcolor.symm⟩⟩
  | there _ _ ih =>
    obtain ⟨t, ht, hmark⟩ := ih
    exact ⟨t, List.mem_cons_of_mem _ ht, hmark⟩

/-- Where a colour reaches over, the stops are not written alike. -/
theorem GradientStop.Absorbs.not_forall₂ {ss ts : List (GradientStop α)} (h : Absorbs ss ts) :
    ¬List.Forall₂ Agrees ss ts := by
  induction h with
  | @here s t ss ts taken _ hcolor _ =>
    intro hagrees
    obtain ⟨hst, -⟩ := List.forall₂_cons.mp hagrees
    -- a text is no proper part of itself
    rw [← Color.text_eq_iff.mp hst.color, List.append_assoc, List.append_assoc] at hcolor
    exact absurd (List.self_eq_append_right.mp hcolor) (by simp)
  | there _ _ ih =>
    intro hagrees
    exact ih (List.forall₂_cons.mp hagrees).2

namespace Definition

theorem Absorbs.not_separated {d e : Definition α} (h : d.Absorbs e) : ¬e.Separated := by
  cases d <;> cases e
  case gradient.gradient g g' =>
    obtain ⟨t, ht, hmark⟩ := h.stops.exists_mark
    exact fun hseparated => hseparated t ht hmark
  case pattern.pattern t t' =>
    obtain ⟨taken, hforeground, -⟩ := h.taken
    exact fun hseparated => hseparated ⟨_, taken, hforeground.symm⟩
  all_goals exact h.elim

theorem Absorbs.not_agrees {d e : Definition α} (h : d.Absorbs e) : ¬d.Agrees e := by
  cases d <;> cases e
  case gradient.gradient g g' => exact fun hagrees => h.stops.not_forall₂ hagrees.stops
  case pattern.pattern t t' =>
    intro hagrees
    obtain ⟨taken, hforeground, -⟩ := h.taken
    rw [← Color.text_eq_iff.mp hagrees.foreground, List.append_assoc] at hforeground
    exact absurd (List.self_eq_append_right.mp hforeground) (by simp)
  all_goals exact h.elim

theorem Agrees.symm {d e : Definition α} (h : d.Agrees e) : e.Agrees d := by
  cases d <;> cases e
  case gradient.gradient g g' =>
    exact ⟨h.geometry.symm, (h.stops.imp fun _ _ hst => hst.symm).flip⟩
  case pattern.pattern t t' =>
    exact ⟨h.pattern.symm, h.foreground.symm, h.background.symm⟩
  case picture.picture t t' => exact ⟨h.name.symm, h.width.symm, h.height.symm⟩
  case shadow.shadow s s' =>
    exact ⟨⟨h.offset.1.symm, h.offset.2.symm⟩, h.blur.symm, h.color.symm, h.alpha.symm⟩
  all_goals exact h.elim

/-- Two definitions that are interned into one table, with anything in between, are given one
identifier exactly when all that they are made of is written alike or a colour of one takes over
pieces of the other. The second is never the case together with the first, and is excluded where the
colours do not hold the separator that stands behind them. -/
theorem same_id_iff (d e : Definition α) (styles : StyleTable) (between : List String) :
    ((d.intern styles).1 = (e.intern ((d.intern styles).2.internAll between)).1 ↔
        d.Agrees e ∨ d.Absorbs e ∨ e.Absorbs d) ∧
      ¬(d.Agrees e ∧ (d.Absorbs e ∨ e.Absorbs d)) ∧
      (d.Separated → e.Separated → ¬d.Absorbs e ∧ ¬e.Absorbs d) := by
  refine ⟨(styles.intern_eq_iff d.text e.text between).trans text_eq_iff, ?_, ?_⟩
  · rintro ⟨hagrees, habsorbs | habsorbs⟩
    · exact habsorbs.not_agrees hagrees
    · exact habsorbs.not_agrees hagrees.symm
  · intro hd he
    exact ⟨fun habsorbs => habsorbs.not_separated he, fun habsorbs => habsorbs.not_separated hd⟩

/-- Two patterns in different colours that are given one identifier. -/
theorem pattern_colors_merge :
    let d : Definition Float := .pattern ⟨.pct50, .raw "a;bg:b", .raw "c"⟩
    let e : Definition Float := .pattern ⟨.pct50, .raw "a", .raw "b;bg:c"⟩
    (d.intern .empty).1 = (e.intern (d.intern .empty).2).1 ∧ ¬d.Agrees e := by
  intro d e
  have habsorbs : e.Absorbs d := ⟨rfl, ['b'], by decide, by decide⟩
  constructor
  · -- both are written a;bg:b;bg:c between the pattern and its marks
    have htext : d.text = e.text := text_eq_iff.mpr (.inr (.inr habsorbs))
    exact (StyleTable.empty.intern_eq_iff d.text e.text []).mpr htext
  · intro hagrees
    exact habsorbs.not_agrees hagrees.symm

end Definition

end ShapeOutline
