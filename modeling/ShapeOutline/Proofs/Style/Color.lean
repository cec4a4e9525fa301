import Mathlib
import ShapeOutline.Color

/-!
# The text of a colour

A colour with channels is written as a hash and six hexadecimal digits, and such a text, the hash or not
and the digits in either case, is read as the colour with these channels. Any other text is a name that is
kept as it stands. What was read once is read again from its own text.

* `Color.hexDigits`, `Color.IsHexText`: the texts that are read as channels;
* `Color.hexValue?_hexChar`, `Color.of_hexValue?`: digits and their values;
* `Color.ofText_of_digits`: what six digits are read as;
* `Color.ofText_text`: reading, writing and reading again.
-/

namespace ShapeOutline.Color

/-- The hexadecimal digits in either case. -/
def hexDigits : List Char :=
  ['0', '1', '2', '3', '4', '5', '6', '7', '8', '9', 'a', 'b', 'c', 'd', 'e', 'f', 'A', 'B', 'C', 'D',
    'E', 'F']

/-- A text of six hexadecimal digits, with or without one hash before them. -/
def IsHexText (s : String) : Prop :=
  ∃ digits, (s.toList = digits ∨ s.toList = '#' :: digits) ∧ digits.length = 6 ∧
    ∀ c ∈ digits, c ∈ hexDigits

/-! ## Digits -/

theorem hexValue?_hexChar : ∀ {v : ℕ}, v < 16 → hexValue? (hexChar v) = some v := by
  decide

theorem exists_hexValue? : ∀ c ∈ hexDigits, ∃ v, hexValue? c = some v := by
  have hdigits : hexDigits.all (fun c => (hexValue? c).isSome) = true := by decide
  exact fun c hc => Option.isSome_iff_exists.mp (List.all_eq_true.mp hdigits c hc)

/-- No character behind the small `f` has a value. -/
theorem toNat_lt_of_hexValue? {c : Char} {v : ℕ} (h : hexValue? c = some v) : c.toNat < 128 := by
  have hle {d : Char} (hd : d.toNat < 128) (hc : c ≤ d) : c.toNat < 128 :=
    Nat.lt_of_le_of_lt (UInt32.le_iff_toNat_le.mp (Char.le_def.mp hc)) hd
  unfold hexValue? at h
  split_ifs at h with hdigit hsmall hlarge
  · exact hle (d := '9') (by decide) hdigit.2
  · exact hle (d := 'f') (by decide) hsmall.2
  · exact hle (d := 'F') (by decide) hlarge.2

/-- A character with a value is a digit, and the digit of that value is the same in lower case. -/
theorem of_hexValue? {c : Char} {v : ℕ} (h : hexValue? c = some v) :
    c ∈ hexDigits ∧ v < 16 ∧ hexChar v = c.toLower := by
  -- characters with a value are in the first half of a byte, where each can be tried
  have hascii : ∀ n < 128, ∀ v ∈ hexValue? (Char.ofNat n),
      Char.ofNat n ∈ hexDigits ∧ v < 16 ∧ hexChar v = (Char.ofNat n).toLower := by
    decide +kernel
  have hc := hascii c.toNat (toNat_lt_of_hexValue? h) v
  rw [Char.ofNat_toNat] at hc
  exact hc h

/-- The values of some digits. -/
abbrev HaveValues (cs : List Char) (vs : List ℕ) : Prop :=
  List.Forall₂ (fun c v => hexValue? c = some v) cs vs

theorem mapM_hexValue?_eq_some_iff {cs : List Char} {vs : List ℕ} :
    cs.mapM hexValue? = some vs ↔ HaveValues cs vs := by
  induction cs generalizing vs with
  | nil =>
    rw [HaveValues, List.forall₂_nil_left_iff]
    exact ⟨fun h => (Option.some.inj h).symm, fun h => h ▸ rfl⟩
  | cons c cs ih =>
    rw [List.mapM_cons, HaveValues, List.forall₂_cons_left_iff]
    constructor
    · intro h
      obtain ⟨v, hv, htail⟩ := Option.bind_eq_some_iff.mp h
      obtain ⟨tail, hcs, hvs⟩ := Option.bind_eq_some_iff.mp htail
      exact ⟨v, tail, hv, ih.mp hcs, (Option.some.inj hvs).symm⟩
    · rintro ⟨v, tail, hv, hcs, rfl⟩
      rw [hv, ih.mpr hcs]
      rfl

theorem exists_haveValues {cs : List Char} (h : ∀ c ∈ cs, c ∈ hexDigits) :
    ∃ vs, HaveValues cs vs := by
  induction cs with
  | nil => exact ⟨[], .nil⟩
  | cons c cs ih =>
    obtain ⟨hc, hcs⟩ := List.forall_mem_cons.mp h
    obtain ⟨v, hv⟩ := exists_hexValue? c hc
    obtain ⟨vs, hvs⟩ := ih hcs
    exact ⟨v :: vs, .cons hv hvs⟩

namespace HaveValues

variable {cs : List Char} {vs : List ℕ}

theorem isDigit (h : HaveValues cs vs) : ∀ c ∈ cs, c ∈ hexDigits := by
  induction h with
  | nil => exact List.forall_mem_nil _
  | cons hv _ ih => exact List.forall_mem_cons.mpr ⟨(of_hexValue? hv).1, ih⟩

theorem lt (h : HaveValues cs vs) : ∀ v ∈ vs, v < 16 := by
  induction h with
  | nil => exact List.forall_mem_nil _
  | cons hv _ ih => exact List.forall_mem_cons.mpr ⟨(of_hexValue? hv).2.1, ih⟩

theorem map_hexChar (h : HaveValues cs vs) : vs.map hexChar = cs.map Char.toLower := by
  induction h with
  | nil => rfl
  | cons hv _ ih => rw [List.map_cons, List.map_cons, (of_hexValue? hv).2.2, ih]

end HaveValues

/-! ## Channels -/

theorem channel_digits (v : UInt8) : channel (v.toNat / 16) (v.toNat % 16) = v := by
  rw [channel, Nat.div_add_mod, UInt8.ofNat_toNat]

theorem channelChars_channel {high low : ℕ} (hhigh : high < 16) (hlow : low < 16) :
    channelChars (channel high low) = [hexChar high, hexChar low] := by
  have hvalue : (channel high low).toNat = 16 * high + low := by
    rw [channel, UInt8.toNat_ofNat']
    omega
  have hdiv : (16 * high + low) / 16 = high := by omega
  have hmod : (16 * high + low) % 16 = low := by omega
  rw [channelChars, hvalue, hdiv, hmod]

/-- Six digits are a colour, which is written with the digits of the same values. -/
theorem exists_ofDigits? {vs : List ℕ} (hlength : vs.length = 6) (hvs : ∀ v ∈ vs, v < 16) :
    ∃ r g b, ofDigits? vs = some (rgb r g b) ∧ (rgb r g b).chars = '#' :: vs.map hexChar := by
  have htake : (vs.take 3).length = 3 := by
    rw [List.length_take, hlength]
    rfl
  have hdrop : (vs.drop 3).length = 3 := by
    rw [List.length_drop, hlength]
  -- the list lemmas know how to open three digits, not six
  obtain ⟨r1, r0, g1, hfront⟩ := List.length_eq_three.mp htake
  obtain ⟨g0, b1, b0, hback⟩ := List.length_eq_three.mp hdrop
  obtain rfl : [r1, r0, g1, g0, b1, b0] = vs := by
    rw [← List.take_append_drop 3 vs, hfront, hback]
    rfl
  simp only [List.forall_mem_cons] at hvs
  obtain ⟨hr1, hr0, hg1, hg0, hb1, hb0, -⟩ := hvs
  refine ⟨channel r1 r0, channel g1 g0, channel b1 b0, rfl, ?_⟩
  show '#' :: channelChars (channel r1 r0) ++ channelChars (channel g1 g0)
    ++ channelChars (channel b1 b0) = _
  rw [channelChars_channel hr1 hr0, channelChars_channel hg1 hg0, channelChars_channel hb1 hb0]
  rfl

theorem length_of_ofDigits? {vs : List ℕ} {c : Color} (h : ofDigits? vs = some c) :
    vs.length = 6 := by
  unfold ofDigits? at h
  split at h
  · rfl
  · cases h

/-! ## Reading -/

theorem eq_withoutHash_or (cs : List Char) :
    cs = withoutHash cs ∨ cs = '#' :: withoutHash cs := by
  unfold withoutHash
  split
  · exact .inr rfl
  · exact .inl rfl

/-- At most one hash is taken off, and it is no digit. -/
theorem withoutHash_digits {cs digits : List Char} (hcs : cs = digits ∨ cs = '#' :: digits)
    (hdigits : ∀ c ∈ digits, c ∈ hexDigits) : withoutHash cs = digits := by
  rcases hcs with rfl | rfl
  · unfold withoutHash
    split
    · exact absurd (hdigits '#' List.mem_cons_self) (by decide)
    · rfl
  · rfl

/-- Six digits are read as channels, which are written with the same digits in lower case. -/
theorem ofText_of_digits {s : String} {digits : List Char}
    (hs : s.toList = digits ∨ s.toList = '#' :: digits) (hlength : digits.length = 6)
    (hdigits : ∀ c ∈ digits, c ∈ hexDigits) :
    ∃ r g b, ofText s = rgb r g b ∧ (rgb r g b).chars = '#' :: digits.map Char.toLower := by
  obtain ⟨vs, hvs⟩ := exists_haveValues hdigits
  obtain ⟨r, g, b, hcolor, hchars⟩ := exists_ofDigits? (hvs.length_eq.symm.trans hlength) hvs.lt
  refine ⟨r, g, b, ?_, hvs.map_hexChar ▸ hchars⟩
  rw [ofText, withoutHash_digits hs hdigits, mapM_hexValue?_eq_some_iff.mpr hvs, Option.bind_some,
    hcolor]
  rfl

/-- Any other text is kept. -/
theorem ofText_of_not_isHexText {s : String} (h : ¬IsHexText s) : ofText s = raw s := by
  rw [ofText]
  cases hcolor : ((withoutHash s.toList).mapM hexValue?).bind ofDigits? with
  | none => rfl
  | some c =>
    obtain ⟨vs, hvs, hc⟩ := Option.bind_eq_some_iff.mp hcolor
    have hvalues := mapM_hexValue?_eq_some_iff.mp hvs
    exact absurd ⟨withoutHash s.toList, eq_withoutHash_or _,
      hvalues.length_eq.trans (length_of_ofDigits? hc), hvalues.isDigit⟩ h

/-- The text of a colour with channels is read as that colour. -/
theorem ofText_text_rgb (r g b : UInt8) : ofText (rgb r g b).text = rgb r g b := by
  have hvalue (v : UInt8) : hexValue? (hexChar (v.toNat / 16)) = some (v.toNat / 16) ∧
      hexValue? (hexChar (v.toNat % 16)) = some (v.toNat % 16) :=
    ⟨hexValue?_hexChar (Nat.div_lt_of_lt_mul v.toNat_lt), hexValue?_hexChar (Nat.mod_lt _ (by decide))⟩
  have hvalues : HaveValues (channelChars r ++ channelChars g ++ channelChars b)
      [r.toNat / 16, r.toNat % 16, g.toNat / 16, g.toNat % 16, b.toNat / 16, b.toNat % 16] :=
    .cons (hvalue r).1 (.cons (hvalue r).2 (.cons (hvalue g).1 (.cons (hvalue g).2
      (.cons (hvalue b).1 (.cons (hvalue b).2 .nil)))))
  have htext : withoutHash (rgb r g b).text.toList
      = channelChars r ++ channelChars g ++ channelChars b := by
    rw [text, String.toList_ofList]
    rfl
  rw [ofText, htext, mapM_hexValue?_eq_some_iff.mpr hvalues, Option.bind_some, ofDigits?,
    channel_digits, channel_digits, channel_digits]
  rfl

/-- What was read from a text is read again from its own text. It has channels exactly when the text
consists of six hexadecimal digits, with or without one hash before them, and is then written with these
digits in lower case; any other text is kept as it is. And a colour with channels is read from its
text. -/
theorem ofText_text (s : String) :
    ofText (ofText s).text = ofText s ∧
      ((∃ r g b, ofText s = rgb r g b) ↔ IsHexText s) ∧
      (¬IsHexText s → ofText s = raw s) ∧
      (∀ digits : List Char, (s.toList = digits ∨ s.toList = '#' :: digits) → digits.length = 6 →
        (∀ c ∈ digits, c ∈ hexDigits) →
          (ofText s).text = String.ofList ('#' :: digits.map Char.toLower)) ∧
      ∀ r g b, ofText (rgb r g b).text = rgb r g b := by
  have hchannels : IsHexText s → ∃ r g b, ofText s = rgb r g b := by
    rintro ⟨digits, hs, hlength, hdigits⟩
    obtain ⟨r, g, b, hcolor, -⟩ := ofText_of_digits hs hlength hdigits
    exact ⟨r, g, b, hcolor⟩
  refine ⟨?_, ⟨?_, hchannels⟩, ofText_of_not_isHexText, ?_, ofText_text_rgb⟩
  · by_cases hhex : IsHexText s
    · obtain ⟨r, g, b, hcolor⟩ := hchannels hhex
      rw [hcolor, ofText_text_rgb]
    · have hname : (raw s).text = s := String.ofList_toList
      rw [ofText_of_not_isHexText hhex, hname, ofText_of_not_isHexText hhex]
  · rintro ⟨r, g, b, hcolor⟩
    by_contra hhex
    rw [ofText_of_not_isHexText hhex] at hcolor
    cases hcolor
  · intro digits hs hlength hdigits
    obtain ⟨r, g, b, hcolor, hchars⟩ := ofText_of_digits hs hlength hdigits
    rw [hcolor, text, hchars]

example : ofText "##FF8000" = raw "##FF8000" := by cbv

end ShapeOutline.Color
