import Mathlib
import ShapeOutline.Proofs.Path.Mirror

/-!
# Arrowheads of a path

An end of a path has a marker when its decoration has one and the path has a direction there. Flipping
the path inside its box mirrors its markers, except where a marker sits at an arc that goes nowhere.

* `Point.isSome_unit?_iff`: the displacements that have a direction;
* `Path.tip`, `Path.outward`: where a path ends, and the direction out of it there;
* `Path.mem_markers_iff`, `Path.exists_mem_markers_iff`: which markers there are;
* `Marker.flipped`, `Marker.turned`: a marker in a flipped box, and one that is turned round;
* `Path.markers_flipped`, `Path.markers_flipped_iff`: the markers of a flipped path.
-/

namespace ShapeOutline

/-! ## Directions -/

namespace Point

/-- A displacement has a direction when it has a length. -/
theorem isSome_unit?_iff (d : Point ℝ) : d.unit?.isSome = true ↔ 0 < d.normSquared := by
  have hreciprocal : 0 < @OfNat.ofNat ℝ 1 (Scalar.literal 1) / d.norm ↔ 0 < d.normSquared := by
    rw [Exact.literal_eq, Nat.cast_one, one_div_pos]
    exact Real.sqrt_pos
  unfold unit?
  dsimp only
  rw [Exact.literal_zero]
  split
  · next hpos => exact iff_of_true rfl (hreciprocal.mp hpos.2)
  · next hpos => exact iff_of_false Bool.false_ne_true fun h => hpos ⟨rfl, hreciprocal.mpr h⟩

theorem normSquared_origin : (origin : Point ℝ).normSquared = 0 := by
  rw [origin, Exact.literal_zero]
  norm_num [normSquared]

/-- What does not go anywhere has no direction. -/
theorem unit?_origin : (origin : Point ℝ).unit? = none := by
  rw [← Option.not_isSome_iff_eq_none, isSome_unit?_iff, normSquared_origin]
  exact lt_irrefl 0

/-- A direction has a length. -/
theorem normSquared_pos_of_unit? {d u : Point ℝ} (hu : d.unit? = some u) : 0 < u.normSquared := by
  have hd : 0 < d.normSquared := (isSome_unit?_iff d).mp (Option.isSome_of_eq_some hu)
  have hnorm : 0 < d.norm := Real.sqrt_pos.mpr hd
  unfold unit? at hu
  dsimp only at hu
  split at hu
  · obtain rfl := Option.some.inj hu
    rw [Exact.literal_eq, Nat.cast_one]
    have hshrink : (d.times (1 / d.norm)).normSquared
        = d.normSquared * (1 / d.norm * (1 / d.norm)) := by
      show d.x * (1 / d.norm) * (d.x * (1 / d.norm)) + d.y * (1 / d.norm) * (d.y * (1 / d.norm))
        = (d.x * d.x + d.y * d.y) * (1 / d.norm * (1 / d.norm))
      ring
    rw [hshrink]
    positivity
  · cases hu

/-- What has a length is changed when it is turned round. -/
theorem turned_eq_self_iff {d : Point ℝ} (hd : 0 < d.normSquared) (back : Bool) :
    d.turned back = d ↔ back = false := by
  cases back with
  | false => exact iff_of_true rfl rfl
  | true =>
    refine iff_of_false (fun hturned => ?_) Bool.true_eq_false_eq_False
    have hx : -d.x = d.x := congrArg Point.x hturned
    have hy : -d.y = d.y := congrArg Point.y hturned
    have hzero : d.normSquared = 0 := by
      show d.x * d.x + d.y * d.y = 0
      rw [self_eq_neg.mp hx.symm, self_eq_neg.mp hy.symm]
      ring
    exact hd.ne' hzero

end Point

/-! ## Which markers there are -/

variable {α : Type} [Scalar α]

namespace Marker

variable {defaults : PaintDefaults α} {lineWidth : α} {side : PathEnd} {decoration : Option LineEnd}
  {tip direction : Option (Point α)}

/-- The marker for a decoration, if there is one, and all that it consists of. -/
theorem ofLineEnd_eq_some_iff {m : Marker α} :
    ofLineEnd defaults lineWidth side decoration tip direction = some m ↔
      ∃ e kind p d, decoration = some e ∧ e.kind.marker? = some kind ∧ tip = some p ∧
        direction = some d ∧ m = ⟨side, kind, p, d, lineWidth * defaults.factor e.width,
          lineWidth * defaults.factor e.length⟩ := by
  unfold ofLineEnd
  simp only [bind, Option.bind_eq_some_iff, pure, Option.some.injEq]
  constructor
  · rintro ⟨e, he, kind, hkind, p, hp, d, hd, rfl⟩
    exact ⟨e, kind, p, d, he, hkind, hp, hd, rfl⟩
  · rintro ⟨e, kind, p, d, he, hkind, hp, hd, rfl⟩
    exact ⟨e, he, kind, hkind, p, hp, d, hd, rfl⟩

/-- The marker in a flipped box. -/
def flipped (w h : α) (horizontally vertically : Bool) (m : Marker α) : Marker α :=
  { m with
    tip := m.tip.flipped w h horizontally vertically
    direction := m.direction.reflected horizontally vertically }

/-- The marker, turned round if asked. -/
def turned (back : Bool) (m : Marker α) : Marker α :=
  { m with direction := m.direction.turned back }

/-- A decoration of an end that is moved and turned has its marker moved and turned. -/
theorem ofLineEnd_map {f g : Point α → Point α} {change : Marker α → Marker α}
    (hchange : ∀ m : Marker α, m.side = side →
      change m = { m with tip := f m.tip, direction := g m.direction }) :
    ofLineEnd defaults lineWidth side decoration (tip.map f) (direction.map g)
      = (ofLineEnd defaults lineWidth side decoration tip direction).map change := by
  ext m
  rw [Option.map_eq_some_iff, ofLineEnd_eq_some_iff]
  constructor
  · rintro ⟨e, kind, p, d, he, hkind, hp, hd, rfl⟩
    obtain ⟨q, hq, rfl⟩ := Option.map_eq_some_iff.mp hp
    obtain ⟨c, hc, rfl⟩ := Option.map_eq_some_iff.mp hd
    exact ⟨_, ofLineEnd_eq_some_iff.mpr ⟨e, kind, q, c, he, hkind, hq, hc, rfl⟩, hchange _ rfl⟩
  · rintro ⟨n, hn, rfl⟩
    obtain ⟨e, kind, p, d, he, hkind, hp, hd, rfl⟩ := ofLineEnd_eq_some_iff.mp hn
    exact ⟨e, kind, f p, g d, he, hkind, Option.map_eq_some_iff.mpr ⟨p, hp, rfl⟩,
      Option.map_eq_some_iff.mpr ⟨d, hd, rfl⟩, hchange _ rfl⟩

end Marker

omit [Scalar α] in
/-- The decoration of an end of a line. -/
def LineSpec.decoration (line : LineSpec α) : PathEnd → Option LineEnd
  | .head => line.head
  | .tail => line.tail

namespace Path

/-- Where a path ends. -/
def tip (p : Path α) : PathEnd → Option (Point α)
  | .head => p.startPoint
  | .tail => p.endPoint

/-- The direction that leads out of a path at an end. -/
def outward (p : Path α) : PathEnd → Option (Point α)
  | .head => p.startDirection.map fun d => -d
  | .tail => p.endDirection

variable {p : Path α} {line : Option (LineSpec α)} {lineWidth : α} {defaults : PaintDefaults α}
  {side : PathEnd}

/-- A path that begins with a move has two ends. -/
theorem isSome_tip_of_move {q : Point α} {rest : List (Command α)}
    (hp : p.commands = .moveTo q :: rest) (side : PathEnd) : (p.tip side).isSome = true := by
  cases side with
  | head =>
    rw [tip, startPoint, hp]
    rfl
  | tail =>
    rw [tip, endPoint, trail, hp]
    exact (Trail.IsDown.of_move q rest).pen

/-- The markers of a path are those that its ends have. -/
theorem mem_markers_iff {m : Marker α} :
    m ∈ p.markers line lineWidth defaults ↔
      Marker.ofLineEnd defaults lineWidth m.side (line.bind (·.decoration m.side)) (p.tip m.side)
        (p.outward m.side) = some m := by
  have hside : ∀ {side : PathEnd} {decoration : Option LineEnd} {tip direction : Option (Point α)},
      Marker.ofLineEnd defaults lineWidth side decoration tip direction = some m →
        m.side = side := by
    intro side decoration tip direction hm
    obtain ⟨e, kind, q, d, -, -, -, -, rfl⟩ := Marker.ofLineEnd_eq_some_iff.mp hm
    rfl
  unfold markers
  rw [List.mem_append, Option.mem_toList, Option.mem_toList]
  constructor
  · rintro (hhead | htail)
    · rw [hside hhead]
      exact hhead
    · rw [hside htail]
      exact htail
  · intro hm
    cases hend : m.side with
    | head =>
      rw [hend] at hm
      exact .inl hm
    | tail =>
      rw [hend] at hm
      exact .inr hm

/-- A marker has its tip where the path ends, and points out of the path there. -/
theorem tip_of_mem_markers {m : Marker α} (hm : m ∈ p.markers line lineWidth defaults) :
    p.tip m.side = some m.tip ∧ p.outward m.side = some m.direction := by
  obtain ⟨e, kind, q, d, -, -, hq, hd, heq⟩ := Marker.ofLineEnd_eq_some_iff.mp (mem_markers_iff.mp hm)
  rw [congrArg Marker.tip heq, congrArg Marker.direction heq]
  exact ⟨hq, hd⟩

/-- An end whose decoration has a marker has one exactly when the path has a direction there. -/
theorem exists_mem_markers_iff {e : LineEnd} (he : line.bind (·.decoration side) = some e)
    (hkind : e.kind.marker?.isSome = true) :
    (∃ m ∈ p.markers line lineWidth defaults, m.side = side) ↔
      (p.tip side).isSome = true ∧ (p.outward side).isSome = true := by
  constructor
  · rintro ⟨m, hm, rfl⟩
    obtain ⟨htip, hdirection⟩ := tip_of_mem_markers hm
    exact ⟨Option.isSome_of_eq_some htip, Option.isSome_of_eq_some hdirection⟩
  · rintro ⟨htip, hdirection⟩
    obtain ⟨kind, hkind⟩ := Option.isSome_iff_exists.mp hkind
    obtain ⟨q, hq⟩ := Option.isSome_iff_exists.mp htip
    obtain ⟨d, hd⟩ := Option.isSome_iff_exists.mp hdirection
    let m : Marker α := ⟨side, kind, q, d, lineWidth * defaults.factor e.width,
      lineWidth * defaults.factor e.length⟩
    have hm : m ∈ p.markers line lineWidth defaults :=
      mem_markers_iff.mpr
        (Marker.ofLineEnd_eq_some_iff.mpr ⟨e, kind, q, d, he, hkind, hq, hd, rfl⟩)
    exact ⟨m, hm, rfl⟩

/-- There are two markers, one for each end, when there is one for each end. -/
theorem markers_eq_pair_iff :
    (∃ m n, p.markers line lineWidth defaults = [m, n] ∧ m.side = .head ∧
        p.startPoint = some m.tip ∧ n.side = .tail ∧ p.endPoint = some n.tip) ↔
      (∃ m ∈ p.markers line lineWidth defaults, m.side = .head) ∧
        ∃ n ∈ p.markers line lineWidth defaults, n.side = .tail := by
  constructor
  · rintro ⟨m, n, hmarkers, hm, -, hn, -⟩
    rw [hmarkers]
    exact ⟨⟨m, by simp, hm⟩, ⟨n, by simp, hn⟩⟩
  · rintro ⟨⟨m, hm, hmside⟩, ⟨n, hn, hnside⟩⟩
    have hmtip := (tip_of_mem_markers hm).1
    have hntip := (tip_of_mem_markers hn).1
    rw [mem_markers_iff, hmside] at hm
    rw [mem_markers_iff, hnside] at hn
    rw [hmside] at hmtip
    rw [hnside] at hntip
    refine ⟨m, n, ?_, hmside, hmtip, hnside, hntip⟩
    exact congrArg₂ (fun head tail => head.toList ++ tail.toList) hm hn

/-! ## Markers in a mirror -/

section

variable {p : Path ℝ} {line : Option (LineSpec ℝ)} {lineWidth : ℝ} {defaults : PaintDefaults ℝ}

/-- The markers of a flipped path that begins with a move are those of the path in the flipped box. A
marker at an arc that goes nowhere is turned round besides, if one axis is flipped. -/
theorem markers_flipped (hp : p.commands = [] ∨ ∃ q rest, p.commands = .moveTo q :: rest) (w h : ℝ)
    (a b : Bool) :
    (p.flipped w h a b).markers line lineWidth defaults
      = (p.markers line lineWidth defaults).map fun m =>
          (m.flipped w h a b).turned (p.stallsAt m.side && a != b) := by
  have hneg : ∀ (back : Bool) (d : Point ℝ),
      -((d.reflected a b).turned back) = ((-d).reflected a b).turned back := by
    intro back d
    cases back <;> cases a <;> cases b <;> rfl
  have hstart : (p.flipped w h a b).startDirection.map (fun d => -d)
      = (p.startDirection.map fun d => -d).map fun d =>
          (d.reflected a b).turned (p.stallsAt .head && a != b) := by
    rw [p.startDirection_flipped, Option.map_map, Option.map_map]
    exact congrArg (fun f => p.startDirection.map f) (funext fun d => hneg _ d)
  unfold markers
  dsimp only
  rw [hstart, p.startPoint_flipped, p.endPoint_flipped, endDirection_flipped w h a b hp,
    List.map_append, ← Option.toList_map, ← Option.toList_map]
  -- the side of a marker is the end that it was made for
  congr 2
  · refine Marker.ofLineEnd_map ?_
    rintro ⟨_, kind, tip, direction, width, length⟩ rfl
    rfl
  · refine Marker.ofLineEnd_map ?_
    rintro ⟨_, kind, tip, direction, width, length⟩ rfl
    rfl

/-- The directions of markers have a length. -/
theorem normSquared_direction_pos {m : Marker ℝ} (hm : m ∈ p.markers line lineWidth defaults) :
    0 < m.direction.normSquared := by
  have hdirection := (tip_of_mem_markers hm).2
  cases hside : m.side with
  | head =>
    rw [hside] at hdirection
    obtain ⟨d, hd, hback⟩ := Option.map_eq_some_iff.mp hdirection
    have hunit : ∃ c : Point ℝ, c.unit? = some d := by
      unfold startDirection at hd
      split at hd
      · exact ⟨_, hd⟩
      · cases hd
    obtain ⟨c, hc⟩ := hunit
    rw [← hback]
    exact (d.normSquared_turned true).symm ▸ Point.normSquared_pos_of_unit? hc
  | tail =>
    rw [hside] at hdirection
    obtain ⟨c, -, hc⟩ := Option.bind_eq_some_iff.mp hdirection
    exact Point.normSquared_pos_of_unit? hc

/-- The markers of a flipped path are mirrored exactly when both axes are flipped, or none, or no marker
sits at an arc that goes nowhere. -/
theorem markers_flipped_iff (hp : p.commands = [] ∨ ∃ q rest, p.commands = .moveTo q :: rest)
    (w h : ℝ) (a b : Bool) :
    (p.flipped w h a b).markers line lineWidth defaults
        = (p.markers line lineWidth defaults).map (Marker.flipped w h a b) ↔
      a = b ∨ ∀ m ∈ p.markers line lineWidth defaults, p.stallsAt m.side = false := by
  rw [markers_flipped hp, List.map_inj_left]
  have hturned : ∀ m ∈ p.markers line lineWidth defaults, ∀ back : Bool,
      (m.flipped w h a b).turned back = m.flipped w h a b ↔ back = false := by
    intro m hm back
    have hlong : 0 < (m.direction.reflected a b).normSquared := by
      rw [m.direction.normSquared_reflected]
      exact normSquared_direction_pos hm
    rw [← Point.turned_eq_self_iff hlong back]
    constructor
    · exact fun heq => congrArg Marker.direction heq
    · exact fun heq => congrArg (fun d => { m.flipped w h a b with direction := d }) heq
  rw [forall₂_congr fun m hm => hturned m hm (p.stallsAt m.side && a != b)]
  by_cases hab : a = b
  · simp [hab]
  · simp [hab]

end

end Path

end ShapeOutline
