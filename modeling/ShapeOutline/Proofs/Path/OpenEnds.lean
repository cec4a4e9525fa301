import Mathlib
import ShapeOutline.Proofs.Path.Arrowheads
import ShapeOutline.Proofs.Path.Subpaths

/-!
# Open ends of a path

A subpath that draws something and is not closed has two open ends. The markers of a path are put at
its first point and behind its last command, and these need not be open ends: the first or the last
subpath may be closed while another one is open.

* `Path.OpenSubpath`, `Path.OpenEnd`: the subpaths that are left open, and their ends;
* `Path.ClosesAt`: the first or the last subpath of a path is closed;
* `Path.openEnd_or_closesAt`: a marker sits on an open end or on a closed subpath;
* `Path.openEnd_of_single`: the markers of a path of one move sit on open ends.
-/

namespace ShapeOutline

variable {α : Type}

/-- Whether the command draws something. -/
def Command.draws (c : Command α) : Bool := c.gesture == .draw

/-- Some commands of a path are a subpath that draws something and is left open: they draw, they stand
behind a move or a close, and they run to the next move or to the end of the path. -/
structure Path.OpenSubpath (p : Path α) (before body after : List (Command α)) : Prop where
  split : p.commands = before ++ body ++ after
  nonempty : body ≠ []
  draws : ∀ c ∈ body, c.draws = true
  begins : ∀ c ∈ before.getLast?, c.draws = false
  ends : ∀ c ∈ after.head?, c.isMove = true

/-- The first or the last subpath of a path is closed. -/
def Path.ClosesAt (p : Path α) : PathEnd → Prop
  | .head => ∃ q body rest, p.commands = .moveTo q :: (body ++ .close :: rest) ∧
      ∀ c ∈ body, c.draws = true
  | .tail => ∃ before, p.commands = before ++ [.close]

/-- An open subpath of a path starts at a point, or the pen rests there behind one. -/
def Path.OpenEnd [Scalar α] (p : Path α) (side : PathEnd) (q : Point α) : Prop :=
  ∃ before body after, p.OpenSubpath before body after ∧
    match side with
    | .head => (mk before).endPoint = some q
    | .tail => (mk (before ++ body)).endPoint = some q

namespace Path

variable {p : Path α}

/-! ## The first and the last subpath -/

/-- What is drawn behind the first move is an open subpath, or it is closed. -/
theorem openSubpath_or_closesAt {q : Point α} {c : Command α} {rest : List (Command α)}
    (hp : p.commands = .moveTo q :: c :: rest) (hc : c.draws = true) :
    (∃ body after, p.OpenSubpath [.moveTo q] body after) ∨ p.ClosesAt .head := by
  have hsplit : p.commands
      = .moveTo q :: ((c :: rest).takeWhile Command.draws ++ (c :: rest).dropWhile Command.draws) := by
    rw [List.takeWhile_append_dropWhile, hp]
  have hdraws : ∀ d ∈ (c :: rest).takeWhile Command.draws, d.draws = true :=
    fun d hd => List.mem_takeWhile_imp hd
  have hnonempty : (c :: rest).takeWhile Command.draws ≠ [] := by
    rw [List.takeWhile_cons_of_pos hc]
    exact List.cons_ne_nil _ _
  have hstop : ∀ d ∈ ((c :: rest).dropWhile Command.draws).head?, d.draws = false := by
    intro d hd
    have hnot := List.head?_dropWhile_not Command.draws (c :: rest)
    rwa [Option.mem_def.mp hd] at hnot
  have hbegins : ∀ d ∈ [Command.moveTo q].getLast?, d.draws = false := by
    rintro d ⟨⟩
    rfl
  generalize (c :: rest).takeWhile Command.draws = body at hsplit hdraws hnonempty
  generalize (c :: rest).dropWhile Command.draws = after at hsplit hstop
  rcases after with _ | ⟨d, after⟩
  · exact .inl ⟨body, [], hsplit, hnonempty, hdraws, hbegins, by rintro _ ⟨⟩⟩
  · have hd : d.draws = false := hstop d rfl
    cases d with
    | moveTo r =>
      have hends : ∀ e ∈ (Command.moveTo r :: after).head?, e.isMove = true := by
        rintro e ⟨⟩
        rfl
      exact .inl ⟨body, _, hsplit, hnonempty, hdraws, hbegins, hends⟩
    | close => exact .inr ⟨q, body, after, hsplit, hdraws⟩
    | _ => cases hd

/-- What is drawn up to a close is not an open subpath. -/
theorem OpenSubpath.not_closed {before body after : List (Command α)}
    (h : p.OpenSubpath before body after) {drawn rest : List (Command α)}
    (hdrawn : ∀ c ∈ drawn, c.draws = true) : body ++ after ≠ drawn ++ .close :: rest := by
  obtain ⟨-, hnonempty, hdraws, -, hends⟩ := h
  induction drawn generalizing body with
  | nil =>
    intro heq
    obtain ⟨c, body, rfl⟩ := List.exists_cons_of_ne_nil hnonempty
    obtain rfl : c = .close := List.head_eq_of_cons_eq heq
    cases hdraws _ List.mem_cons_self
  | cons d drawn ih =>
    intro heq
    obtain ⟨c, body, rfl⟩ := List.exists_cons_of_ne_nil hnonempty
    have htail : body ++ after = drawn ++ .close :: rest := List.tail_eq_of_cons_eq heq
    have hdrawn' : ∀ c ∈ drawn, c.draws = true := fun c hc => hdrawn c (List.mem_cons_of_mem d hc)
    by_cases hbody : body = []
    · -- no move follows then
      rw [hbody, List.nil_append] at htail
      rw [htail] at hends
      rcases drawn with _ | ⟨e, drawn⟩
      · cases hends .close rfl
      · have hmove : e.isMove = true := hends e rfl
        have he : e.draws = true := hdrawn' e List.mem_cons_self
        cases e with
        | moveTo r => cases he
        | _ => cases hmove
    · exact ih hdrawn' hbody (fun c hc => hdraws c (List.mem_cons_of_mem _ hc)) htail

/-- When the first subpath is closed, every open subpath lies behind it. -/
theorem OpenSubpath.behind_close {q : Point α} {drawn rest before body after : List (Command α)}
    (h : p.OpenSubpath before body after) (hp : p.commands = .moveTo q :: (drawn ++ .close :: rest))
    (hdrawn : ∀ c ∈ drawn, c.draws = true) :
    ∃ front, before = .moveTo q :: (drawn ++ .close :: front) ∧ rest = front ++ (body ++ after) := by
  have hsplit := hp.symm.trans h.split
  obtain ⟨c, body', hbody⟩ := List.exists_cons_of_ne_nil h.nonempty
  have hc : c.draws = true := h.draws c (hbody ▸ List.mem_cons_self)
  rw [List.append_assoc] at hsplit
  rcases before with _ | ⟨d, before⟩
  · -- a move draws nothing
    rw [hbody] at hsplit
    obtain rfl : Command.moveTo q = c := List.head_eq_of_cons_eq hsplit
    cases hc
  obtain rfl : Command.moveTo q = d := List.head_eq_of_cons_eq hsplit
  rcases List.append_eq_append_iff.mp (List.tail_eq_of_cons_eq hsplit) with
    ⟨front, rfl, hclose⟩ | ⟨back, rfl, hback⟩
  · rcases front with _ | ⟨e, front⟩
    · -- nor does a close
      rw [hbody] at hclose
      obtain rfl : Command.close = c := List.head_eq_of_cons_eq hclose
      cases hc
    · obtain rfl : Command.close = e := List.head_eq_of_cons_eq hclose
      exact ⟨front, rfl, List.tail_eq_of_cons_eq hclose⟩
  · have hback' : ∀ c ∈ back, c.draws = true := fun c hc => hdrawn c (List.mem_append_right _ hc)
    exact absurd hback (h.not_closed hback')

/-- What is drawn last is an open subpath. -/
theorem exists_openSubpath_last {cs : List (Command α)} {c : Command α}
    (hp : p.commands = cs ++ [c]) (hc : c.draws = true) :
    ∃ before body, p.OpenSubpath before body [] := by
  refine ⟨(cs ++ [c]).rdropWhile Command.draws, (cs ++ [c]).rtakeWhile Command.draws,
    ?_, ?_, ?_, ?_, by rintro _ ⟨⟩⟩
  · rw [List.append_nil, List.rdropWhile_append_rtakeWhile, hp]
  · rw [List.rtakeWhile_concat_pos _ _ _ hc]
    exact List.append_ne_nil_of_right_ne_nil _ (List.cons_ne_nil _ _)
  · exact fun d hd => List.mem_rtakeWhile_imp hd
  · intro d hd
    have hne : (cs ++ [c]).rdropWhile Command.draws ≠ [] := by
      rintro heq
      rw [heq] at hd
      cases hd
    have hnot := List.rdropWhile_last_not Command.draws (cs ++ [c]) hne
    rw [List.getLast?_eq_some_getLast hne] at hd
    cases hd
    simpa using hnot

/-! ## Paths of one move -/

/-- Without further moves, a path leaves a subpath open when it ends with a drawing command. -/
theorem leavesOpen_concat {cs : List (Command α)} (hcs : ∀ c ∈ cs, c.isMove = false)
    {c : Command α} (hc : c.isMove = false) (opened : Bool) :
    leavesOpen opened (cs ++ [c]) = c.draws := by
  induction cs generalizing opened with
  | nil => cases c <;> first | rfl | cases hc
  | cons d cs ih =>
    obtain ⟨hd, hrest⟩ := List.forall_mem_cons.mp hcs
    cases d with
    | moveTo r => cases hd
    | _ => exact ih hrest _

/-- A path of one move that leaves a subpath open is drawn to its last command. -/
theorem exists_draws_last {q : Point α} {rest : List (Command α)}
    (hp : p.commands = .moveTo q :: rest) (hrest : ∀ c ∈ rest, c.isMove = false)
    (hopen : p.hasOpenSubpath = true) : ∃ cs c, rest = cs ++ [c] ∧ c.draws = true := by
  rw [hasOpenSubpath, hp] at hopen
  rcases List.eq_nil_or_concat rest with rfl | ⟨cs, c, rfl⟩
  · cases hopen
  · rw [List.concat_eq_append] at hrest hopen
    obtain ⟨hcs, hc⟩ := List.forall_mem_append.mp hrest
    have hdraws : leavesOpen false (cs ++ [c]) = c.draws :=
      leavesOpen_concat hcs (hc c List.mem_cons_self) false
    exact ⟨cs, c, List.concat_eq_append, hdraws.symm.trans hopen⟩

variable [Scalar α]

/-- Without further moves, a subpath begins where the first one did. -/
theorem trail_start_of_moveless (t : Trail α) {cs : List (Command α)}
    (hcs : ∀ c ∈ cs, c.isMove = false) : (cs.foldl Trail.step t).start = t.start := by
  induction cs generalizing t with
  | nil => rfl
  | cons c cs ih =>
    obtain ⟨hc, hrest⟩ := List.forall_mem_cons.mp hcs
    rw [List.foldl_cons, ih _ hrest]
    cases c with
    | moveTo r => cases hc
    | _ => rfl

/-- In a path of one move, the pen rests at that move in front of every open subpath. -/
theorem endPoint_before_of_single {q : Point α} {rest before body after : List (Command α)}
    (hp : p.commands = .moveTo q :: rest) (hrest : ∀ c ∈ rest, c.isMove = false)
    (h : p.OpenSubpath before body after) : (mk before).endPoint = some q := by
  have hsplit := hp.symm.trans h.split
  rcases List.eq_nil_or_concat before with rfl | ⟨cs, c, rfl⟩
  · -- a move draws nothing
    obtain ⟨d, body', rfl⟩ := List.exists_cons_of_ne_nil h.nonempty
    obtain rfl : Command.moveTo q = d := List.head_eq_of_cons_eq hsplit
    cases h.draws _ List.mem_cons_self
  · rw [List.concat_eq_append] at hsplit ⊢
    have hc : c.draws = false := h.begins c (by simp)
    rcases cs with _ | ⟨d, cs⟩
    · obtain rfl : Command.moveTo q = c := List.head_eq_of_cons_eq hsplit
      rfl
    · obtain rfl : Command.moveTo q = d := List.head_eq_of_cons_eq hsplit
      have htail : rest = cs ++ ([c] ++ (body ++ after)) := by
        simpa using List.tail_eq_of_cons_eq hsplit
      rw [htail, List.forall_mem_append, List.forall_mem_append] at hrest
      obtain ⟨hcs, hmove, -⟩ := hrest
      cases c with
      | moveTo r => cases hmove _ List.mem_cons_self
      | close =>
        -- a close goes back to where the subpath began
        rw [endPoint, trail, List.foldl_concat]
        exact trail_start_of_moveless _ hcs
      | _ => cases hc

/-- Behind a closed subpath and with nothing behind it, a last subpath is the only one that may be
open. -/
theorem eq_of_openEnd_head {q r z : Point α} {drawn last : List (Command α)}
    (hp : p.commands = .moveTo q :: (drawn ++ .close :: .moveTo r :: last))
    (hdrawn : ∀ c ∈ drawn, c.draws = true) (hlast : ∀ c ∈ last, c.draws = true)
    (hz : p.OpenEnd .head z) : z = r := by
  obtain ⟨before, body, after, hopen, hstart⟩ := hz
  obtain ⟨front, rfl, hrest⟩ := hopen.behind_close hp hdrawn
  rcases front with _ | ⟨d, front⟩
  · -- a move draws nothing
    obtain ⟨c, body', rfl⟩ := List.exists_cons_of_ne_nil hopen.nonempty
    obtain rfl : Command.moveTo r = c := List.head_eq_of_cons_eq hrest
    cases hopen.draws _ List.mem_cons_self
  obtain rfl : Command.moveTo r = d := List.head_eq_of_cons_eq hrest
  have htail : last = front ++ (body ++ after) := List.tail_eq_of_cons_eq hrest
  rcases List.eq_nil_or_concat front with rfl | ⟨cs, c, rfl⟩
  · have hpoint : (mk ((.moveTo q :: (drawn ++ [.close])) ++ [.moveTo r])).endPoint = some r := by
      rw [endPoint, trail, List.foldl_concat]
      rfl
    have hsame : (.moveTo q :: (drawn ++ .close :: [.moveTo r]) : List (Command α))
        = (.moveTo q :: (drawn ++ [.close])) ++ [.moveTo r] := by simp
    have hend : (mk (.moveTo q :: (drawn ++ .close :: [.moveTo r]))).endPoint = some z := hstart
    rw [hsame] at hend
    exact Option.some.inj (hend.symm.trans hpoint)
  · -- what stands in front of an open subpath does not draw
    have hbefore : .moveTo q :: (drawn ++ .close :: .moveTo r :: cs.concat c)
        = (.moveTo q :: (drawn ++ .close :: .moveTo r :: cs)) ++ [c] := by simp
    have hc : c.draws = true := hlast c (by rw [htail]; simp)
    have hnot : c.draws = false := hopen.begins c (by rw [hbefore]; exact List.getLast?_concat)
    rw [hc] at hnot
    cases hnot

/-! ## Markers -/

theorem startPoint_of_move {q : Point α} {rest : List (Command α)}
    (hp : p.commands = .moveTo q :: rest) : p.startPoint = some q := by
  rw [startPoint, hp]
  rfl

/-- Behind an open subpath with nothing behind it, the pen rests at the end of the path. -/
theorem OpenSubpath.endPoint_eq {before body : List (Command α)} (h : p.OpenSubpath before body []) :
    (Path.mk (before ++ body)).endPoint = p.endPoint := by
  have hsplit : p.commands = before ++ body := by rw [h.split, List.append_nil]
  rw [← hsplit]

variable {line : Option (LineSpec α)} {lineWidth : α} {defaults : PaintDefaults α} {m : Marker α}

/-- Only drawing commands leave their beginning in a direction. -/
theorem exists_draws_first (hstill : (Point.origin : Point α).unit? = none) {d : Point α}
    (hd : p.startDirection = some d) :
    ∃ q c rest, p.commands = .moveTo q :: c :: rest ∧ c.draws = true := by
  unfold startDirection at hd
  split at hd
  · next q c rest hp =>
    refine ⟨q, c, rest, hp, ?_⟩
    cases c with
    | moveTo r => exact absurd (hstill.symm.trans hd) (by simp)
    | close => exact absurd (hstill.symm.trans hd) (by simp)
    | _ => rfl
  · cases hd

/-- A path that arrives in a direction ends with a drawing command or a close. -/
theorem draws_or_closesAt {d : Point α} (hd : p.endDirection = some d) :
    (∃ cs c, p.commands = cs ++ [c] ∧ c.draws = true) ∨ p.ClosesAt .tail := by
  obtain ⟨heading, hheading, -⟩ := Option.bind_eq_some_iff.mp hd
  rcases List.eq_nil_or_concat p.commands with hnil | ⟨cs, c, hcs⟩
  · rw [trail, hnil] at hheading
    cases hheading
  · rw [List.concat_eq_append] at hcs
    rw [trail, hcs, List.foldl_concat] at hheading
    cases c with
    | moveTo r => cases hheading
    | close => exact .inr ⟨cs, hcs⟩
    | _ => exact .inl ⟨cs, _, hcs, rfl⟩

/-- A marker sits on an end of an open subpath, or the subpath at its end of the path is closed. -/
theorem openEnd_or_closesAt (hstill : (Point.origin : Point α).unit? = none)
    (hm : m ∈ p.markers line lineWidth defaults) :
    p.OpenEnd m.side m.tip ∨ p.ClosesAt m.side := by
  obtain ⟨htip, hdirection⟩ := tip_of_mem_markers hm
  generalize m.side = side at htip hdirection ⊢
  cases side with
  | head =>
    obtain ⟨d, hd, -⟩ := Option.map_eq_some_iff.mp hdirection
    obtain ⟨q, c, rest, hp, hc⟩ := exists_draws_first hstill hd
    obtain rfl : m.tip = q := Option.some.inj (htip.symm.trans (startPoint_of_move hp))
    refine (openSubpath_or_closesAt hp hc).imp_left ?_
    rintro ⟨body, after, hopen⟩
    exact ⟨_, body, after, hopen, rfl⟩
  | tail =>
    refine (draws_or_closesAt hdirection).imp_left ?_
    rintro ⟨cs, c, hp, hc⟩
    obtain ⟨before, body, hopen⟩ := exists_openSubpath_last hp hc
    exact ⟨before, body, [], hopen, hopen.endPoint_eq.trans htip⟩

/-- The markers of a path of at most one move that leaves a subpath open sit on ends of an open
subpath. -/
theorem openEnd_of_single (hbegins : p.commands = [] ∨ ∃ q rest, p.commands = .moveTo q :: rest)
    (hcount : p.subpathCount ≤ 1) (hopen : p.hasOpenSubpath = true)
    (hm : m ∈ p.markers line lineWidth defaults) : p.OpenEnd m.side m.tip := by
  rcases hbegins with hnil | ⟨q, rest, hp⟩
  · rw [hasOpenSubpath, hnil] at hopen
    cases hopen
  have hrest : ∀ c ∈ rest, c.isMove = false := by
    rw [subpathCount, hp, List.countP_cons_of_pos rfl] at hcount
    have hnone : rest.countP Command.isMove = 0 := by omega
    simpa using List.countP_eq_zero.mp hnone
  obtain ⟨cs, c, rfl, hc⟩ := exists_draws_last hp hrest hopen
  have hcommands : p.commands = (.moveTo q :: cs) ++ [c] := hp
  obtain ⟨before, body, hlast⟩ := exists_openSubpath_last hcommands hc
  refine ⟨before, body, [], hlast, ?_⟩
  obtain ⟨htip, -⟩ := tip_of_mem_markers hm
  generalize m.side = side at htip ⊢
  cases side with
  | head =>
    have hbefore : (mk before).endPoint = some q := endPoint_before_of_single hp hrest hlast
    exact hbefore.trans ((startPoint_of_move hp).symm.trans htip)
  | tail => exact hlast.endPoint_eq.trans htip

end Path

end ShapeOutline
