import ExitContract.Proofs.LineStream.Draining

/-!
# Calls that are answered

A call to a session waits from one instant to the next at which something happens, and
how often it may look is bounded. When the child closes its output and ends some day,
every call is answered within that bound, so that asking for lines comes to an end.

**Two reasons to look again.** A look that is not answered makes the call wait for
something else, or it leaves the call as it is. The first happens a few times only: the
call goes from lines to the child, and stops watching the limit once it has passed. In
the second case nothing that is due is of use, so something must still lie ahead. The
clock jumps to it, and one instant less lies ahead.

## Main definitions

* `Session.Ends` — the child closes its output and ends
* `Session.instantsAhead` — how many instants lie ahead at which something happens

## Main statements

* `Session.not_stuck` — while a call waits, something lies ahead
* `Session.Ends.next` — every call is answered
* `Session.Ends.exists_drains` — asking for lines comes to an end
-/

namespace ExitContract

namespace LineStream

namespace State

variable {s s' : State} {out : Output} {limitFirst : Bool} {d : Delivery}

/-- A look that is not answered leaves the phase, or leaves fewer looks. -/
theorem looksLeft_look (m : Move s (.poll limitFirst d) s' out) (unanswered : out.answer = none) :
    s'.phase = s.phase ∨ looksLeft s'.phase < looksLeft s.phase := by
  cases m with
  | still => exact .inl rfl
  | drain _ guarded receiving =>
      have few := looksLeft_reaping_le s.watches
      have many := (looksLeft_receiving_bounds guarded).1
      rw [receiving]
      exact .inr (Nat.lt_of_le_of_lt few many)
  | killReceiving _ receiving =>
      rw [receiving]
      exact .inr (Nat.lt_succ_self 3)
  | killReaping _ reaping =>
      rw [reaping]
      exact .inr (Nat.lt_succ_self 1)
  | deliver | reap | lose => cases unanswered

/-- A look watches the limit no more than before. -/
theorem watches_look (m : Move s (.poll limitFirst d) s' out) (watches : s'.watches = true) :
    s.watches = true := by
  cases m with
  | killReceiving | killReaping =>
      rw [State.watches, Bool.and_eq_true] at watches
      cases watches.2
  | still | deliver | drain | reap | lose => exact watches

/-- A look that leaves a call waiting for a line found nothing, and an open output. -/
theorem open_of_still {guarded : Bool} (receiving : s.phase = .receiving guarded)
    (unanswered : (s.poll limitFirst d).2.answer = none)
    (still : (s.poll limitFirst d).1.phase = s.phase) :
    s.poll limitFirst d = (s, {}) ∧ s.closed = false := by
  rcases poll_receiving receiving limitFirst d with ⟨nothing, found⟩ | work | limit
  · refine ⟨found, ?_⟩
    unfold receive? at nothing
    split at nothing
    · cases nothing
    · split at nothing
      · cases nothing
      · next opened => exact eq_false_of_ne_true opened
  · -- A line would have been answered, and the end of the output turns the call.
    generalize s.poll limitFirst d = found at work unanswered still
    unfold receive? at work
    split at work
    · cases work
      cases unanswered
    · split at work
      · cases work
        rw [receiving] at still
        cases still
      · cases work
  · obtain ⟨rfl, -, found⟩ := expire?_eq_some limit
    rw [found, receiving] at still
    cases still

/-- A look that leaves a call waiting for the child found nothing, and the child running. -/
theorem running_of_still {guarded : Bool} (reaping : s.phase = .reaping guarded)
    (unanswered : (s.poll limitFirst d).2.answer = none)
    (still : (s.poll limitFirst d).1.phase = s.phase) :
    s.poll limitFirst d = (s, {}) ∧ s.ending = none := by
  rcases poll_reaping reaping limitFirst d with ⟨nothing, found⟩ | work | limit
  · refine ⟨found, ?_⟩
    unfold reap? at nothing
    split at nothing
    · next running => exact running
    · cases nothing
    · cases nothing
  · generalize s.poll limitFirst d = found at work unanswered
    unfold reap? at work
    split at work
    · cases work
    · cases work
      cases unanswered
    · cases work
      cases unanswered
  · obtain ⟨rfl, -, found⟩ := expire?_eq_some limit
    rw [found, reaping] at still
    cases still

end State

end LineStream

/-- The instants at which a child does something. -/
def Timeline.instants (t : Timeline) : List Nat :=
  t.writes.map (·.1) ++ (t.endless.map (·.1)).toList ++ t.closed.toList ++
    (t.ended.map (·.1)).toList

/-- A child that is killed does nothing after that. -/
theorem Timeline.le_of_mem_killedAt {child : Timeline} {now t : Nat}
    (mem : t ∈ (child.killedAt now).instants) : t ≤ now := by
  simp only [instants, killedAt, List.mem_append, List.mem_map, List.mem_filter,
    Option.map_none, Option.toList_none, List.not_mem_nil, or_false, Option.toList_some,
    List.mem_singleton] at mem
  rcases mem with (⟨w, ⟨-, written⟩, rfl⟩ | rfl) | ended
  · exact of_decide_eq_true written
  · cases child.closed with
    | none => exact Nat.le_refl now
    | some c => exact Nat.min_le_left now c
  · split at ended
    · split at ended
      · next before =>
          rw [List.mem_singleton.mp ended]
          exact before
      · exact Nat.le_of_eq (List.mem_singleton.mp ended)
    · exact Nat.le_of_eq (List.mem_singleton.mp ended)

namespace Session

/-- The child closes its output and ends, and writes nothing without end. -/
structure Ends (s : Session) : Prop where
  endless : s.child.endless = none
  closes : s.child.closed ≠ none
  ends : s.child.ended ≠ none

/-- The instants at which something happens. -/
def instants (s : Session) : List Nat :=
  s.child.instants ++ if s.stream.watches then s.deadline.toList else []

/-- How many instants lie ahead at which something happens. -/
def instantsAhead (s : Session) : Nat := s.instants.countP fun t => s.now < t

section

variable {s s' : Session}

/-! ### The next instant -/

/-- The earliest of some instants is one of them, if there is any. -/
theorem foldl_earliest (instants : List Nat) (best : Option Nat) :
    let earliest := instants.foldl (fun best t =>
      match best with
      | none => some t
      | some b => some (min b t)) best
    (earliest = none → best = none ∧ instants = []) ∧
      ∀ t, earliest = some t → best = some t ∨ t ∈ instants := by
  induction instants generalizing best with
  | nil => exact ⟨fun none => ⟨none, rfl⟩, fun _ given => .inl given⟩
  | cons instant instants ih =>
      cases best with
      | none =>
          obtain ⟨found, given⟩ := ih (some instant)
          refine ⟨fun none => ?_, fun t here => ?_⟩
          · cases (found none).1
          · rcases given t here with first | later
            · cases first
              exact .inr List.mem_cons_self
            · exact .inr (List.mem_cons_of_mem _ later)
      | some b =>
          obtain ⟨found, given⟩ := ih (some (min b instant))
          refine ⟨fun none => ?_, fun t here => ?_⟩
          · cases (found none).1
          · rcases given t here with first | later
            · rcases Nat.le_total b instant with earlier | earlier
              · rw [Nat.min_eq_left earlier] at first
                exact .inl first
              · rw [Nat.min_eq_right earlier] at first
                cases first
                exact .inr List.mem_cons_self
            · exact .inr (List.mem_cons_of_mem _ later)

/-- The instants that the clock looks at: of the writes only the next one. -/
def nextInstants (s : Session) : List Nat :=
  (s.child.writes.head?.map (·.1)).toList ++ (s.child.endless.map (·.1)).toList ++
    s.child.closed.toList ++ (s.child.ended.map (·.1)).toList ++
    (if s.stream.watches then s.deadline.toList else [])

theorem nextInstants_sublist (s : Session) : s.nextInstants.Sublist s.instants := by
  have writes : (s.child.writes.head?.map (·.1)).toList.Sublist (s.child.writes.map (·.1)) := by
    cases s.child.writes with
    | nil => exact List.Sublist.refl _
    | cons w writes => exact (List.nil_sublist _).cons_cons _
  exact ((((writes.append_right _).append_right _).append_right _).append_right _)

/-- The next instant lies ahead, and something happens then. -/
theorem nextInstant?_eq_some {t : Nat} (next : s.nextInstant? = some t) :
    s.now < t ∧ t ∈ s.instants := by
  rcases (foldl_earliest (s.nextInstants.filter fun t => s.now < t) none).2 t next with
    impossible | mem
  · cases impossible
  · rw [List.mem_filter] at mem
    exact ⟨of_decide_eq_true mem.2, s.nextInstants_sublist.subset mem.1⟩

/-- If there is no next instant, nothing lies ahead. -/
theorem nextInstant?_eq_none (never : s.nextInstant? = none) :
    ∀ t ∈ s.nextInstants, t ≤ s.now := by
  intro t mem
  have nothing := ((foldl_earliest (s.nextInstants.filter fun t => s.now < t) none).1 never).2
  apply Nat.le_of_not_lt
  intro ahead
  have listed : t ∈ s.nextInstants.filter fun t => s.now < t :=
    List.mem_filter.mpr ⟨mem, decide_eq_true ahead⟩
  rw [nothing] at listed
  cases listed

/-- At a later instant less lies ahead. -/
theorem countP_lt_of_mem {now t : Nat} (later : now < t) {instants : List Nat}
    (mem : t ∈ instants) :
    instants.countP (fun i => t < i) < instants.countP (fun i => now < i) := by
  have fewer (instants : List Nat) :
      instants.countP (fun i => t < i) ≤ instants.countP (fun i => now < i) :=
    List.countP_mono_left fun i _ ahead =>
      decide_eq_true (Nat.lt_trans later (of_decide_eq_true ahead))
  obtain ⟨before, after, rfl⟩ := List.append_of_mem mem
  have first := fewer before
  have last := fewer after
  rw [List.countP_append, List.countP_append, List.countP_cons, List.countP_cons]
  simp only [Nat.lt_irrefl, later, decide_true, decide_false, if_true]
  simp only [Bool.false_eq_true, if_false]
  omega

/-! ### What lies ahead -/

/-- Whatever is due, no more lies ahead after it. -/
theorem instantsAhead_settle (s : Session) : s.settle.instantsAhead ≤ s.instantsAhead := by
  have flows := s.flows_settle
  have writes : s.settle.child.writes.Sublist s.child.writes := by
    rw [s.child_settle, s.writes_writeDue]
    exact List.dropWhile_sublist _
  have instants : s.settle.instants.Sublist s.instants := by
    rw [Session.instants, Session.instants, Timeline.instants, Timeline.instants, flows.endless,
      flows.closing, flows.ending, flows.watches, flows.deadline]
    exact ((((writes.map _).append_right _).append_right _).append_right _).append_right _
  rw [instantsAhead, instantsAhead, flows.now]
  exact instants.countP_le

/-- No more lies ahead after a look, whether it kills the child or not. -/
theorem instantsAhead_look (s : Session) :
    s.look.1.instantsAhead ≤ s.instantsAhead := by
  have watches := LineStream.State.watches_look s.look_move
  replace watches : s.look.1.stream.watches = true → s.stream.watches = true :=
    watches
  have limit : (if s.look.1.stream.watches then s.deadline.toList else []).Sublist
      (if s.stream.watches then s.deadline.toList else []) := by
    split
    · next watched => simp [watches watched]
    · exact List.nil_sublist _
  show List.countP (fun t => s.now < t) (s.look.1.child.instants ++
    if s.look.1.stream.watches then s.deadline.toList else []) ≤ _
  rw [instantsAhead, instants, List.countP_append, List.countP_append]
  refine Nat.add_le_add ?_ limit.countP_le
  rw [Session.look, child_feed]
  split
  · have nothing : (s.child.killedAt s.now).instants.countP (fun t => s.now < t) = 0 := by
      rw [List.countP_eq_zero]
      intro t mem ahead
      exact Nat.not_lt_of_le (Timeline.le_of_mem_killedAt mem) (of_decide_eq_true ahead)
    rw [nothing]
    exact Nat.zero_le _
  · exact Nat.le_refl _

/-- At the next instant less lies ahead. -/
theorem instantsAhead_jump {t : Nat} (next : s.nextInstant? = some t) :
    instantsAhead { s with now := t } < s.instantsAhead := by
  obtain ⟨later, mem⟩ := nextInstant?_eq_some next
  exact countP_lt_of_mem later mem

/-! ### Calls come to an end -/

theorem Ends.settle (h : s.Ends) : s.settle.Ends := by
  have flows := s.flows_settle
  refine ⟨flows.endless.trans h.endless, ?_, ?_⟩
  · rw [flows.closing]
    exact h.closes
  · rw [flows.ending]
    exact h.ends

/-- Whatever happens to a session, its child still ends, perhaps earlier. -/
theorem Ends.feed (h : s.Ends) (e : LineStream.Event) : (s.feed e).1.Ends := by
  have killed : (s.child.killedAt s.now).endless = none ∧
      (s.child.killedAt s.now).closed ≠ none ∧ (s.child.killedAt s.now).ended ≠ none := by
    refine ⟨rfl, nofun, ?_⟩
    unfold Timeline.killedAt
    dsimp only
    split
    · split <;> nofun
    · nofun
  refine ⟨?_, ?_, ?_⟩
  · rw [child_feed]
    split
    · exact killed.1
    · exact h.endless
  · rw [child_feed]
    split
    · exact killed.2.1
    · exact h.closes
  · rw [child_feed]
    split
    · exact killed.2.2
    · exact h.ends

/-- If a look found nothing and there is no next instant, then what the child that has
settled does next, and what ends it, is past. -/
theorem past_of_nothing
    (nothing : s.settle.stream.poll false s.settle.child.delivery = (s.settle.stream, {}))
    (never : s.settle.look.1.nextInstant? = none) {t : Nat}
    (listed : (∃ w ws, s.settle.child.writes = w :: ws ∧ t = w.1) ∨ s.child.closed = some t ∨
      ∃ status, s.child.ended = some (t, status)) : t ≤ s.now := by
  have flows := s.flows_settle
  have child : s.settle.look.1.child = s.settle.child := by
    rw [Session.look, child_feed, LineStream.State.step, nothing]
    rfl
  rw [← flows.now]
  refine nextInstant?_eq_none never t ?_
  rw [nextInstants, child, flows.closing, flows.ending]
  rcases listed with ⟨w, ws, writes, rfl⟩ | closing | ⟨status, ending⟩
  · simp [writes]
  · simp [closing]
  · simp [ending]

/-- **While a call waits, something lies ahead.** -/
theorem not_stuck (h : s.Ends) (pending : s.stream.phase ≠ .idle)
    (looked : s.settle.look = (s', none))
    (still : s'.stream.phase = s.settle.stream.phase) : s'.nextInstant? ≠ none := by
  have flows := s.flows_settle
  have unanswered : (s.settle.stream.poll false s.settle.child.delivery).2.answer = none :=
    congrArg Prod.snd looked
  obtain rfl : s.settle.look.1 = s' := congrArg Prod.fst looked
  replace still : (s.settle.stream.poll false s.settle.child.delivery).1.phase =
      s.settle.stream.phase := still
  intro never
  cases hphase : s.settle.stream.phase with
  | idle => exact pending (flows.phase.symm.trans hphase)
  | receiving guarded =>
      obtain ⟨nothing, opened⟩ := LineStream.State.open_of_still hphase unanswered still
      rcases ahead_of_open h.endless opened with more | later
      · obtain ⟨w, ws, writes⟩ := List.exists_cons_of_ne_nil more
        have due := past_of_nothing nothing never (.inl ⟨w, ws, writes, rfl⟩)
        exact Nat.not_lt_of_le due (ahead_of_writes writes)
      · obtain ⟨t, closing⟩ := Option.ne_none_iff_exists'.mp h.closes
        have due := past_of_nothing nothing never (.inr (.inl closing))
        exact Nat.not_lt_of_le due (later t closing)
  | reaping guarded =>
      obtain ⟨nothing, running⟩ := LineStream.State.running_of_still hphase unanswered still
      obtain ⟨⟨t, status⟩, ending⟩ := Option.ne_none_iff_exists'.mp h.ends
      have due := past_of_nothing nothing never (.inr (.inr ⟨status, ending⟩))
      exact Nat.not_lt_of_le due (ahead_of_running running ending)

/-- A look that is not answered leaves no more ahead, and no more looks. -/
theorem Ends.unanswered (h : s.Ends) (looked : s.settle.look = (s', none)) :
    s'.Ends ∧ s'.instantsAhead ≤ s.instantsAhead ∧
      (s'.stream.phase = s.stream.phase ∨
        LineStream.State.looksLeft s'.stream.phase <
          LineStream.State.looksLeft s.stream.phase) := by
  have unanswered : s.settle.look.2 = none := congrArg Prod.snd looked
  have turns := LineStream.State.looksLeft_look s.settle.look_move unanswered
  rw [s.flows_settle.phase] at turns
  obtain rfl : s.settle.look.1 = s' := congrArg Prod.fst looked
  exact ⟨h.settle.feed _, Nat.le_trans s.settle.instantsAhead_look s.instantsAhead_settle, turns⟩

/-- A call that waits is answered, if it may look often enough. -/
theorem Ends.wait (h : s.Ends) (taking : s.Taking) (pending : s.stream.phase ≠ .idle)
    {fuel : Nat}
    (enough : s.instantsAhead + LineStream.State.looksLeft s.stream.phase < fuel) :
    (s.wait fuel none).1.Ends ∧ ∃ a, (s.wait fuel none).2 = .answer a := by
  induction fuel generalizing s with
  | zero => exact absurd enough (Nat.not_lt_zero _)
  | succ fuel ih =>
      have round := s.wait_round fuel
      generalize s.wait (fuel + 1) none = r at round
      cases round with
      | answered looked =>
          have ends : s.settle.look.1.Ends := h.settle.feed _
          rw [looked] at ends
          exact ⟨ends, _, rfl⟩
      | turned looked turned =>
          rw [s.flows_settle.phase] at turned
          obtain ⟨taking', waits⟩ := taking.unanswered pending looked
          obtain ⟨ends, fewer, same | looks⟩ := h.unanswered looked
          · exact absurd same turned
          · exact ih ends taking' waits (by omega)
      | @slept s' t looked still next =>
          rw [s.flows_settle.phase] at still
          obtain ⟨taking', waits⟩ := taking.unanswered pending looked
          obtain ⟨ends, fewer, -⟩ := h.unanswered looked
          have jump := instantsAhead_jump next
          refine ih (s := { s' with now := t }) ⟨ends.1, ends.2, ends.3⟩
            ⟨taking'.sound, taking'.kept⟩ waits ?_
          rw [still]
          omega
      | stuck looked still never => exact absurd never (not_stuck h pending looked still)

/-- The bound on the looks of a call leaves enough of them. -/
theorem instantsAhead_lt_patience (s : Session) :
    s.instantsAhead + LineStream.State.looksLeft s.stream.phase < s.patience := by
  have single (o : Option Nat) : o.toList.length ≤ 1 := by
    cases o with
    | none => exact Nat.zero_le 1
    | some t => exact Nat.le_refl 1
  have endless := single (s.child.endless.map (·.1))
  have closed := single s.child.closed
  have ended := single (s.child.ended.map (·.1))
  have limit : (if s.stream.watches then s.deadline.toList else []).length ≤ 1 := by
    split
    · exact single s.deadline
    · exact Nat.zero_le 1
  have counted : s.instantsAhead ≤ s.instants.length := List.countP_le_length
  have listed : s.instants.length ≤ s.child.writes.length + 4 := by
    rw [instants, Timeline.instants]
    simp only [List.length_append, List.length_map]
    omega
  have looks : LineStream.State.looksLeft s.stream.phase ≤ 4 := by
    cases s.stream.phase with
    | idle => exact Nat.zero_le 4
    | receiving guarded => exact (LineStream.State.looksLeft_receiving_bounds guarded).2
    | reaping guarded =>
        exact Nat.le_trans (LineStream.State.looksLeft_reaping_le guarded) (by decide)
  rw [patience]
  omega

/-- **Every call is answered**, if the child closes its output and ends. -/
theorem Ends.next (h : s.Ends) (taking : s.Taking) :
    (s.next none).1.Ends ∧ ∃ a, (s.next none).2 = .answer a := by
  have called := taking.call
  have ends := h.feed .call
  rw [Session.next]
  generalize s.feed .call = r at called ends ⊢
  obtain ⟨s', answer⟩ := r
  obtain ⟨⟨taking', -⟩, ⟨rfl, waits⟩ | ⟨rfl, -⟩⟩ := called
  · exact Ends.wait ends taking' waits s'.instantsAhead_lt_patience
  · exact ⟨ends, _, rfl⟩

/-- Without an output without end no session floods. -/
theorem Ends.not_flooding (h : s.Ends) : ¬ s.Flooding := by
  intro floods
  obtain ⟨_, _, endless, -⟩ := floods.endless
  rw [h.endless] at endless
  cases endless

/-- **Asking for lines comes to an end**, if the child closes its output and ends. -/
theorem Ends.exists_drains (h : s.Ends) (taking : s.Taking) :
    ∃ s' lines a, s.Drains s' lines a := by
  -- Every line that is answered is one less that is left.
  induction left : s.linesComing using Nat.strongRecOn generalizing s with
  | _ n ih =>
      have asks := taking.next
      have answers := h.next taking
      generalize asked : s.next none = r at asks answers
      obtain ⟨s', reply⟩ := r
      obtain ⟨ends, a, rfl⟩ := answers
      obtain ⟨taking', floods | fewer⟩ := asks
      · exact absurd floods ends.not_flooding
      · cases a with
        | finished => exact ⟨s', [], _, .last asked rfl⟩
        | failed f => exact ⟨s', [], _, .last asked rfl⟩
        | line text =>
            have less : s'.linesComing < n := by
              rw [← left]
              exact fewer
            obtain ⟨s'', lines, a, rest⟩ := ih _ less ends taking' rfl
            exact ⟨s'', text :: lines, a, .line asked rest⟩

end

end Session

end ExitContract
