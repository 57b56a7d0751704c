import ExitContract.Proofs.LineStream.Verdict

/-!
# Signals of a stream

Whom a stream kills and when, and from which moment on it harms nobody any more.

A stream sends signals in three places: a pending call finds that the limit has
passed while it waits for a line, or while it waits for the child, and a caller lets
go of the stream. The three share four marks of the state: that the child was killed
for its limit, that it leads a group of its own, that it has been waited for, and the
exit code.

**Why the group is the danger.** A group goes by the number of the child that leads
it. As soon as the child has been waited for, the system may give that number away,
and a signal to the group reaches strangers. So a signal to the group must find the
child under a limit, since only then is there a group, and not yet waited for.

**Signals that are not delivered.** The system may refuse a signal. When that happens
to the one for the group, a stream whose limit has passed tries the child alone. This
one must find the child not yet waited for as well. What the signals come to is
a part of the event, so all of this is shown whatever becomes of them.

**What keeps the marks together.** The exit code and the wait for the child come in
one step, and so does the verdict. A stream with an exit code is therefore done, has
no pending call that could still find the limit, and has nothing left to kill when it
is dropped. A call, on the other hand, watches the limit only if there is one and it
has not struck, which is what makes the kill come once.

## Main definitions

* `LineStream.limitKills` — how many kills for the limit a history has
* `LineStream.State.Restrained` — what ties the marks together

## Main statements

* `LineStream.State.signal_cases` — the only two ways to send a signal
* `LineStream.State.limitKills_run` — the kills of a history
* `LineStream.State.silent_run` — after the exit code there are no signals
* `LineStream.kill_safety` — all of it together
-/

namespace ExitContract

namespace LineStream

/-- How often the child is killed for its limit in a history. -/
def limitKills (outs : List Output) : Nat := outs.countP Output.struck

@[simp] theorem limitKills_cons (out : Output) (outs : List Output) :
    limitKills (out :: outs) = out.struck.toNat + limitKills outs := by
  cases h : out.struck <;> simp [limitKills, h, Nat.add_comm]

/-- Whether the limit is among the things that a call waits for. -/
def Phase.watchesLimit : Phase → Bool
  | .idle => false
  | .receiving guarded => guarded
  | .reaping guarded => guarded

namespace State

/-- What ties together the marks that decide about signals. -/
structure Restrained (s : State) : Prop where
  /-- A call watches a limit only if there is one and it has not struck. -/
  watching : s.phase.watchesLimit = true → s.timed = true ∧ s.killed = false
  /-- Only a child under a limit is killed for it. -/
  timed_of_killed : s.killed = true → s.timed = true
  /-- The exit code comes with the wait for the child. -/
  reaped_eq : s.reaped = s.exitCode.isSome

section

variable {s s' : State} {e : Event} {out : Output}

/-- A stream that has just been started is restrained. -/
theorem restrained_start (command : String) (options : Options) :
    (start command options).Restrained where
  watching := nofun
  timed_of_killed := nofun
  reaped_eq := rfl

theorem watches_iff : s.watches = true ↔ s.timed = true ∧ s.killed = false := by
  simp [watches]

/-- Every rule keeps a stream restrained. -/
theorem Restrained.move (h : s.Restrained) (m : Move s e s' out) : s'.Restrained := by
  cases m with
  -- the first rules leave all the marks alone, and the next ones end the call
  | still | late | arrive | close | exit | expire | refuse | drop =>
      exact ⟨h.watching, h.timed_of_killed, h.reaped_eq⟩
  | deliver | cancel | lose => exact ⟨nofun, h.timed_of_killed, h.reaped_eq⟩
  | reap => exact ⟨nofun, h.timed_of_killed, rfl⟩
  | ask | drain =>
      exact ⟨watches_iff.mp, h.timed_of_killed, h.reaped_eq⟩
  | killReceiving _ receiving =>
      have watched := h.watching (by rw [receiving]; rfl)
      exact ⟨nofun, fun _ => watched.1, h.reaped_eq⟩
  | killReaping _ reaping =>
      have watched := h.watching (by rw [reaping]; rfl)
      exact ⟨nofun, fun _ => watched.1, h.reaped_eq⟩

end

section

variable (command : String) (options : Options) (history : List Event)

/-- Every history leads to a restrained state. -/
theorem restrained_run : ((start command options).run history).1.Restrained :=
  run_invariant Restrained.move (restrained_start command options) history

/-- Whether the child is under a limit is settled at the start. -/
theorem timed_run :
    ((start command options).run history).1.timed = !options.timeout.isZero := by
  rw [timed, (setup_run _ history).2]
  rfl

/-- Without a limit the child is never killed for it. -/
theorem spared_of_unlimited (unlimited : options.timeout.isZero = true) :
    ((start command options).run history).1.killed = false := by
  apply eq_false_of_ne_true
  intro killed
  have limited := (restrained_run command options history).timed_of_killed killed
  rw [timed_run, unlimited] at limited
  cases limited

end

section

variable {s s' : State} {e : Event} {out : Output} {d : Delivery}

/-! ### The two ways to send a signal -/

/-- **The only two ways to send a signal** are to find the limit while a call watches
it, and to be dropped. -/
theorem signal_cases (m : Move s e s' out) :
    (out.signals = [] ∧ out.struck = false ∧ s'.killed = s.killed) ∨
      (∃ limitFirst d, e = .poll limitFirst d ∧ s.phase.watchesLimit = true ∧
        out = (s.kill d).2 ∧ s'.killed = true) ∨
      ∃ d, e = .drop d ∧ out = (s.drop d).2 ∧ s'.killed = s.killed := by
  cases m with
  | @killReceiving limitFirst d receiving =>
      exact .inr (.inl ⟨limitFirst, d, rfl, by rw [receiving]; rfl, rfl, rfl⟩)
  | @killReaping limitFirst d reaping =>
      exact .inr (.inl ⟨limitFirst, d, rfl, by rw [reaping]; rfl, rfl, rfl⟩)
  | @drop d => exact .inr (.inr ⟨d, rfl, rfl, rfl⟩)
  | _ => exact .inl ⟨rfl, rfl, rfl⟩

/-- While a call watches the limit there is no exit code. -/
theorem Sound.exitCode_of_watching (sound : s.Sound)
    (watching : s.phase.watchesLimit = true) : s.exitCode = none := by
  have pending : s.phase ≠ .idle := by
    intro idle
    rw [idle] at watching
    cases watching
  exact sound.exitCode_of_undone (eq_false_of_ne_true (sound.undone_of_pending pending))

/-- The child of a call that watches the limit leads a group, and it has not been waited
for. -/
theorem Restrained.leads_of_watching (h : s.Restrained) (sound : s.Sound)
    (watching : s.phase.watchesLimit = true) : s.timed = true ∧ s.reaped = false := by
  rw [h.reaped_eq, sound.exitCode_of_watching watching]
  exact ⟨(h.watching watching).1, rfl⟩

/-- Being killed for the limit strikes the whole group, and the child alone if the
signal to the group is not delivered. -/
theorem kill_signals (timed : s.timed = true) (running : s.reaped = false) (d : Delivery) :
    (s.kill d).2.signals =
      ⟨.group, d.group⟩ :: if d.group = none then [] else [⟨.child, d.child⟩] := by
  cases group : d.group <;>
    simp [kill, killSomehow, killGroup, killChild, leads, timed, running, group, Signal.arrived]

/-- What is said of a kill for the limit: a notice, and a complaint for each signal that
was not delivered. -/
theorem kill_log (timed : s.timed = true) (running : s.reaped = false) (d : Delivery) :
    (s.kill d).2.log.length = 1 + (s.kill d).2.signals.countP fun g => !g.arrived := by
  rw [kill_signals timed running]
  cases group : d.group <;> cases child : d.child <;>
    simp [kill, killSomehow, killGroup, killChild, leads, timed, running, group, child,
      Signal.arrived]

/-- Being dropped strikes a child that has not been waited for: its group if it leads
one, and the child itself unless it was struck before. -/
theorem Restrained.drop_signals (h : s.Restrained) (d : Delivery) :
    (s.drop d).2.signals =
      if s.exitCode.isSome then []
      else (if s.timed then [⟨.group, d.group⟩] else []) ++
        if s.armed then [⟨.child, d.child⟩] else [] := by
  rw [drop, h.reaped_eq, killGroup, leads, h.reaped_eq]
  cases s.exitCode <;> cases s.timed <;> cases s.armed <;> rfl

/-! ### Signals of a history -/

/-- A rule that kills for the limit is the kill of a call. -/
theorem Restrained.strike (h : s.Restrained) (sound : s.Sound) (m : Move s e s' out)
    (struck : out.struck = true) :
    ∃ limitFirst d, e = .poll limitFirst d ∧ out.signals =
      ⟨.group, d.group⟩ :: (if d.group = none then [] else [⟨.child, d.child⟩]) ∧
      out.log.length = 1 + out.signals.countP fun g => !g.arrived := by
  rcases signal_cases m with
    ⟨-, quiet, -⟩ | ⟨limitFirst, d, poll, watching, rfl, -⟩ | ⟨_, -, rfl, -⟩
  · rw [quiet] at struck
    cases struck
  · obtain ⟨timed, running⟩ := h.leads_of_watching sound watching
    exact ⟨limitFirst, d, poll, kill_signals timed running d, kill_log timed running d⟩
  · cases struck

/-- A rule kills for the limit if it marks the child as killed, and only then. -/
theorem struck_move (h : s.Restrained) (m : Move s e s' out) :
    out.struck.toNat + s.killed.toNat = s'.killed.toNat := by
  rcases signal_cases m with ⟨-, quiet, same⟩ | ⟨_, _, -, watching, rfl, marked⟩ | ⟨_, -, rfl, same⟩
  · rw [quiet, same, Bool.toNat_false, Nat.zero_add]
  · rw [(h.watching watching).2, marked]
    rfl
  · rw [same]
    exact Nat.zero_add _

/-- The kills of a history, with the one before it, are told by the mark of the
state. -/
theorem limitKills_run (h : s.Restrained) (history : List Event) :
    limitKills (s.run history).2 + s.killed.toNat = (s.run history).1.killed.toNat := by
  induction history generalizing s with
  | nil => exact Nat.zero_add _
  | cons e es ih =>
      have m := step_move s e
      -- both sides count the first step, whose kill is the change of the mark
      rw [run_cons, limitKills_cons, ← ih (h.move m), ← struck_move h m]
      omega

/-- A signal finds a child that has not been waited for, and one to a group finds a child
that leads one. -/
theorem Restrained.signal_safe (h : s.Restrained) (sound : s.Sound) (m : Move s e s' out)
    {g : Signal} (sent : g ∈ out.signals) :
    s.reaped = false ∧ (g.target = .group → s.timed = true) := by
  rcases signal_cases m with ⟨silent, -, -⟩ | ⟨_, d, -, watching, rfl, -⟩ | ⟨d, -, rfl, -⟩
  · rw [silent] at sent
    cases sent
  · obtain ⟨timed, running⟩ := h.leads_of_watching sound watching
    exact ⟨running, fun _ => timed⟩
  · rw [h.drop_signals] at sent
    rw [h.reaped_eq]
    cases known : s.exitCode with
    | some code => simp [known] at sent
    | none =>
        refine ⟨rfl, fun group => ?_⟩
        cases timed : s.timed with
        | true => rfl
        | false =>
            -- without a limit the only signal is the one to the child alone
            have alone : s.armed = true ∧ g = ⟨.child, d.child⟩ := by
              simpa [known, timed] using sent
            rw [alone.2] at group
            cases group

/-- Only a delivered signal to the child alone disarms a stream. -/
theorem disarmed_move (m : Move s e s' out) (disarmed : s'.armed = false) :
    s.armed = false ∨ ⟨.child, none⟩ ∈ out.signals := by
  have kill (d : Delivery) (now : (s.kill d).1.armed = false) :
      s.armed = false ∨ ⟨.child, none⟩ ∈ (s.kill d).2.signals := by
    cases armed : s.armed with
    | false => exact .inl rfl
    | true => exact .inr (by simpa [kill, armed] using now)
  cases m with
  | killReceiving | killReaping => exact kill _ disarmed
  | _ => exact .inl disarmed

/-- **A stream that was disarmed has reached its child.** -/
theorem disarmed_run (history : List Event) (disarmed : (s.run history).1.armed = false) :
    s.armed = false ∨ ∃ out ∈ (s.run history).2, ⟨.child, none⟩ ∈ out.signals := by
  induction history generalizing s with
  | nil => exact .inl disarmed
  | cons e es ih =>
      rw [run_cons] at disarmed ⊢
      rcases ih disarmed with earlier | ⟨out, later, reached⟩
      · exact (disarmed_move (step_move s e) earlier).imp_right fun reached =>
          ⟨_, List.mem_cons_self, reached⟩
      · exact .inr ⟨out, List.mem_cons_of_mem _ later, reached⟩

/-- With an exit code no rule signals. -/
theorem Restrained.silent_move (h : s.Restrained) (sound : s.Sound)
    (m : Move s e s' out) (known : s.exitCode ≠ none) : out.signals = [] := by
  rcases signal_cases m with ⟨silent, -, -⟩ | ⟨_, _, -, watching, -, -⟩ | ⟨d, -, rfl, -⟩
  · exact silent
  · exact absurd (sound.exitCode_of_watching watching) known
  · rw [h.drop_signals, if_pos (Option.isSome_iff_ne_none.mpr known)]

/-- **With an exit code nothing signals any more**, however the history goes on. -/
theorem silent_run (h : s.Restrained) (sound : s.Sound) (known : s.exitCode ≠ none)
    (later : List Event) : ∀ out ∈ (s.run later).2, out.signals = [] := by
  induction later generalizing s with
  | nil => nofun
  | cons e es ih =>
      have m := step_move s e
      -- an exit code is never lost, so the rest of the history starts with one as well
      have known' : (s.step e).1.exitCode ≠ none := by
        obtain ⟨code, seen⟩ := Option.ne_none_iff_exists'.mp known
        rw [(leads_move sound m).exitCode code seen]
        nofun
      rw [run_cons]
      intro out mem
      rcases List.mem_cons.mp mem with rfl | mem
      · exact h.silent_move sound m known
      · exact ih (h.move m) (sound.move m) known' out mem

end

end State

/-- **A stream kills once, and never a stranger.** After any history of a stream, with
calls given up, the stream dropped and signals not delivered wherever the history says:

* the child was killed for its limit at most once, and the mark says whether it was;
  without a limit it never is;
* a step that kills for the limit is a look of a call; it strikes the whole group of the
  child and, exactly if that signal is not delivered, the child alone, and complains of
  each of these signals that is not delivered;
* a stream that is dropped before its exit code is known strikes the group, if there is a
  limit, and the child, unless a signal to the child alone was delivered before;
* every signal of any step finds a child that has not been waited for, so that its number
  is still its own, and one to a group finds a child under a limit, so that it leads one;
* once the exit code is known, nothing that happens later sends a signal. -/
theorem kill_safety (command : String) (options : Options) (history : List Event) :
    let s := ((State.start command options).run history).1
    let outs := ((State.start command options).run history).2
    (limitKills outs ≤ 1 ∧ (s.killed = true ↔ limitKills outs = 1) ∧
        (options.timeout.isZero = true → limitKills outs = 0 ∧ s.killed = false)) ∧
      (∀ e, let out := (s.step e).2
        out.struck = true → ∃ limitFirst d, e = .poll limitFirst d ∧ out.signals =
          ⟨.group, d.group⟩ :: (if d.group = none then [] else [⟨.child, d.child⟩]) ∧
          out.log.length = 1 + out.signals.countP fun g => !g.arrived) ∧
      ((∀ d, (s.drop d).2.signals =
          if s.exitCode.isSome then []
          else (if options.timeout.isZero then [] else [⟨.group, d.group⟩]) ++
            if s.armed then [⟨.child, d.child⟩] else []) ∧
        (s.armed = false → ∃ out ∈ outs, ⟨.child, none⟩ ∈ out.signals)) ∧
      (∀ e, ∀ g ∈ (s.step e).2.signals,
        s.reaped = false ∧ (g.target = .group → options.timeout.isZero = false)) ∧
      (s.exitCode ≠ none → ∀ later, ∀ out ∈ (s.run later).2, out.signals = []) := by
  intro s outs
  have sound : s.Sound := State.sound_run command options history
  have restrained : s.Restrained := State.restrained_run command options history
  have timed : s.timed = !options.timeout.isZero := State.timed_run command options history
  have kills : limitKills outs = s.killed.toNat :=
    State.limitKills_run (State.restrained_start command options) history
  refine ⟨⟨?_, ?_, ?_⟩, ?_, ⟨?_, ?_⟩, ?_, State.silent_run restrained sound⟩
  · rw [kills]
    exact Bool.toNat_le s.killed
  · rw [kills, Bool.toNat_eq_one]
  · intro unlimited
    have spared : s.killed = false :=
      State.spared_of_unlimited command options history unlimited
    rw [kills, spared]
    exact ⟨rfl, rfl⟩
  · intro e out struck
    exact restrained.strike sound (s.step_move e) struck
  · intro d
    rw [restrained.drop_signals, timed]
    cases options.timeout.isZero <;> rfl
  · intro disarmed
    exact (State.disarmed_run history disarmed).resolve_left nofun
  · intro e g sent
    obtain ⟨running, group⟩ := restrained.signal_safe sound (s.step_move e) sent
    rw [timed, Bool.not_eq_true'] at group
    exact ⟨running, group⟩

/-- A call that waits for a line finds that the limit has passed. The signal to the group is
not delivered, so the child alone is killed, and two warnings tell of that. The call is given
up, and another one learns the exit code, after which nothing signals. With no limit the same
history kills nobody. -/
theorem kill_safety_after_kill :
    let limited := { Options.default with timeout := .ofMilliseconds 500 }
    let before : List Event := [.arrive "hi", .call, .poll false, .call, .expire]
    let look : Event := .poll true { group := some .noProcess }
    let history := before ++
      [look, .cancel, .close, .exit (.ok (.signalled 9)), .call, .poll false, .poll false]
    let waiting := ((State.start "sh" limited).run before).1
    let s := ((State.start "sh" limited).run history).1
    let outs := ((State.start "sh" limited).run history).2
    let free := (State.start "sh" Options.default).run history
    (waiting.step look).2.struck = true ∧
      (waiting.step look).2.signals = [⟨.group, some .noProcess⟩, ⟨.child, none⟩] ∧
      (waiting.step look).2.log.length = 2 ∧ waiting.reaped = false ∧
      s.exitCode = some (-9) ∧ limitKills outs = 1 ∧
      (∀ later, ∀ out ∈ (s.run later).2, out.signals = []) ∧
      Options.default.timeout.isZero = true ∧ limitKills free.2 = 0 ∧
      free.1.killed = false := by
  intro limited before look history waiting s outs free
  have struck : (waiting.step look).2.struck = true := by rfl
  obtain ⟨-, strikes, -, safe, -⟩ := kill_safety "sh" limited before
  obtain ⟨_, d, same, signals, complaints⟩ := strikes look struck
  obtain ⟨-, rfl⟩ := Event.poll.inj same
  have member : ⟨.child, none⟩ ∈ (waiting.step look).2.signals := by
    rw [signals]
    exact List.mem_cons_of_mem _ List.mem_cons_self
  rw [signals] at complaints
  have known : s.exitCode = some (-9) := by rfl
  obtain ⟨⟨-, once, -⟩, -, -, -, silent⟩ := kill_safety "sh" limited history
  obtain ⟨⟨-, -, unlimited⟩, -⟩ := kill_safety "sh" Options.default history
  obtain ⟨none, spared⟩ := unlimited rfl
  exact ⟨struck, signals, complaints, (safe look _ member).1, known, once.mp rfl,
    silent (by rw [known]; nofun), rfl, none, spared⟩

end LineStream

end ExitContract
