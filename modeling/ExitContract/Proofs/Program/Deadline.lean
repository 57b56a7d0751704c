import ExitContract.Program.Run
import ExitContract.Proofs.Program.Asked

/-!
# Limits and the clock

A limit is turned into an instant as soon as the command was started: what the clock shows
then, and the limit added to it. A clock whose seconds are signed 64-bit numbers does not
reach every such instant, and nothing is asked before the addition. So a command that was
started may still stop the whole program, with neither a stream nor a failure to show for
it.

**How far a limit reaches.** A limit comes in seconds from the command line and from the
configuration, where any unsigned 64-bit number is one, and in nanoseconds from a caller.
What counts is the second that the sum falls in. For a limit in whole seconds that is the
second which the clock shows plus the limit (`Duration.fitsAfter_ofSeconds`), so about half
of the numbers that may be given lie beyond the clock, whenever it is read.

## Main statements

* `Session.openAt_started` — what starting a command comes to, if there is a child
* `Session.limit_within_clock_iff` — when that is a stream, and when it is nothing
-/

namespace ExitContract

namespace Duration

theorem fitsAfter_iff (reading : Int) (d : Duration) :
    d.fitsAfter reading = true ↔ (reading + d.nanoseconds) / perSecond ≤ lastSecond :=
  decide_eq_true_iff

/-- A limit in whole seconds is added to the second that the clock shows. -/
theorem fitsAfter_ofSeconds (reading : Int) (n : Nat) :
    (ofSeconds n).fitsAfter reading = true ↔ reading / perSecond + n ≤ lastSecond := by
  have second : (perSecond : Int) ≠ 0 := by decide
  rw [fitsAfter_iff, ofSeconds, Int.natCast_mul, Int.add_mul_ediv_right _ _ second]

end Duration

open Duration (perSecond lastSecond)

namespace Session

variable (reading : Int) (c : Command) (o : Options) (child : Timeline)

/-- What starting a command comes to, if there is a child. -/
theorem openAt_started :
    (openAt reading c o (.ok child)).result =
      let begun := Event.debug .stream ("Executing streamed: " ++ c.render)
      match child.unwatched with
      | some cause => .failed (.inputOutput c.render "" cause)
      | none =>
        if o.timeout.isZero then .opened (start c o child none [begun])
        else if o.timeout.fitsAfter reading then
          .opened (start c o child (some o.timeout.nanoseconds) [begun])
        else .beyondClock := by
  rw [openAt]
  cases child.unwatched with
  | some cause => rfl
  | none =>
      dsimp only
      split_ifs <;> rfl

theorem openAt_eq_beyondClock_iff :
    (openAt reading c o (.ok child)).result = .beyondClock ↔
      child.unwatched = none ∧ o.timeout.isZero = false ∧ o.timeout.fitsAfter reading = false := by
  rw [openAt_started]
  cases child.unwatched with
  | some cause => simp
  | none =>
      dsimp only
      split_ifs with unlimited fits <;> simp [*]

/-- **When a command that was started comes to a stream.** Whatever the clock shows, the
start of a command ends in one of three ways. Without a child, or without a reader of its
output, it is a failure that says why. With both it is a stream, which watches the limit
if there is one, if and only if there is none or the clock can show the instant at which
it ends. Otherwise it is nothing at all. In particular that is so for a limit in seconds, from
the command line or else from the configuration, if it is not zero and the second which the
clock shows plus the limit is beyond the last second of the clock. -/
theorem limit_within_clock_iff :
    let opening := (openAt reading c o (.ok child)).result
    let within := (reading + o.timeout.nanoseconds) / perSecond ≤ lastSecond
    (∀ cause, (openAt reading c o (.error cause)).result =
        .failed (.launch c.executable c.render cause)) ∧
      (∀ cause, child.unwatched = some cause →
        opening = .failed (.inputOutput c.render "" cause)) ∧
      ((∃ s, opening = .opened s ∧ s.stream = .start c.render o ∧
          s.deadline = if o.timeout.isZero then none else some o.timeout.nanoseconds) ↔
        child.unwatched = none ∧ (o.timeout.isZero = true ∨ within)) ∧
      (opening = .beyondClock ↔
        child.unwatched = none ∧ o.timeout.isZero = false ∧ ¬ within) ∧
      ∀ (q : StreamRequest) (config : Config),
        let seconds := (q.timeout.getD config.defaults.timeout).toNat
        (openAt reading c (q.applyTo config.options) (.ok child)).result = .beyondClock ↔
          child.unwatched = none ∧ seconds ≠ 0 ∧
            lastSecond < reading / perSecond + seconds := by
  intro opening within
  have fits : o.timeout.fitsAfter reading = true ↔ within :=
    Duration.fitsAfter_iff reading o.timeout
  have started : opening = _ := openAt_started reading c o child
  refine ⟨fun cause => rfl, ?_, ?_, ?_, ?_⟩
  · intro cause unwatched
    rw [started, unwatched]
  · rw [← fits, started]
    cases child.unwatched with
    | some cause => simp
    | none =>
        dsimp only
        split_ifs with unlimited reaches
        · exact ⟨fun _ => ⟨rfl, .inl unlimited⟩, fun _ => ⟨_, rfl, rfl, rfl⟩⟩
        · exact ⟨fun _ => ⟨rfl, .inr reaches⟩, fun _ => ⟨_, rfl, rfl, rfl⟩⟩
        · constructor
          · rintro ⟨s, impossible, -⟩
            cases impossible
          · rintro ⟨-, zero | reaches'⟩
            · exact absurd zero unlimited
            · exact absurd reaches' reaches
  · rw [← fits, Bool.not_eq_true]
    exact openAt_eq_beyondClock_iff reading c o child
  · intro q config seconds
    have settled : (q.applyTo config.options).timeout = .ofSeconds seconds :=
      (q.settles config).timeout
    rw [openAt_eq_beyondClock_iff, settled, ← Bool.not_eq_true, ← Bool.not_eq_true,
      Duration.isZero_ofSeconds, Duration.fitsAfter_ofSeconds, not_le]

/-- The longest limit that the command line admits stops the program, whatever the clock
shows, once the command was started. -/
theorem limit_beyond_clock :
    let w : World := { files := ⟨[]⟩, directory := [], environment := ⟨[]⟩ }
    let line := ["procwrap", "stream", "-t", "18446744073709551615", "--", "true"].map
      Utf8.encode
    let child : Timeline :=
      { writes := [], endless := none, closed := some 1, ended := some (1, .exited 0) }
    ∃ p o, (w.plan line).result = .ok p ∧ p.task = .stream ⟨"true", []⟩ o ∧
      o.timeout = .ofSeconds 18446744073709551615 ∧
      ∀ reading : Int, 0 ≤ reading →
        (openAt reading ⟨"true", []⟩ o (.ok child)).result = .beyondClock := by
  intro w line child
  let e : Execution := ⟨none, none, false, none, [], ["true"]⟩
  let q : StreamRequest := ⟨some 18446744073709551615, none, false, e⟩
  let r : Request := ⟨false, none, .stream q⟩
  have asks : w.Asks line r Config.default :=
    ⟨⟨_, rfl, rfl⟩, World.loadConfig_of_silent (by decide +kernel) rfl⟩
  have planned := World.plan_eq_ok_iff.mpr ⟨r, .default, asks, rfl⟩
  have limit : (q.applyTo Config.default.options).timeout = .ofSeconds 18446744073709551615 :=
    (q.settles Config.default).timeout
  refine ⟨_, _, planned, rfl, limit, ?_⟩
  intro reading counted
  have shown : 0 ≤ reading / perSecond := Int.ediv_nonneg counted (by decide)
  show (openAt reading _ (q.applyTo Config.default.options) _).result = _
  rw [openAt_eq_beyondClock_iff, limit, ← Bool.not_eq_true, ← Bool.not_eq_true,
    Duration.isZero_ofSeconds, Duration.fitsAfter_ofSeconds, lastSecond]
  refine ⟨rfl, by decide, ?_⟩
  omega

end Session

end ExitContract
