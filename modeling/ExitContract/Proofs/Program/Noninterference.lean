import ExitContract.Proofs.ArgumentFile.Followed
import ExitContract.Proofs.Program.Asked
import ExitContract.Proofs.Program.OneDuration

/-!
# Results without regard to logs

How much the program says about its work is settled in four places: a flag, two settings and
a variable. None of them has a part in what it prints or in the status that it ends with.

**Two runs.** This is a statement about pairs of runs. Their lines may differ in the flag,
their variables in those for the log, and their configuration files in what these say about
the log. Everything else that happens is the same: the commands that are started, the files
that are there and what the readers take.

**From lines to tasks.** Lines are expanded to the same words but for the flag
(`expandCommandLine_congr`, `expandCommandLine_flagged`), these are read as requests for the
same action (`CommandLine.parse_congr`, `CommandLine.parse_flagged`), and configurations with
the same settings for commands are loaded for them (`World.SameButLog.configured`). So the
tasks are the same. Doing a task and handing its output over asks for nothing that has to do
with logs, except for time.

**What has to be ruled out.** There are two ways from logs to results. A line may name an
argument file with a variable for logs in the name, and then another file is read, with other
arguments in it. And a program that shall say more stops if nobody takes what it says
(`Host.run_unlike`).

## Main definitions

* `SameButFlag` — two lines that differ in the flag at most
* `Host.Alike` — two hosts in which the same happens
* `Host.SameResult` — two tasks that were done with the same result

## Main statements

* `World.SameButLog.asked` — two lines ask for the same, with the same settings
* `Host.Alike.perform`, `Host.Alike.print` — the same task comes to the same result
* `Host.run_alike` — what is logged interferes with nothing
-/

namespace ExitContract

open ArgumentFile (reference? separator)
open CommandLine (Flagged parse_congr parse_flagged)
open ReferenceTree (contents)

/-! ### From lines to tasks -/

/-- Two lines with their requests differ at most in the flag for more words: they are the same,
or the flag is in one of them and makes its request say more. -/
inductive SameButFlag (r₁ r₂ : Request) : List Bytes → List Bytes → Prop
  | same (line : List Bytes) : SameButFlag r₁ r₂ line line
  | raised {words words' : List Bytes} (program : Bytes) : Flagged words words' →
      r₁.verbose = false → r₂.verbose = true →
        SameButFlag r₁ r₂ (program :: words) (program :: words')
  | lowered {words words' : List Bytes} (program : Bytes) : Flagged words' words →
      r₁.verbose = true → r₂.verbose = false →
        SameButFlag r₁ r₂ (program :: words) (program :: words')

namespace World

variable {w w₁ w₂ : World} {r r₁ r₂ : Request} {c₁ c₂ : Config} {line line₁ line₂ : List Bytes}
  {explicit : Option String}

/-- A line is read as a request, whether or not there is a configuration for it. -/
def Reads (w : World) (line : List Bytes) (r : Request) : Prop :=
  ∃ words, (w.expandCommandLine line).result = .ok words ∧
    CommandLine.parse w.environment words = .ok r

theorem Reads.unique (read₁ : w.Reads line r₁) (read₂ : w.Reads line r₂) : r₁ = r₂ := by
  obtain ⟨words, expanded, parsed⟩ := read₁
  obtain ⟨words', expanded', parsed'⟩ := read₂
  cases expanded.symm.trans expanded'
  exact Except.ok.inj (parsed.symm.trans parsed')

/-- A flag that makes a request say more does nothing else to it. -/
theorem Reads.flagged {program : Bytes} {words words' : List Bytes}
    (flagged : Flagged words words') (read₁ : w.Reads (program :: words) r₁)
    (read₂ : w.Reads (program :: words') r₂) (quiet : r₁.verbose = false)
    (loud : r₂.verbose = true) : r₁.action = r₂.action ∧ r₁.config = r₂.config := by
  obtain ⟨out₁, expanded₁, parsed₁⟩ := read₁
  obtain ⟨out₂, expanded₂, parsed₂⟩ := read₂
  obtain ⟨rest, rest', rfl, rfl, flagged⟩ :=
    expandCommandLine_flagged program flagged _ _ expanded₁ expanded₂
  exact parse_flagged flagged parsed₁ parsed₂ quiet loud

/-- A line is read as the same request where the references in it lead to the same words. -/
theorem SameButLog.reads (same : w₁.SameButLog explicit w₂)
    (references : ∀ raw, w₁.Follows line raw → w₁.SameReference w₂ raw)
    (read : w₁.Reads line r) : w₂.Reads line r := by
  obtain ⟨words, expanded, parsed⟩ := read
  refine ⟨words, ?_, ?_⟩
  · rwa [expandCommandLine_congr fun raw follows =>
      contents_of_sameReference same (references raw follows)]
  · rwa [← parse_congr (same.get? CommandLine.configVariable (by decide +kernel))]

/-- **Two lines ask for the same, with the same settings**, if they differ in the flag at
most and the worlds in nothing but logs. -/
theorem SameButLog.asked (same : w₁.SameButLog r₁.config w₂)
    (flags : SameButFlag r₁ r₂ line₁ line₂)
    (references : ∀ raw, w₁.Follows line₁ raw → w₁.SameReference w₂ raw)
    (asks₁ : w₁.Asks line₁ r₁ c₁) (asks₂ : w₂.Asks line₂ r₂ c₂) :
    r₁.action = r₂.action ∧ c₁.defaults = c₂.defaults := by
  have read₁ : w₂.Reads line₁ r₁ := same.reads references asks₁.read
  have read₂ : w₂.Reads line₂ r₂ := asks₂.read
  have request : r₁.action = r₂.action ∧ r₁.config = r₂.config := by
    cases flags with
    | same =>
        cases read₁.unique read₂
        exact ⟨rfl, rfl⟩
    | raised program flagged quiet loud => exact Reads.flagged flagged read₁ read₂ quiet loud
    | lowered program flagged loud quiet =>
        obtain ⟨action, config⟩ := Reads.flagged flagged read₂ read₁ quiet loud
        exact ⟨action.symm, config.symm⟩
  obtain ⟨action, config⟩ := request
  have loaded₂ := asks₂.configured
  rw [← config] at loaded₂
  exact ⟨action, same.configured asks₁.configured loaded₂⟩

end World

/-! ### From tasks to results -/

namespace Host

variable {h₁ h₂ : Host} {explicit : Option String} {d₁ d₂ : Doing}

/-- Two hosts in which the same happens: they differ in what has to do with logs, and in the
time that commands take. -/
structure Alike (explicit : Option String) (h₁ h₂ : Host) : Prop where
  world : h₁.world.SameButLog explicit h₂.world
  spawn : ∀ c o, h₁.spawn c o = h₂.spawn c o
  reading : h₁.reading = h₂.reading
  reader : h₁.reader = h₂.reader

/-- Two ways in which a task was done have the same result: the same code, and outputs that
are handed over in the same way and are the same but for a duration. What was said on the way
may differ. -/
structure SameResult (h₁ h₂ : Host) (d₁ d₂ : Doing) : Prop where
  code : d₁.code = d₂.code
  means : d₁.means = d₂.means
  output : SameButDuration h₁.elapsed h₂.elapsed d₁.output d₂.output
  flushed : d₁.means = .flushed → d₁.output = d₂.output

/-- With the same output, the result is the same. -/
theorem SameResult.of_output (code : d₁.code = d₂.code) (means : d₁.means = d₂.means)
    (output : d₁.output = d₂.output) : SameResult h₁ h₂ d₁ d₂ :=
  ⟨code, means, .inl output, fun _ => output⟩

/-- The programs that a user would find are the same ones. -/
theorem Alike.knowsProgram (h : h₁.Alike explicit h₂) (executable : String) :
    h₁.world.knowsProgram executable = h₂.world.knowsProgram executable := by
  have path := h.world.get? "PATH" (by decide +kernel)
  have tilde (p : Path) : h₁.world.expandTilde p = h₂.world.expandTilde p := by
    rw [World.expandTilde, World.expandTilde, h.world.home]
  simp only [World.knowsProgram, path, h.world.isExecutable, tilde]

theorem Alike.info (h : h₁.Alike explicit h₂) (f : Failure) :
    f.info h₁.world = f.info h₂.world := by
  have suggestion : f.suggestion h₁.world = f.suggestion h₂.world := by
    cases f with
    | launch executable _ cause =>
        show Failure.launchHint h₁.world executable cause =
          Failure.launchHint h₂.world executable cause
        rw [Failure.launchHint, Failure.launchHint, h.knowsProgram]
    | _ => rfl
  rw [Failure.info, Failure.info, suggestion]

theorem Alike.showRun (h : h₁.Alike explicit h₂) (format : OutputFormat)
    (x : Logged (Except Failure Completion)) :
    SameResult h₁ h₂ (h₁.showRun format x) (h₂.showRun format x) := by
  unfold Host.showRun
  cases x.result with
  | ok r =>
      cases format with
      | text => exact .of_output rfl rfl rfl
      | json =>
          obtain ⟨before, shows⟩ := r.printed_document
          exact ⟨rfl, rfl, .inr ⟨before, _, shows h₁.elapsed, shows h₂.elapsed⟩, nofun⟩
  | error f =>
      cases format with
      | text => exact .of_output rfl rfl rfl
      | json =>
          dsimp only
          rw [h.info]
          exact .of_output rfl rfl rfl

theorem Alike.showStream (h : h₁.Alike explicit h₂) (s : Session) :
    Option.Rel (SameResult h₁ h₂) (h₁.showStream s) (h₂.showStream s) := by
  unfold Host.showStream
  rw [h.reader]
  dsimp only
  cases (pump (pumpFuel h₂.reader s) h₂.reader s).2.2 with
  | never => exact .none
  | finished | failed | unread => exact .some (.of_output rfl rfl rfl)

/-- **The same task comes to the same result** wherever the same happens. -/
theorem Alike.perform (h : h₁.Alike explicit h₂) (task : Task)
    (text : ∀ file format, task = .tokenize file format →
      h₁.world.files.readText h₁.world.directory file =
        h₂.world.files.readText h₂.world.directory file) :
    Option.Rel (SameResult h₁ h₂) (h₁.perform task) (h₂.perform task) := by
  cases task with
  | run c o format =>
      unfold Host.perform
      dsimp only
      rw [h.spawn]
      cases Outcome.of? (h₂.spawn c o) with
      | none => exact .none
      | some child => exact .some (h.showRun format _)
  | stream c o =>
      unfold Host.perform
      dsimp only
      rw [h.spawn, h.reading]
      cases (Session.openAt h₂.reading c o (h₂.spawn c o)).result with
      | opened s => exact h.showStream s
      | failed f => exact .some (.of_output rfl rfl rfl)
      | beyondClock => exact .some (.of_output rfl rfl rfl)
  | tokenize file format =>
      have same : h₁.world.readArguments file = h₂.world.readArguments file := by
        simp only [World.readArguments, text file format rfl]
      unfold Host.perform
      dsimp only
      rw [same]
      cases h₂.world.readArguments file with
      | error f => exact .some (.of_output rfl rfl rfl)
      | ok words => exact .some (.of_output rfl rfl rfl)

/-- **The same result is handed over in the same way**, as far as its readers take it. -/
theorem Alike.print (h : h₁.Alike explicit h₂) (same : SameResult h₁ h₂ d₁ d₂) :
    SameResult h₁ h₂ (h₁.print d₁) (h₂.print d₂) := by
  obtain ⟨taken, whole⟩ := same.output.taken h₂.reader
  -- only an output that is flushed at the end can be missed late, and it shows no duration
  have late : (decide (d₂.means = .flushed) && (Taken.within h₂.reader d₁.output).late) =
      (decide (d₂.means = .flushed) && (Taken.within h₂.reader d₂.output).late) := by
    by_cases flushed : d₁.means = .flushed
    · rw [same.flushed flushed]
    · rw [← same.means, decide_eq_false flushed, Bool.false_and, Bool.false_and]
  unfold Host.print
  dsimp only
  rw [h.reader, same.means, whole, late]
  split
  · exact same
  · split <;> exact ⟨rfl, rfl, taken, nofun⟩

/-- The status and the output of a run are those of its task, where all is taken that the
program insists on saying. -/
theorem SameResult.heed (same : SameResult h₁ h₂ d₁ d₂) {verbose₁ verbose₂ : Bool}
    {l₁ l₂ : LogSettings}
    (heard₁ : h₁.hears (h₁.transcribe verbose₁ l₁ d₁).notes = true)
    (heard₂ : h₂.hears (h₂.transcribe verbose₂ l₂ d₂).notes = true) :
    let t₁ := h₁.heed (h₁.transcribe verbose₁ l₁ d₁)
    let t₂ := h₂.heed (h₂.transcribe verbose₂ l₂ d₂)
    t₁.status = t₂.status ∧ SameButDuration h₁.elapsed h₂.elapsed t₁.output t₂.output := by
  refine ⟨?_, same.output⟩
  rw [Host.heed, Host.heed, heard₁, heard₂]
  exact congrArg hostStatus same.code

end Host

end ExitContract
