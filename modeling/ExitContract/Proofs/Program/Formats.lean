import ExitContract.Proofs.Json.Reread
import ExitContract.Proofs.Program.Asked
import ExitContract.Proofs.Program.Handover

/-!
# Two formats, one story

A run to the end is shown as text, for people, or as an object, for programs. Which of the
two was asked for decides nothing but the output: the notes and the status are the same,
and whoever reads the object knows what would have been printed as text.

**Telling the formats apart.** The object of a run that went well has no error type. Then
its output is what would have been printed, character for character. The object of a
failure has one, and nothing would have been printed. Both are said of the object as it is
read back, since that is all that a reader of the output has.

**Two runs.** The same command is run once for each format and need not take the same time
twice, so the clock of the second run is free.

## Main definitions

* `Json.TellsSuccess`, `Json.TellsFailure` — what the fields of an object tell
* `Host.object` — the object that a result is shown as

## Main statements

* `Completion.tells_document`, `Failure.tells_document` — results are told by their documents
* `Host.showRun_json` — the format decides nothing but the output
* `Host.formats_tell_the_same` — the two formats of a run tell the same story
-/

namespace ExitContract

/-! ### What the fields of an object tell -/

namespace Json

/-- An object tells of a run that went well and of its output. -/
structure TellsSuccess (j : Json) (output : String) : Prop where
  noFailure : j.field? "error_type" = none
  output : j.field? "output" = some (.text output)

/-- An object tells of a failure. -/
structure TellsFailure (j : Json) (f : Failure) : Prop where
  kind : j.field? "error_type" = some (.text f.label)
  code : j.field? "exit_code" = some (.int f.exitCode.toInt)
  /-- There is an output exactly if the failure came after one that is not empty. -/
  output : ∀ v, j.field? "output" = some v ↔
    ∃ s, f.output? = some s ∧ s ≠ "" ∧ v = Json.text s

theorem lookup_optionalField (name other : String) (value : Option String) :
    List.lookup name (optionalField other value) =
      if name = other then value.map text else none := by
  cases value with
  | none => exact (ite_self none).symm
  | some v => exact Keyed.lookup_cons name other (Json.text v) []

theorem reverse_optionalField (name : String) (value : Option String) :
    (optionalField name value).reverse = optionalField name value := by
  cases value <;> rfl

end Json

theorem Completion.exact_document (r : Completion) (elapsed : Nat) :
    (r.document elapsed).Exact :=
  ⟨trivial, trivial, Json.exact_int _, trivial, trivial⟩

/-- **A run that went well is told by its document.** -/
theorem Completion.tells_document (r : Completion) (elapsed : Nat) :
    (r.document elapsed).reread.TellsSuccess r.output where
  noFailure := by
    rw [document, Json.field?_reread]
    rfl
  output := by
    rw [document, Json.field?_reread]
    rfl

theorem Failure.Info.exact_document (i : Failure.Info) : i.document.Exact := by
  obtain ⟨message, label, code, output, suggestion⟩ := i
  refine Json.exactFields_iff.mpr ?_
  cases output <;> cases suggestion <;>
    simp [Json.optionalField, Json.ofCode, Json.exact_int, Json.Exact]

/-- A field of the document of a failure, as it is read back: first those that may be left
out, then those that are always there. -/
theorem Failure.Info.field?_document (i : Failure.Info) (name : String) :
    i.document.reread.field? name =
      (((if name = "suggestion" then i.suggestion.map Json.text else none).or
        (if name = "output" then i.output.map Json.text else none)).or
        (List.lookup name [("exit_code", .ofCode i.exitCode), ("error_type", .text i.label),
          ("message", .text i.message)])).map Json.reread := by
  rw [document, Json.field?_reread]
  simp only [List.reverse_append, Json.reverse_optionalField, List.lookup_append,
    Json.lookup_optionalField, Option.or_assoc]
  rfl

/-- **A failure is told by its document.** -/
theorem Failure.tells_document (f : Failure) (w : World) :
    (f.info w).document.reread.TellsFailure f where
  kind := by
    rw [Failure.Info.field?_document]
    rfl
  code := by
    rw [Failure.Info.field?_document]
    exact congrArg some (Json.reread_ofCode f.exitCode)
  output := by
    intro v
    rw [Failure.Info.field?_document]
    show Option.map _ (Option.or (Option.map _ (f.output?.filter _)) none) = _ ↔ _
    rw [Option.or_none, Option.map_map, Option.map_eq_some_iff]
    refine exists_congr fun s => ?_
    have kept : f.output?.filter (fun o => !o.isEmpty) = some s ↔
        f.output? = some s ∧ s ≠ "" := by
      simp [Option.filter_eq_some_iff]
    rw [kept, and_assoc, eq_comm (a := v)]
    rfl

namespace Host

variable (h : Host)

/-! ### What the two formats show -/

/-- The object that a result is shown as, when it came after so many milliseconds. -/
def object (elapsed : Nat) (r : Except Failure Completion) : Json :=
  match r with
  | .ok completion => completion.document elapsed
  | .error f => (f.info h.world).document

theorem exact_object (elapsed : Nat) (r : Except Failure Completion) :
    (h.object elapsed r).Exact := by
  cases r with
  | ok completion => exact completion.exact_document elapsed
  | error f => exact (f.info h.world).exact_document

section

variable {x : Logged (Except Failure Completion)}

theorem showRun_text_of_ok {r : Completion} (came : x.result = .ok r) :
    h.showRun .text x =
      { code := 0, output := r.output, means := .flushed, log := x.log,
        remark := some (.finished r.command) } := by
  unfold showRun
  rw [came]

theorem showRun_text_of_error {f : Failure} (came : x.result = .error f) :
    h.showRun .text x = h.fail f "" x.log := by
  unfold showRun
  rw [came]

/-- **The format decides nothing but the output** and how it is handed over, and so does
the time that was taken. -/
theorem showRun_json (elapsed : Nat) (x : Logged (Except Failure Completion)) :
    showRun { h with elapsed := elapsed } .json x =
      { h.showRun .text x with
        output := (h.object elapsed x.result).printed
        means := .lines } := by
  unfold showRun
  cases x.result <;> rfl

end

/-- A run of a command that comes to an end is shown in the format that was asked for. -/
theorem perform_run {c : Command} {o : Options} {format : OutputFormat} {child : Outcome}
    (ended : Outcome.of? (h.spawn c o) = some child) :
    h.perform (.run c o format) = some (h.showRun format (capture c o child)) := by
  rw [perform, ended]
  rfl

/-- **The two formats of a run tell the same story.** A command is run twice, to be shown as
text and to be shown as an object, and both times it turns out alike; it may take longer the
second time. Then what is printed the second time is one object. Both runs leave the same
notes and the same status, and either run leaves just this if its readers take it. If the
object has no error type, its output is what was printed as text, and the status is 0. If it
has one, nothing was printed as text, the status is its exit code as far as others see it,
the failure was reported in either run, after the same events, and the object has an output
exactly if the failure came after one that is not empty, which it then is. -/
theorem formats_tell_the_same (elapsed : Nat) (verbose : Bool) (l : LogSettings)
    (c : Command) (o : Options) (child : Outcome) :
    let later : Host := { h with elapsed := elapsed }
    let x := capture c o child
    let text := h.transcribe verbose l (h.showRun .text x)
    let json := later.transcribe verbose l (later.showRun .json x)
    (∀ line line', (h.world.plan line).result = .ok ⟨verbose, l, .run c o .text⟩ →
        (h.world.plan line').result = .ok ⟨verbose, l, .run c o .json⟩ →
        Outcome.of? (h.spawn c o) = some child →
        (h.Takes text → h.run line = some text) ∧
          (later.Takes json → later.run line' = some json)) ∧
      text.notes = json.notes ∧ text.status = json.status ∧
      ∃ fields, Json.parse? json.output = some (.object fields) ∧
        (List.lookup "error_type" fields = none →
          List.lookup "output" fields = some (.text text.output) ∧ text.status = 0) ∧
        ((List.lookup "error_type" fields).isSome →
          text.output = "" ∧ ∃ f, x.result = .error f ∧
            List.lookup "exit_code" fields = some (.int f.exitCode.toInt) ∧
            text.status = (f.exitCode.toInt % 256).toNat ∧
            (h.showRun .text x).events = x.log ++ h.reportEvents f ∧
            (later.showRun .json x).events = x.log ++ h.reportEvents f ∧
            ∀ v, List.lookup "output" fields = some v ↔
              ∃ s, f.output? = some s ∧ s ≠ "" ∧ v = .text s) := by
  intro later x text json
  have lines : ∀ line line', (h.world.plan line).result = .ok ⟨verbose, l, .run c o .text⟩ →
      (h.world.plan line').result = .ok ⟨verbose, l, .run c o .json⟩ →
      Outcome.of? (h.spawn c o) = some child →
      (h.Takes text → h.run line = some text) ∧
        (later.Takes json → later.run line' = some json) := by
    intro line line' textual structured ended
    exact ⟨h.run_of_takes textual (h.perform_run ended),
      later.run_of_takes structured (later.perform_run ended)⟩
  refine ⟨lines, ?_⟩
  -- from here on it does not matter how the command came to its result
  clear lines
  clear_value x
  have shown : later.showRun .json x =
      { h.showRun .text x with output := (h.object elapsed x.result).printed, means := .lines } :=
    h.showRun_json elapsed x
  have printed : Json.parse? json.output = some (h.object elapsed x.result).reread := by
    simp only [json, shown]
    exact Json.parse?_printed (h.exact_object elapsed x.result)
  refine ⟨?_, ?_, ?_⟩
  · simp only [text, json, shown]
    rfl
  · simp only [text, json, shown]
    rfl
  · cases came : x.result with
    | ok r =>
        have told := r.tells_document elapsed
        have shownText := h.showRun_text_of_ok came
        rw [came] at printed
        refine ⟨_, printed, fun _ => ?_, fun failed => ?_⟩
        · simp only [text, shownText]
          exact ⟨told.output, rfl⟩
        · have none : List.lookup "error_type" _ = none := told.noFailure
          rw [none] at failed
          cases failed
    | error f =>
        have told := f.tells_document h.world
        have shownText := h.showRun_text_of_error came
        rw [came] at printed
        refine ⟨_, printed, fun well => ?_, fun _ => ?_⟩
        · have kind : List.lookup "error_type" _ = some _ := told.kind
          rw [well] at kind
          cases kind
        · simp only [text, shown, shownText]
          exact ⟨rfl, f, rfl, told.code, rfl, rfl, rfl, told.output⟩

/-- A command writes a line and ends with code 3. As text nothing of it is printed, and
the object holds the line. Either run reports what was wrong, the code, the command and
what it wrote. -/
theorem formats_tell_the_same_of_refused :
    let child : Timeline :=
      { writes := [(0, Utf8.encode "no\n")], endless := none, closed := some 1,
        ended := some (2, .exited 3) }
    let h : Host :=
      { world := ⟨⟨[]⟩, [], ⟨[]⟩, none⟩, spawn := fun _ _ => .ok child, reader := none,
        elapsed := 4 }
    let line := fun format => ["procwrap", "run", "-f", format, "--", "sh"].map Utf8.encode
    ∃ text json fields, h.run (line "text") = some text ∧
      Host.run { h with elapsed := 7 } (line "json") = some json ∧
      text.output = "" ∧ text.status = 3 ∧ json.status = 3 ∧ text.notes = json.notes ∧
      json.notes = [.record .compact (.error .failures "An error has occurred"),
        .record .compact (.error .failures "Return code: 3"),
        .record .compact (.error .failures "Command used: sh"),
        .record .compact (.error .failures "Trace:\nno\n")] ∧
      Json.parse? json.output = some (.object fields) ∧
      List.lookup "exit_code" fields = some (.int 3) ∧
      List.lookup "output" fields = some (.text "no\n") := by
  intro child h line
  let request (format : OutputFormat) : Request :=
    ⟨false, none, .run ⟨format, ⟨none, none, false, none, [], ["sh"]⟩⟩⟩
  have planned (format : OutputFormat) (word : String)
      (read : ∃ words, (h.world.expandCommandLine (line word)).result = .ok words ∧
        CommandLine.parse h.world.environment words = .ok (request format)) :
      (h.world.plan (line word)).result = .ok ((request format).plan .default) :=
    World.plan_eq_ok_iff.mpr
      ⟨_, _, ⟨read, World.loadConfig_of_silent (by decide +kernel) rfl⟩, rfl⟩
  have asText := planned .text "text" ⟨_, rfl, rfl⟩
  have asJson := planned .json "json" ⟨_, rfl, rfl⟩
  let outcome : Outcome := .ended (Utf8.encode "no\n") (.exited 3)
  let x := capture ⟨"sh", []⟩ .default outcome
  have ended : Outcome.of? (h.spawn ⟨"sh", []⟩ .default) = some outcome := rfl
  obtain ⟨runs, notes, status, fields, object, well, failed⟩ :=
    formats_tell_the_same h 7 false .default ⟨"sh", []⟩ .default outcome
  obtain ⟨textRun, jsonRun⟩ := runs _ _ asText asJson ended
  have reported : (h.transcribe false .default (h.showRun .text x)).notes =
      [.record .compact (.error .failures "An error has occurred"),
        .record .compact (.error .failures "Return code: 3"),
        .record .compact (.error .failures "Command used: sh"),
        .record .compact (.error .failures "Trace:\nno\n")] := by
    decide +kernel
  have three : (h.transcribe false .default (h.showRun .text x)).status = 3 := by
    decide +kernel
  have kind : (List.lookup "error_type" fields).isSome := by
    by_contra absent
    have zero := (well (Option.not_isSome_iff_eq_none.mp absent)).2
    exact absurd (three.symm.trans zero) (by decide)
  obtain ⟨nothing, f, came, code, -, -, -, output⟩ := failed kind
  cases came
  exact ⟨_, _, fields, textRun (takes_of_endless rfl rfl _), jsonRun (takes_of_endless rfl rfl _),
    nothing, three, status.symm.trans three, notes, notes.symm.trans reported, object, code,
    (output _).mpr ⟨_, rfl, by decide, congrArg Json.text (by decide +kernel)⟩⟩

end Host

end ExitContract
