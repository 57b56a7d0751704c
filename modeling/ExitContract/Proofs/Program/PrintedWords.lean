import ExitContract.Proofs.ArgumentFile.Image
import ExitContract.Proofs.Json.Reread
import ExitContract.Proofs.Program.Asked
import ExitContract.Proofs.Program.Handover

/-!
# The words of an argument file as they are printed

Whoever has the words of an argument file printed gets them back, from either format.

**Text.** Each word is printed on a line of its own, without quotes. Words may hold blanks,
quotes and carriage returns, so that only a line feed could be mistaken for the end of a
word. No word of a file holds one (`ArgumentFile.Admissible.unfed`), so cutting at line feeds
gives the words and, after the last one, nothing.

**JSON.** The words are printed as a list of texts, which is read back as it is.

## Main statements

* `Lines.pieces_printedLines` — printed lines are cut where they were joined
* `Json.reread_texts` — a list of texts is read back
* `Host.printed_words_read_back` — the words that files have, and how they come back
-/

namespace ExitContract

/-- Lines that hold no line feed are cut where they were joined. -/
theorem Lines.pieces_printedLines {lines : List String} (unfed : ∀ l ∈ lines, '\n' ∉ l.toList) :
    pieces (printedLines lines).toList = lines.map String.toList ++ [[]] := by
  induction lines with
  | nil => rfl
  | cons l lines ih =>
      rw [List.forall_mem_cons] at unfed
      have joined : (printedLines (l :: lines)).toList =
          l.toList ++ '\n' :: (printedLines lines).toList := by
        simp [printedLines, String.join_cons]
      rw [joined, pieces_append_lineFeed unfed.1, ih unfed.2, List.map_cons, List.cons_append]

namespace Json

theorem exact_texts (ss : List String) : (texts ss).Exact := by
  show ExactItems (ss.map text)
  induction ss with
  | nil => trivial
  | cons s ss ih => exact ⟨trivial, ih⟩

/-- A list of texts is read back as it is. -/
theorem reread_texts (ss : List String) : (texts ss).reread = texts ss := by
  have items : rereadItems (ss.map text) = ss.map text := by
    induction ss with
    | nil => rfl
    | cons s ss ih => exact congrArg (text s :: ·) ih
  exact congrArg list items

end Json

/-- The words of a file are those of its text. -/
theorem World.exists_text_of_readArguments {w : World} {path : Path} {words : List String}
    (read : w.readArguments path = .ok words) :
    ∃ text, ArgumentFile.wordsOfText text = .ok words := by
  rw [readArguments] at read
  split at read
  · cases read
  · next text _ => exact ⟨text, read⟩

namespace Host

open ArgumentFile (Admissible)

/-- A run that has to print the words of a file prints them in the format that was asked
for, if its reader takes them. -/
theorem run_of_tokenize {h : Host} {line : List Bytes} {verbose : Bool} {l : LogSettings}
    {file : Path} {format : OutputFormat} {words : List String}
    (planned : (h.world.plan line).result = .ok ⟨verbose, l, .tokenize file format⟩)
    (read : h.world.readArguments file = .ok words)
    (taken : (Taken.within h.reader (printedWords format words)).whole = true) :
    ∃ t, h.run line = some t ∧ t.status = 0 ∧ t.output = printedWords format words := by
  let d : Doing := { code := 0, output := printedWords format words, log := [] }
  have performed : h.perform (.tokenize file format) = some d := by
    rw [perform, read]
  have unsaid : (h.transcribe verbose l d).notes = [] := by
    cases verbose <;> rfl
  have takes : h.Takes (h.transcribe verbose l d) := by
    refine ⟨taken, fun room _ => ?_⟩
    rw [unsaid]
    exact Nat.zero_le room
  exact ⟨_, h.run_of_takes planned performed takes, rfl, rfl⟩

/-- **Printed words are read back.** A list of words is what some argument file has if and
only if none of them is blank, starts with `#` or holds a line feed; and every file that
holds a certain text then has just these words. So the two formats in which the words of a
file can be printed hold the same: if a file has certain words, then cutting what is printed
as text at its line feeds gives these words and nothing after the last one, and what is
printed as JSON is the list of these words. Whoever reads the output has to take all of it
for that. -/
theorem printed_words_read_back :
    (∀ words : List String,
      ((∃ (w : World) (path : Path), w.readArguments path = .ok words) ↔
          ∀ t ∈ words, Admissible t) ∧
        ((∀ t ∈ words, Admissible t) → ∃ content : String, ∀ (w : World) (path : Path),
          w.files.read w.directory path = .ok (Utf8.encode content) →
            w.readArguments path = .ok words)) ∧
      ∀ (h : Host) (line line' : List Bytes) (verbose verbose' : Bool) (l l' : LogSettings)
        (file : Path) (words : List String),
        (h.world.plan line).result = .ok ⟨verbose, l, .tokenize file .text⟩ →
        (h.world.plan line').result = .ok ⟨verbose', l', .tokenize file .json⟩ →
        h.world.readArguments file = .ok words →
        (∀ format, (Taken.within h.reader (printedWords format words)).whole = true) →
        ∃ text json, h.run line = some text ∧ h.run line' = some json ∧
          text.status = 0 ∧ json.status = 0 ∧
          Lines.pieces text.output.toList = words.map String.toList ++ [[]] ∧
          Json.parse? json.output = some (.texts words) := by
  have sound {w : World} {path : Path} {words : List String}
      (read : w.readArguments path = .ok words) : ∀ t ∈ words, Admissible t := by
    obtain ⟨text, found⟩ := World.exists_text_of_readArguments read
    exact ArgumentFile.admissible_of_wordsOfText found
  have complete {words : List String} (fit : ∀ t ∈ words, Admissible t) (w : World) (path : Path)
      (held : w.files.read w.directory path =
        .ok (Utf8.encode (ArgumentFile.ofWords words))) : w.readArguments path = .ok words := by
    rw [World.readArguments_of_held held]
    exact ArgumentFile.wordsOfText_of_admissible fit
  refine ⟨fun words => ⟨⟨?_, fun fit => ?_⟩, fun fit => ⟨_, complete fit⟩⟩, ?_⟩
  · rintro ⟨w, path, read⟩
    exact sound read
  · let contents := Utf8.encode (ArgumentFile.ofWords words)
    let w : World := ⟨⟨[([Utf8.encode "args"], .file contents false)]⟩, [], ⟨[]⟩, none⟩
    exact ⟨w, Path.ofString "args", complete fit w _ rfl⟩
  · intro h line line' verbose verbose' l l' file words asText asJson read taken
    obtain ⟨text, textRun, textStatus, textOutput⟩ := run_of_tokenize asText read (taken _)
    obtain ⟨json, jsonRun, jsonStatus, jsonOutput⟩ := run_of_tokenize asJson read (taken _)
    refine ⟨text, json, textRun, jsonRun, textStatus, jsonStatus, ?_, ?_⟩
    · rw [textOutput]
      exact Lines.pieces_printedLines fun t mem => (sound read t mem).unfed
    · rw [jsonOutput, ← Json.reread_texts words]
      exact Json.parse?_printed (Json.exact_texts words)

/-- A file has words with blanks and a quote in them. As text they are printed on three lines,
and as JSON they are a list. -/
theorem printed_words_read_back_of_quoted :
    let file := Utf8.encode "'a  b' \"it's\"\n' #'\n"
    let h : Host :=
      { world := ⟨⟨[([Utf8.encode "args"], .file file false)]⟩, [], ⟨[]⟩, none⟩
        spawn := fun _ _ => .error .notFound, reader := none, elapsed := 0 }
    let line := fun options =>
      (["procwrap", "tokenize"] ++ options ++ ["args"]).map Utf8.encode
    (∀ t ∈ ["a  b", "it's", " #"], Admissible t) ∧
      ∃ text json, h.run (line []) = some text ∧ h.run (line ["-f", "json"]) = some json ∧
        text.status = 0 ∧ json.status = 0 ∧
        Lines.pieces text.output.toList =
          ["a  b".toList, "it's".toList, " #".toList, []] ∧
        Json.parse? json.output = some (.texts ["a  b", "it's", " #"]) := by
  intro file h line
  have read : h.world.readArguments (Path.ofString "args") = .ok ["a  b", "it's", " #"] := by
    rfl
  let request (format : OutputFormat) : Request :=
    ⟨false, none, .tokenize ⟨Path.ofString "args", format⟩⟩
  have planned (format : OutputFormat) (options : List String)
      (asked : ∃ words, (h.world.expandCommandLine (line options)).result = .ok words ∧
        CommandLine.parse h.world.environment words = .ok (request format)) :
      (h.world.plan (line options)).result = .ok ((request format).plan .default) :=
    World.plan_eq_ok_iff.mpr
      ⟨_, _, ⟨asked, World.loadConfig_of_silent (by decide +kernel) rfl⟩, rfl⟩
  have asText := planned .text [] ⟨_, rfl, rfl⟩
  have asJson := planned .json ["-f", "json"] ⟨_, rfl, rfl⟩
  exact ⟨((printed_words_read_back.1 _).1.mp ⟨_, _, read⟩),
    printed_words_read_back.2 h _ _ _ _ _ _ _ _ asText asJson read fun _ => rfl⟩

end Host

end ExitContract
