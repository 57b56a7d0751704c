import ExitContract.Shell.Arithmetic
import ExitContract.Shell.Process

/-!
# Running shell scripts

Expansion of words and execution of commands.

## Main definitions

* `Shell.expand` — the glyphs of a word
* `Shell.run` — a command
* `Shell.start` — a process that becomes another program

## Design notes

Everything is one mutual recursion over a bound on its depth, of which a loop takes one for each round.
A script that goes beyond it never ends.
-/

namespace ExitContract

namespace Shell

/-- What a command is run for. -/
structure Mode where
  /-- Its status is asked for, so a failure does not end the shell. -/
  tested : Bool
  /-- Nothing comes after it, so another program may take over the process. -/
  last : Bool

/-- What an expansion gives, or how it leaves the shell. -/
abbrev Expansion (α : Type) := State × Except Flow α

/-- What came of redirections. -/
inductive Redirected
  | applied
  /-- One cannot be done; the complaint is written. -/
  | refused
  | left (flow : Flow)

/-- Takes line feeds from the end and drops octets that no text holds. -/
def trimOutput (s : Str) : Str :=
  ((s.filter fun c => c != '\x00').reverse.dropWhile (· == '\n')).reverse

/-- A tilde at the start of a word is the directory of the user. -/
def expandTilde (st : State) : Word → Word
  | .bare ('~' :: rest) :: ps =>
    match rest, ps, st.get? "HOME".toList with
    | [], [], some home => [.quoted home]
    | '/' :: rest, ps, some home => .quoted home :: .bare ('/' :: rest) :: ps
    | _, _, _ => .bare ('~' :: rest) :: ps
  | w => w

/-- Glyphs of a value. -/
def valueGlyphs (inQuotes : Bool) (s : Str) : List Glyph :=
  if inQuotes then (if s.isEmpty then [.hollow] else glyphs true false s) else glyphs false true s

/-- Glyphs of the positional parameters. -/
def positionalGlyphs (st : State) (joined inQuotes : Bool) : List Glyph :=
  if joined && inQuotes then
    let separator : Str := match st.get? "IFS".toList with
      | none => [' ']
      | some [] => []
      | some (c :: _) => [c]
    valueGlyphs true (separator.intercalate st.positional)
  else (st.positional.map (valueGlyphs inQuotes)).intersperse [.border] |>.flatten

/-- The value of a parameter that is not all positional ones. -/
def parameter? (st : State) (name : Str) : Option Str :=
  match name with
  | ['#'] => some (toString st.positional.length).toList
  | ['?'] => some (toString st.status).toList
  | ['$'] => some (toString (State.processNumber st.shell)).toList
  | ['!'] => st.lastBackground.map fun p => (toString (State.processNumber p)).toList
  | ['-'] => some st.optionLetters
  | ['@'] => if st.positional.isEmpty then none else some (Tool.spaced st.positional)
  | ['*'] => if st.positional.isEmpty then none else some (Tool.spaced st.positional)
  | name =>
    match numberOf? name with
    | some 0 => some st.zero
    | some (n + 1) => st.positional[n]?
    | none =>
      if name = "PPID".toList then some (toString (State.processNumber 0 - 1)).toList
      else st.get? name

/-- Words after an operator take the place of a value: outside quotes fields are cut there too. -/
def openGlyphs (inQuotes : Bool) (gs : List Glyph) : List Glyph :=
  if inQuotes then (if gs.isEmpty then [.hollow] else gs)
  else gs.map fun g => match g with
    | .char c false _ => .char c false true
    | g => g

/-- The text left when what matches a pattern is taken from one end. -/
def cutMatch (p : Pattern) (atStart longest : Bool) (s : Str) : Str :=
  let lengths := List.range (s.length + 1)
  let lengths := if longest then lengths.reverse else lengths
  let hit := lengths.find? fun n =>
    Pattern.accepts p (if atStart then s.take n else s.drop (s.length - n))
  match hit with
  | none => s
  | some n => if atStart then s.drop n else s.take (s.length - n)

/-- A failed command ends the shell if that is asked for. -/
def checked (m : Mode) : State × Flow → State × Flow
  | (st, .next) =>
    if st.status != 0 && !m.tested && st.options.contains 'e' then (st, .exit) else (st, .next)
  | out => out

mutual

/-- The glyphs of the pieces of a word. -/
def expand (fuel : Nat) (st : State) (ps : List Part) : Expansion (List Glyph) :=
  match fuel with
  | 0 => (st, .error (.ended .never))
  | fuel + 1 =>
    match ps with
    | [] => (st, .ok [])
    | p :: rest =>
      match expandPart fuel st p with
      | (st, .error flow) => (st, .error flow)
      | (st, .ok gs) =>
        match expand fuel st rest with
        | (st, .error flow) => (st, .error flow)
        | (st, .ok hs) => (st, .ok (gs ++ hs))

/-- The glyphs of a piece of a word. -/
def expandPart (fuel : Nat) (st : State) (p : Part) : Expansion (List Glyph) :=
  match fuel with
  | 0 => (st, .error (.ended .never))
  | fuel + 1 =>
    match p with
    | .bare s => (st, .ok (glyphs false false s))
    | .quoted s => (st, .ok (if s.isEmpty then [.hollow] else glyphs true false s))
    | .output script q =>
      match substitute fuel st script with
      | (st, .error flow) => (st, .error flow)
      | (st, .ok s) => (st, .ok (valueGlyphs q s))
    | .arithmetic ps q =>
      match expand fuel st ps with
      | (st, .error flow) => (st, .error flow)
      | (st, .ok gs) =>
        let text := glyphText gs
        let refuse (why : String) : Expansion (List Glyph) :=
          (st.failHere 2 (Tool.chars ("arithmetic expression: " ++ why ++ ": \"") ++ text ++ ['"']),
            .error .exit)
        match Arithmetic.parse text with
        | .error fault => refuse fault.message
        | .ok e =>
          match Arithmetic.eval (parameter? st) [] e with
          | .error .divisionByZero => refuse "division by zero"
          | .error (.notANumber value) =>
            (st.failHere 2 (Tool.chars "Illegal number: " ++ value), .error .exit)
          | .ok (n, set) =>
            let assigned := set.foldr (fun a (out : State × Flow) =>
              match out with
              | (st, .next) => st.setOrFail a.1 (toString a.2).toList
              | out => out) (st, .next)
            match assigned with
            | (st, .next) => (st, .ok (valueGlyphs q (toString n).toList))
            | (st, flow) => (st, .error flow)
    | .parameter name op argument q => expandParameter fuel st name op argument q

/-- The glyphs of a parameter. -/
def expandParameter (fuel : Nat) (st : State) (name : Str) (op : Operator) (argument : List Part)
    (q : Bool) : Expansion (List Glyph) :=
  match fuel with
  | 0 => (st, .error (.ended .never))
  | fuel + 1 =>
    let all := name == ['@'] || name == ['*']
    let value := parameter? st name
    let own : List Glyph :=
      if all then positionalGlyphs st (name == ['*']) q else valueGlyphs q (value.getD [])
    let instead : Expansion (List Glyph) :=
      match expand fuel st (expandTilde st argument) with
      | (st, .error flow) => (st, .error flow)
      | (st, .ok gs) => (st, .ok (openGlyphs q gs))
    let present (orEmpty : Bool) : Bool := match value with
      | none => false
      | some v => !(orEmpty && v.isEmpty)
    let missing (why : Str) : Expansion (List Glyph) :=
      (st.failHere 2 (name ++ Tool.chars ": " ++ why), .error .exit)
    match op with
    | .plain =>
      if value.isNone && !all && st.options.contains 'u' then missing (Tool.chars "parameter not set")
      else (st, .ok own)
    | .length =>
      let n := (value.getD []).length
      (st, .ok (valueGlyphs q (toString n).toList))
    | .default orEmpty => if present orEmpty then (st, .ok own) else instead
    | .alternate orEmpty =>
      if present orEmpty then instead else (st, .ok (if q then [.hollow] else []))
    | .assign orEmpty =>
      if present orEmpty then (st, .ok own)
      else
        match instead with
        | (st, .error flow) => (st, .error flow)
        | (st, .ok gs) =>
          match st.setOrFail name (glyphText gs) with
          | (st, .next) => (st, .ok (valueGlyphs q (glyphText gs)))
          | (st, flow) => (st, .error flow)
    | .complain orEmpty =>
      if present orEmpty then (st, .ok own)
      else
        match expand fuel st argument with
        | (st, .error flow) => (st, .error flow)
        | (st, .ok gs) =>
          let text := glyphText gs
          let why := if !text.isEmpty then text
            else Tool.chars (if orEmpty then "parameter not set or null" else "parameter not set")
          (st.failHere 2 (name ++ Tool.chars ": " ++ why), .error .exit)
    | .dropStart longest =>
      match expand fuel st argument with
      | (st, .error flow) => (st, .error flow)
      | (st, .ok gs) =>
        let p := Pattern.ofMarked (glyphMarks gs)
        (st, .ok (valueGlyphs q (cutMatch p true longest (value.getD []))))
    | .dropEnd longest =>
      match expand fuel st argument with
      | (st, .error flow) => (st, .error flow)
      | (st, .ok gs) =>
        let p := Pattern.ofMarked (glyphMarks gs)
        (st, .ok (valueGlyphs q (cutMatch p false longest (value.getD []))))

/-- The output of a script. -/
def substitute (fuel : Nat) (st : State) (script : Str) : Expansion Str :=
  match fuel with
  | 0 => (st, .error (.ended .never))
  | fuel + 1 =>
    let (st, pipe) := st.newPipe
    let (st, finish) := inChild fuel st fun child =>
      runText fuel (child.attach 1 (.write pipe)) ⟨false, true⟩ script
    let stream := st.streamOf pipe
    let st := st.forget pipe
    match stream.all? st.now, finish.time? with
    | some (t, text), some t' =>
      ({ st with
        now := max t t', status := finish.status, outputStatus := some finish.status },
        .ok (trimOutput text))
    | _, _ => (st, .error (.ended .never))

/-- The text of a word that is not cut into fields. -/
def expandText (fuel : Nat) (st : State) (w : Word) : Expansion Str :=
  match fuel with
  | 0 => (st, .error (.ended .never))
  | fuel + 1 =>
    match expand fuel st (expandTilde st w) with
    | (st, .error flow) => (st, .error flow)
    | (st, .ok gs) => (st, .ok (glyphText gs))

/-- The arguments that words make. -/
def expandFields (fuel : Nat) (st : State) (ws : List Word) : Expansion (List Str) :=
  match fuel with
  | 0 => (st, .error (.ended .never))
  | fuel + 1 =>
    match ws with
    | [] => (st, .ok [])
    | w :: rest =>
      match expand fuel st (expandTilde st w) with
      | (st, .error flow) => (st, .error flow)
      | (st, .ok gs) =>
        let here := st.arguments gs
        match expandFields fuel st rest with
        | (st, .error flow) => (st, .error flow)
        | (st, .ok there) => (st, .ok (here ++ there))

/-- Does redirections in turn. -/
def redirectAll (fuel : Nat) (st : State) (rs : List Redirection) : State × Redirected :=
  match fuel with
  | 0 => (st, .left (.ended .never))
  | fuel + 1 =>
    match rs with
    | [] => (st, .applied)
    | r :: rest =>
      let word := match r.target with
        | .input w | .output w | .append w | .duplicate w | .text w => w
      match expandText fuel st word with
      | (st, .error flow) => (st, .left flow)
      | (st, .ok text) =>
        match st.redirect r.descriptor r.target text with
        | .ok st => redirectAll fuel st rest
        | .error why => (st.failHere 2 why, .refused)

/-- Sets variables to words in turn. -/
def assignAll (fuel : Nat) (st : State) (exported : Bool) (as : List (Str × Word)) : State × Flow :=
  match fuel with
  | 0 => (st, .ended .never)
  | fuel + 1 =>
    match as with
    | [] => (st, .next)
    | (name, w) :: rest =>
      match expandText fuel st w with
      | (st, .error flow) => (st, flow)
      | (st, .ok value) =>
        match st.setOrFail name value with
        | (st, .next) =>
          let st := st.trace (name ++ '=' :: value)
          assignAll fuel (if exported then st.modify name fun v => { v with exported := true } else st)
            exported rest
        | out => out

/-- Something that a new child does, up to its end. -/
def inChild (fuel : Nat) (parent : State) (body : State → State × Flow) : State × Finish :=
  match fuel with
  | 0 => (parent, .never)
  | fuel + 1 =>
    let (child, flow) := body parent.child
    let (child, finish) := endShell fuel child flow
    (parent.adopt child, finish)

/-- The end of a shell process, at which a handler may still run. -/
def endShell (fuel : Nat) (st : State) (flow : Flow) : State × Finish :=
  match fuel with
  | 0 => st.conclude .never
  | fuel + 1 =>
    match flow with
    | .ended finish => st.conclude finish
    | _ =>
      match List.lookup 0 st.traps with
      | none => st.conclude (.exited st.now (st.status % 256))
      | some action =>
        let status := st.status
        match runText fuel { st with traps := st.traps.filter fun t => t.1 != 0 } ⟨false, false⟩ action with
        | (st, .ended finish) => st.conclude finish
        | (st, .exit) => st.conclude (.exited st.now (st.status % 256))
        | (st, _) => st.conclude (.exited st.now (status % 256))

/-- Runs the handlers of the signals that came. -/
def handleSignals (fuel : Nat) (st : State) : State × Flow :=
  match fuel with
  | 0 => (st, .ended .never)
  | fuel + 1 =>
    match st.pending with
    | [] => (st, .next)
    | signal :: rest =>
      let status := st.status
      let action := (List.lookup signal st.traps).getD []
      match runText fuel { st with pending := rest } ⟨false, false⟩ action with
      | (st, .next) => handleSignals fuel { st with status := status }
      | out => out

/-- Runs the commands of a text. -/
def runText (fuel : Nat) (st : State) (m : Mode) (text : Str) : State × Flow :=
  match fuel with
  | 0 => (st, .ended .never)
  | fuel + 1 =>
    let script := readScript text
    let st := if script.commands.isEmpty then { st with status := 0 } else st
    match runAll fuel st { m with last := m.last && script.error.isNone } script.commands with
    | (st, .next) =>
      match script.error with
      | none => (st, .next)
      | some e =>
        let why := if e.message = "Bad substitution" then e.message else "Syntax error: " ++ e.message
        ({ st with line := e.line }.failHere 2 (Tool.chars why), .exit)
    | out => out

/-- Runs commands in turn. -/
def runAll (fuel : Nat) (st : State) (m : Mode) (ss : List Statement) : State × Flow :=
  match fuel with
  | 0 => (st, .ended .never)
  | fuel + 1 =>
    match ss with
    | [] => (st, .next)
    | [s] => run fuel st m s
    | s :: rest =>
      match run fuel st { m with last := false } s with
      | (st, .next) => runAll fuel st m rest
      | out => out

/-- Runs a command. -/
def run (fuel : Nat) (st : State) (m : Mode) (s : Statement) : State × Flow :=
  match fuel with
  | 0 => (st, .ended .never)
  | fuel + 1 =>
    match s with
    | .simple line assignments words redirections =>
      match runSimple fuel { st with line := line } m assignments words redirections with
      | (st, .next) =>
        match handleSignals fuel st with
        | (st, .next) => checked m (st, .next)
        | out => out
      | out => out
    | .pipeline negated stages =>
      let out := match stages with
        | [s] => run fuel st ⟨m.tested || negated, false⟩ s
        | stages =>
          let (st, ended) := runStages fuel st none stages
          st.awaitAll ended
      match out with
      | (st, .next) =>
        if negated then ({ st with status := if st.status = 0 then 1 else 0 }, .next)
        else checked m (st, .next)
      | out => out
    | .both a b =>
      match run fuel st ⟨true, false⟩ a with
      | (st, .next) => if st.status = 0 then run fuel st m b else (st, .next)
      | out => out
    | .either a b =>
      match run fuel st ⟨true, false⟩ a with
      | (st, .next) => if st.status = 0 then (st, .next) else run fuel st m b
      | out => out
    | .sequence ss => runAll fuel (if ss.isEmpty then { st with status := 0 } else st) m ss
    | .background s =>
      let process := st.nextProcess
      let (st, finish) := inChild fuel st fun child =>
        let child := { child with now := child.now + State.startDelay }
        run fuel (child.attach 0 (.read .empty)) ⟨false, true⟩ s
      ({ st with
        jobs := st.jobs ++ [⟨process, finish⟩], lastBackground := some process, status := 0 }, .next)
    | .subshell s =>
      if m.last && st.traps.all fun t => t.2.isEmpty then
        match run fuel st m s with
        | (st, .ended finish) => (st, .ended finish)
        | (st, _) => (st, .exit)
      else
        let (st, finish) := inChild fuel st fun child => run fuel child ⟨m.tested, true⟩ s
        match st.await finish with
        | (st, .next) =>
          match handleSignals fuel st with
          | (st, .next) => checked m (st, .next)
          | out => out
        | out => out
    | .group s => run fuel st m s
    | .conditional condition yes no =>
      match run fuel st ⟨true, false⟩ condition with
      | (st, .next) => if st.status = 0 then run fuel st m yes else run fuel { st with status := 0 } m no
      | out => out
    | .loop negated condition body =>
      let (st, flow) :=
        runLoop fuel { st with status := 0, loops := st.loops + 1 } m negated condition body
      ({ st with loops := st.loops - 1 }, flow)
    | .each name words body =>
      match (match words with
        | some ws => expandFields fuel st ws
        | none => (st, .ok st.positional)) with
      | (st, .error flow) => (st, flow)
      | (st, .ok values) =>
        let (st, flow) := runEach fuel { st with status := 0, loops := st.loops + 1 } m name values body
        ({ st with loops := st.loops - 1 }, flow)
    | .choice subject clauses =>
      match expandText fuel st subject with
      | (st, .error flow) => (st, flow)
      | (st, .ok text) => runChoice fuel { st with status := 0 } m text clauses
    | .define name body =>
      { st with functions := (name, body) :: st.functions.filter fun f => f.1 != name }.done 0
    | .redirected s rs =>
      let before := st.channels
      match redirectAll fuel st rs with
      | (st, .left flow) => (st, flow)
      | (st, .refused) => checked m (st.reattach before rs, .next)
      | (st, .applied) =>
        let (st, flow) := run fuel st { m with last := false } s
        (st.reattach before rs, flow)

/-- Runs the commands of a pipeline, each to its end before the next one starts. -/
def runStages (fuel : Nat) (st : State) (input : Option Stream) (ss : List Statement) :
    State × List State.Stage :=
  match fuel with
  | 0 => (st, [])
  | fuel + 1 =>
    let enter (child : State) : State := match input with
      | some stream => child.attach 0 (.read stream)
      | none => child
    match ss with
    | [] => (st, [])
    | [s] =>
      let process := st.nextProcess
      let (st, finish) := inChild fuel st fun child => run fuel (enter child) ⟨false, true⟩ s
      (st, [⟨process, finish, none⟩])
    | s :: rest =>
      let (st, pipe) := st.newPipe
      let process := st.nextProcess
      let (st, finish) := inChild fuel st fun child =>
        run fuel ((enter child).attach 1 (.write pipe)) ⟨false, true⟩ s
      let (st, ended) := runStages fuel st (some (st.streamOf pipe)) rest
      (st, ⟨process, finish, some pipe⟩ :: ended)

/-- Runs a loop. -/
def runLoop (fuel : Nat) (st : State) (m : Mode) (negated : Bool) (condition body : Statement) :
    State × Flow :=
  match fuel with
  | 0 => (st, .ended .never)
  | fuel + 1 =>
    let before := st.status
    match run fuel st ⟨true, false⟩ condition with
    | (st, .next) =>
      if (st.status == 0) == negated then ({ st with status := before }, .next)
      else
        match run fuel st { m with last := false } body with
        | (st, .next) => runLoop fuel st m negated condition body
        | (st, .again 0) => runLoop fuel st m negated condition body
        | (st, .again 1) => runLoop fuel st m negated condition body
        | (st, .again (n + 1)) => (st, .again n)
        | (st, .leave 0) => (st, .next)
        | (st, .leave 1) => (st, .next)
        | (st, .leave (n + 1)) => (st, .leave n)
        | out => out
    | (st, .leave 0) => (st, .next)
    | (st, .leave 1) => (st, .next)
    | (st, .leave (n + 1)) => (st, .leave n)
    | out => out

/-- Runs a loop over values. -/
def runEach (fuel : Nat) (st : State) (m : Mode) (name : Str) (values : List Str) (body : Statement) :
    State × Flow :=
  match fuel with
  | 0 => (st, .ended .never)
  | fuel + 1 =>
    match values with
    | [] => (st, .next)
    | v :: rest =>
      match st.setOrFail name v with
      | (st, .next) =>
        match run fuel st { m with last := false } body with
        | (st, .next) => runEach fuel st m name rest body
        | (st, .again 0) => runEach fuel st m name rest body
        | (st, .again 1) => runEach fuel st m name rest body
        | (st, .again (n + 1)) => (st, .again n)
        | (st, .leave 0) => (st, .next)
        | (st, .leave 1) => (st, .next)
        | (st, .leave (n + 1)) => (st, .leave n)
        | out => out
      | out => out

/-- Runs the first clause of which a pattern matches a text. -/
def runChoice (fuel : Nat) (st : State) (m : Mode) (text : Str)
    (clauses : List (List Word × Statement)) : State × Flow :=
  match fuel with
  | 0 => (st, .ended .never)
  | fuel + 1 =>
    match clauses with
    | [] => (st, .next)
    | ([], _) :: rest => runChoice fuel st m text rest
    | (w :: ws, body) :: rest =>
      match expand fuel st (expandTilde st w) with
      | (st, .error flow) => (st, flow)
      | (st, .ok gs) =>
        if Pattern.accepts (Pattern.ofMarked (glyphMarks gs)) text then run fuel st m body
        else runChoice fuel st m text ((ws, body) :: rest)

/-- Runs a command of assignments and words. -/
def runSimple (fuel : Nat) (st : State) (m : Mode) (assignments : List (Str × Word))
    (words : List Word) (redirections : List Redirection) : State × Flow :=
  match fuel with
  | 0 => (st, .ended .never)
  | fuel + 1 =>
    match expandFields fuel { st with outputStatus := none } words with
    | (st, .error flow) => (st, flow)
    | (st, .ok fields) =>
      let before := st.channels
      let st := if fields.isEmpty then st else st.trace (Tool.spaced fields)
      match fields with
      | [] =>
        match redirectAll fuel st redirections with
        | (st, .left flow) => (st, flow)
        | (st, .refused) => (st.reattach before redirections, .next)
        | (st, .applied) =>
          match assignAll fuel (st.reattach before redirections) false assignments with
          | (st, .next) => st.done (st.outputStatus.getD 0)
          | out => out
      | name :: args =>
        if (List.lookup name st.functions).isNone && !State.builtinNames.contains (String.ofList name) then
          runExternal fuel st m assignments name args redirections
        else
          let special := specialNames.contains (String.ofList name)
          let held := st.sinks
          match redirectAll fuel st redirections with
          | (st, .left flow) => (st, flow)
          | (st, .refused) => (st.reattach before redirections, if special then .exit else .next)
          | (st, .applied) =>
            let hidden := if special then [] else assignments.map fun a => (a.1, st.binding? a.1)
            match assignAll fuel st (!special) assignments with
            | (st, .next) =>
              let (st, flow) := runCommand fuel st m name args
              let st := st.restore hidden
              if name = "exec".toList then (st.settle held, flow)
              else (st.reattach before redirections, flow)
            | out => out

/-- Runs a function, or a command that the shell carries out. -/
def runCommand (fuel : Nat) (st : State) (m : Mode) (name : Str) (args : List Str) : State × Flow :=
  match fuel with
  | 0 => (st, .ended .never)
  | fuel + 1 =>
    match List.lookup name st.functions with
    | some body =>
      let (positional, hidden, loops) := (st.positional, st.hidden, st.loops)
      let (st, flow) := run fuel
        { st with positional := args, hidden := [], loops := 0, calls := st.calls + 1 }
        { m with last := false } body
      ({ st.restore st.hidden with
          positional := positional, hidden := hidden, loops := loops, calls := st.calls - 1 },
        match flow with
        | .back => .next
        | flow => flow)
    | none =>
      match String.ofList name, args with
      | "eval", args =>
        let (after, flow) :=
          runText fuel { st with origin := some name } { m with last := false } (Tool.spaced args)
        ({ after with origin := st.origin }, flow)
      | ".", [] => st.done 0
      | ".", file :: _ =>
        match st.findScript file with
        | .ok (path, contents) =>
          let (after, flow) := runText fuel { st with origin := some path } { m with last := false } contents
          ({ after with origin := st.origin }, match flow with
            | .back => .next
            | flow => flow)
        | .error why => (st.fail 2 (Tool.chars ".: " ++ why), .exit)
      | "exec", [] => st.done 0
      | "exec", name :: args =>
        match st.files.search st.directory st.searchPath (Tool.toBytes name) (name :: args) with
        | .ok (_, image) =>
          let (st, finish) := start fuel st image
          (st, .ended finish)
        | .error e =>
          (st.fail (State.runStatus e)
            (Tool.chars "exec: " ++ name ++ Tool.chars (": " ++ State.runReason e)), .exit)
      | "command", ['-', 'v'] :: name :: _ =>
        match st.describe true name with
        | some s => (st.write 1 (s ++ ['\n'])).done 0
        | none => st.done 127
      | "command", ['-', 'V'] :: name :: _ => st.type [name]
      | "command", [] => st.done 0
      | "command", name :: args =>
        if State.builtinNames.contains (String.ofList name) then
          let (after, flow) := runCommand fuel
            { st with functions := st.functions.filter fun f => f.1 != name } m name args
          let kept := { after with functions :=
            after.functions ++ st.functions.filter fun f => f.1 == name }
          match flow with
          | .exit => if State.failingNames.contains (String.ofList name) then (kept, .next) else (kept, .exit)
          | flow => (kept, flow)
        else runExternal fuel st { m with last := false } [] name args []
      | name, args => (st.builtin? name args).getD (st.done 127)

/-- Runs a program, in a child unless nothing comes after it. -/
def runExternal (fuel : Nat) (st : State) (m : Mode) (assignments : List (Str × Word)) (name : Str)
    (args : List Str) (redirections : List Redirection) : State × Flow :=
  match fuel with
  | 0 => (st, .ended .never)
  | fuel + 1 =>
    let body (st : State) : State × Flow :=
      match redirectAll fuel st redirections with
      | (st, .left flow) => (st, flow)
      | (st, .refused) => (st, .exit)
      | (st, .applied) =>
        match assignAll fuel st true assignments with
        | (st, .next) =>
          let (st, finish) := become fuel st name args
          (st, .ended finish)
        | out => out
    if m.last && st.traps.all fun t => t.2.isEmpty then
      let held := st.sinks
      match body st with
      | (st, .ended finish) => (st.settle held, .ended finish)
      | (st, _) => (st, .exit)
    else
      let (st, finish) := inChild fuel st body
      st.await finish

/-- A process becomes the program of a name, or complains. -/
def become (fuel : Nat) (st : State) (name : Str) (args : List Str) : State × Finish :=
  match fuel with
  | 0 => st.conclude .never
  | fuel + 1 =>
    match st.files.search st.directory st.searchPath (Tool.toBytes name) (name :: args) with
    | .ok (_, image) => start fuel st image
    | .error .execFormat =>
      match st.scriptText? (Tool.toBytes name) with
      | some (path, text) =>
        let (st, flow) :=
          runText fuel (st.shellStart (Tool.ofBytes path) args []) ⟨false, true⟩ text
        endShell fuel st flow
      | none => st.conclude (.exited st.now 126)
    | .error e =>
      let e' := if name.isEmpty then .permissionDenied else e
      let st := st.failHere (State.runStatus e) (name ++ Tool.chars (": " ++ State.runReason e'))
      st.conclude (.exited st.now (State.runStatus e))

/-- A process becomes another program. -/
def start (fuel : Nat) (st : State) (image : Image) : State × Finish :=
  match fuel with
  | 0 => st.conclude .never
  | fuel + 1 =>
    let own := image.arguments.headD []
    let args := image.arguments.drop 1
    if image.program = "sh" || image.program = "dash" then
      let (options, source, zero, positional) := State.shellArguments own args
      let st := st.shellStart zero positional options
      let (st, flow) : State × Flow := match source with
        | .wrong why => (st.fail 2 (Tool.chars why), .exit)
        | .text script => runText fuel st ⟨false, true⟩ script
        | .file path =>
          match st.files.read st.directory (Tool.toBytes path) with
          | .ok contents => runText fuel st ⟨false, false⟩ (Tool.ofBytes contents)
          | .error .isADirectory => (st, .exit)
          | .error e =>
            ({ st with zero := own }.fail 2
              (Tool.chars "cannot open " ++ path ++ Tool.chars (": " ++ State.openReason e)), .exit)
        | .input =>
          match st.input.all? st.now with
          | some (t, text) => runText fuel { st with now := t } ⟨false, false⟩ text
          | none => (st, .ended .never)
      endShell fuel st flow
    else if image.program = "env" then
      match st.envArguments args with
      | (st, []) =>
        (st.write 1 (Tool.entryLines st.environment)).conclude (.exited st.now 0)
      | (st, name :: args) =>
        match st.files.search st.directory st.searchPath (Tool.toBytes name) (name :: args) with
        | .ok (_, image) => start fuel st image
        | .error e =>
          (st.write 2 (Tool.chars "env: '" ++ name ++ Tool.chars ("': " ++ Tool.reason e ++ "\n"))).conclude
            (.exited st.now (State.runStatus e))
    else
      match Tool.run? image.program (st.call args) with
      | some run => st.perform run
      | none => st.conclude (.exited st.now 127)

end

end Shell

end ExitContract
