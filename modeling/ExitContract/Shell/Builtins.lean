import ExitContract.Child.Image
import ExitContract.Shell.Condition
import ExitContract.Shell.Reader
import ExitContract.Shell.State

/-!
# Commands of the shell itself

The commands that a shell carries out without another program, except those that run further commands.

## Main definitions

* `Shell.State.redirect` — what a redirection does
* `Shell.State.raise` — a signal that reaches the shell
* `Shell.State.builtin?` — a command of the shell
-/

namespace ExitContract

namespace Shell

/-- A command that changes a state and then goes on. -/
def State.done (st : State) (status : Nat) : State × Flow := ({ st with status := status }, .next)

namespace State

/-! ### Quoting -/

/-- A text in single quotes, as a shell can read it again. -/
def singleQuoted (s : Str) : Str := '\'' :: single s
where
  /-- The rest of a text after a single quote. -/
  single : Str → Str
    | [] => ['\'']
    | c :: cs => if c = '\'' then '\'' :: '"' :: '\'' :: double cs else c :: single cs
  /-- The rest of a text within double quotes, which hold single ones. -/
  double : Str → Str
    | [] => ['"']
    | c :: cs => if c = '\'' then '\'' :: double cs else '"' :: '\'' :: c :: single cs

/-! ### Redirections -/

/-- The wording of an error when a file is opened to be read. -/
def openReason : IoError → String
  | .notFound => "No such file"
  | .notADirectory => "No such file"
  | e => Tool.reason e

/-- The wording of an error when a file is opened to be written. -/
def createReason : IoError → String
  | .notFound => "Directory nonexistent"
  | .notADirectory => "Directory nonexistent"
  | e => Tool.reason e

/-- The descriptor that a path of a device stands for. -/
def deviceOf? (path : Str) : Option Nat :=
  match String.ofList path with
  | "/dev/stdin" => some 0
  | "/dev/stdout" => some 1
  | "/dev/stderr" => some 2
  | "/dev/fd/0" => some 0
  | "/dev/fd/1" => some 1
  | "/dev/fd/2" => some 2
  | _ => none

/-- Takes over another descriptor, or closes one. -/
def duplicate (st : State) (descriptor : Nat) (source : Str) : Except Str State :=
  if source = ['-'] then .ok (st.detach descriptor)
  else match numberOf? source with
    | none => .error (Tool.chars "Syntax error: Bad fd number")
    | some n =>
      match List.lookup n st.channels with
      | some c => .ok (st.attach descriptor c)
      | none => .error (source ++ Tool.chars ": Bad file descriptor")

/-- Opens a file to be written. -/
def openToWrite (st : State) (descriptor : Nat) (path : Str) (anew : Bool) : Except Str State :=
  let refuse (e : IoError) : Except Str State :=
    .error (Tool.chars "cannot create " ++ path ++ Tool.chars ": " ++ Tool.chars (createReason e))
  let p := Tool.toBytes path
  match st.files.locate st.directory p with
  | .ok name =>
    match st.files.get? name with
    | some (.file contents executable) =>
      .ok ({ st with
        files := st.files.insert name (.file (if anew then [] else contents) executable) }.attach
          descriptor (.write (.file name)))
    | some .nullDevice => .ok (st.attach descriptor (.write .nowhere))
    | some .directory => refuse .isADirectory
    | _ => refuse .permissionDenied
  | .error .notFound =>
    if path.isEmpty || path.getLast? = some '/' then refuse .notFound
    else
      let above := (p.reverse.dropWhile (· != Path.slash)).reverse
      let last := (p.reverse.takeWhile (· != Path.slash)).reverse
      match (if above.isEmpty then .ok st.directory else st.files.locate st.directory above) with
      | .ok directory =>
        let name := directory ++ [last]
        .ok ({ st with files := st.files.insert name (.file [] false) }.attach descriptor
          (.write (.file name)))
      | .error e => refuse e
  | .error e => refuse e

/-- Does what a redirection asks for, or says why it cannot. -/
def redirect (st : State) (descriptor : Nat) (target : Target) (text : Str) : Except Str State :=
  match target with
  | .text _ => .ok (st.attach descriptor (.read (.ofText text)))
  | .duplicate _ => st.duplicate descriptor text
  | .input _ =>
    match deviceOf? text with
    | some n => st.duplicate descriptor (toString n).toList
    | none =>
      match st.files.read st.directory (Tool.toBytes text) with
      | .ok contents => .ok (st.attach descriptor (.read (.ofText (Tool.ofBytes contents))))
      | .error .isADirectory => .ok (st.attach descriptor (.read .empty))
      | .error e =>
        .error (Tool.chars "cannot open " ++ text ++ Tool.chars ": " ++ Tool.chars (openReason e))
  | .output _ =>
    match deviceOf? text with
    | some n => st.duplicate descriptor (toString n).toList
    | none => st.openToWrite descriptor text true
  | .append _ =>
    match deviceOf? text with
    | some n => st.duplicate descriptor (toString n).toList
    | none => st.openToWrite descriptor text false

/-- Gives descriptors back what they were open for. -/
def reattach (st : State) (before : List (Nat × Channel)) (rs : List Redirection) : State :=
  let touched := rs.map (·.descriptor)
  { st with
    channels := (st.channels.filter fun c => !touched.contains c.1) ++
      before.filter fun c => touched.contains c.1 }

/-- Lets go of what was open before and is open no more. -/
def settle (st : State) (before : List Sink) : State :=
  st.release st.process (before.filter fun s => !st.sinks.contains s) (some st.now)

/-! ### Signals -/

/-- The number that stands for a process. -/
def processNumber (process : Nat) : Nat := 4000 + process

/-- A signal that reaches the shell. -/
def raise (st : State) (signal : Nat) : State × Flow :=
  match (if signal == 9 || signal == 19 then none else List.lookup signal st.traps) with
  | some [] => (st, .next)
  | some _ => ({ st with pending := st.pending ++ [signal] }, .next)
  | none =>
    if harmless signal then (st, .next)
    else if stops signal then (st, .ended .never)
    else (st, .ended (.killed st.now signal))

/-- Sends a signal to a process that is a child of the shell or one that it is a part of. -/
def send (st : State) (process signal : Nat) : State :=
  if harmless signal then st
  else
    let running (f : Finish) : Bool := match f.time? with
      | some t => decide (st.now < t)
      | none => true
    if st.jobs.any fun j => j.process == process && running j.finish then
      { st.cutProcess process st.now with
        jobs := st.jobs.map fun j =>
          if j.process == process && running j.finish then
            { j with finish := if stops signal then .never else .killed st.now signal }
          else j }
    else { st with doomed := (process, st.now, signal) :: st.doomed }

/-- Sends a signal to processes in turn. -/
def sendAll (st : State) (signal : Nat) : List Str → State × Flow
  | [] => st.done 0
  | target :: rest =>
    match numberOf? target with
    | none =>
      (({ st with status := 2 }).fail 2 (Tool.chars "kill: Illegal number: " ++ target), .next)
    | some n =>
      if n = processNumber st.process || n = 0 then
        match st.raise signal with
        | (st, .next) => sendAll st signal rest
        | out => out
      else if processNumber 0 ≤ n && n < processNumber st.nextProcess then
        sendAll (st.send (n - processNumber 0) signal) signal rest
      else
        let (st, flow) := sendAll (st.complain (Tool.chars "kill: No such process\n")) signal rest
        ({ st with status := 1 }, flow)

/-- The command `kill` sends a signal. -/
def kill (st : State) (args : List Str) : State × Flow :=
  let named (name : Str) (targets : List Str) : State × Flow :=
    match signalOf? name with
    | some signal => st.sendAll signal targets
    | none => (st.fail 2 (Tool.chars "kill: Illegal option -" ++ name.take 1), .next)
  match args with
  | [['-', 'l'], number] =>
    match (numberOf? number).bind fun n => signals.find? fun s => s.2 == n % 128 with
    | some s => (st.write 1 (Tool.chars (s.1 ++ "\n"))).done 0
    | none => (st.fail 2 (Tool.chars "kill: Illegal number: " ++ number), .next)
  | ['-', 's'] :: name :: targets => named name targets
  | ('-' :: 's' :: c :: name) :: targets => named (c :: name) targets
  | ['-', '-'] :: targets => st.sendAll 15 targets
  | ('-' :: c :: name) :: ['-', '-'] :: targets => named (c :: name) targets
  | ('-' :: c :: name) :: targets => named (c :: name) targets
  | [] =>
    (st.fail 2 (Tool.chars ("kill: Usage: kill [-s sigspec | -signum | -sigspec] [pid | job]... or\n" ++
      "kill -l [exitstatus]")), .next)
  | targets => st.sendAll 15 targets

/-- The command `trap` sets handlers. -/
def trap (st : State) (args : List Str) : State × Flow :=
  let args := match args with
    | ['-', '-'] :: rest => rest
    | args => args
  let assign (action : Option Str) (names : List Str) : State × Flow :=
    names.foldl (fun (p : State × Flow) name =>
      match signalOf? name with
      | none =>
        ({ p.1.write 2 (Tool.chars "trap: " ++ name ++ Tool.chars ": bad trap\n") with status := 1 }, p.2)
      | some n =>
        let others := p.1.traps.filter fun t => t.1 != n
        ({ p.1 with traps := match action with
            | some a => (n, a) :: others
            | none => others }, p.2)) (st.done 0)
  let nameOf (n : Nat) : String :=
    if n = 0 then "EXIT"
    else ((signals.find? fun s => s.2 == n).map (·.1)).getD (toString n)
  match args with
  | [] =>
    let lines := (st.traps.mergeSort fun a b => a.1 ≤ b.1).flatMap fun (n, a) =>
      Tool.chars "trap -- " ++ singleQuoted a ++ Tool.chars (" " ++ nameOf n ++ "\n")
    (st.write 1 lines).done 0
  | [name] => assign none [name]
  | action :: names =>
    if action = ['-'] || (numberOf? action).isSome then
      assign none (if action = ['-'] then names else action :: names)
    else assign (some action) names

/-- Says that a signal ended a child, if it did. -/
def mourn (st : State) (finish : Finish) : State :=
  match finish with
  | .killed _ signal =>
    if (obituary signal).isEmpty then st else st.write 2 (Tool.chars (obituary signal ++ "\n"))
  | _ => st

/-- The command `wait` waits for children that run beside the shell. -/
def wait (st : State) (args : List Str) : State × Flow :=
  let ending (f : Finish) : Option State :=
    f.time?.map fun t => { st with now := max st.now t }
  match args with
  | [] =>
    match st.jobs.foldl (fun t j => later t j.finish.time?) (some st.now) with
    | some t => ({ st with now := t, jobs := [] }).done 0
    | none => (st, .ended .never)
  | target :: _ =>
    match numberOf? target with
    | none => (st.fail 2 (Tool.chars "wait: No such job: " ++ target), .next)
    | some n =>
      match st.jobs.find? fun j => processNumber j.process == n with
      | none => st.done 127
      | some j =>
        match ending j.finish with
        | some st => (st.mourn j.finish).done j.finish.status
        | none => (st, .ended .never)

/-! ### Variables -/

/-- A name and a value, from a text with an equals sign. -/
def splitSetting (s : Str) : Str × Option Str :=
  (s.takeWhile (· != '='), match s.dropWhile (· != '=') with
    | [] => none
    | _ :: value => some value)

/-- Whether a variable is constant. -/
def isConstant (st : State) (name : Str) : Bool := (st.binding? name).any (·.constant)

/-- Sets a variable, unless it is constant; then the shell ends. -/
def setOrFail (st : State) (name value : Str) : State × Flow :=
  if st.isConstant name then (st.failHere 2 (name ++ Tool.chars ": is read only"), .exit)
  else (st.set name value, .next)

/-- Gives variables a mark, and values where the words have them. -/
def mark (st : State) (command : String) (f : Variable → Variable) : List Str → State × Flow
  | [] => st.done 0
  | word :: rest =>
    let (name, value) := splitSetting word
    if !isName name then
      (st.fail 2 (Tool.chars (command ++ ": ") ++ name ++ Tool.chars ": bad variable name"), .exit)
    else
      let origin := st.origin
      let (st, flow) : State × Flow := match value with
        | some v => ({ st with origin := some (Tool.chars command) }).setOrFail name v
        | none => (st, .next)
      let st := { st with origin := origin }
      match flow with
      | .next => mark (st.modify name f) command f rest
      | flow => (st, flow)

/-- A command that gives variables a mark, or shows those that have it. -/
def declare (st : State) (command : String) (has : Variable → Bool) (f : Variable → Variable)
    (args : List Str) : State × Flow :=
  let list : State × Flow :=
    let marked := (st.bindings.filter has).mergeSort fun v w => !decide (w.name < v.name)
    (st.write 1 (marked.flatMap fun v => Tool.chars (command ++ " ") ++ v.name ++
      ((v.value.map fun x => '=' :: singleQuoted x).getD []) ++ ['\n'])).done 0
  match args with
  | [] => list
  | ['-', '-'] :: args => if args.isEmpty then list else st.mark command f args
  | ('-' :: c :: _) :: _ =>
    if c = 'p' then list
    else (st.fail 2 (Tool.chars (command ++ ": Illegal option -") ++ [c]), .exit)
  | args => st.mark command f args

/-- The command `unset` drops variables or functions. -/
def unset (st : State) (args : List Str) : State × Flow :=
  match args with
  | ['-', 'f'] :: names =>
    ({ st with functions := st.functions.filter fun f => !names.contains f.1 }).done 0
  | ['-', 'v'] :: names => drop st names
  | ['-', '-'] :: names => drop st names
  | ('-' :: c :: _) :: _ => (st.fail 2 (Tool.chars "unset: Illegal option -" ++ [c]), .exit)
  | names => drop st names
where
  drop (st : State) : List Str → State × Flow
    | [] => st.done 0
    | name :: rest =>
      let refuse (why : String) : State × Flow :=
        (st.fail 2 (Tool.chars "unset: " ++ name ++ Tool.chars why), .exit)
      if !isName name then refuse ": bad variable name"
      else if st.isConstant name then refuse ": is read only"
      else drop { st with bindings := st.bindings.filter fun v => v.name != name } rest

/-! ### Options -/

/-- The options of a shell by their names, with the letters of those that have one. -/
def optionNames : List (String × Option Char) :=
  [("errexit", some 'e'), ("noglob", some 'f'), ("ignoreeof", some 'I'), ("interactive", some 'i'),
    ("monitor", some 'm'), ("noexec", some 'n'), ("stdin", some 's'), ("xtrace", some 'x'),
    ("verbose", some 'v'), ("vi", some 'V'), ("emacs", some 'E'), ("noclobber", some 'C'),
    ("allexport", some 'a'), ("notify", some 'b'), ("nounset", some 'u'), ("privileged", some 'p'),
    ("nolog", none), ("debug", none)]

/-- The letters of the options that are set, in their own order. -/
def optionLetters (st : State) : Str :=
  (optionNames.reverse.filterMap (·.2)).filter st.options.contains

/-- Switches an option on or off. -/
def switch (on : Bool) (options : Str) (c : Char) : Str :=
  if !on then options.filter (· != c) else if options.contains c then options else options ++ [c]

/-- Switches the options of letters, or gives back what is none. The letter `o` takes the name of an
option from the words that follow; what is left of them is given back. -/
def switchAll (also : Str) (on : Bool) (options : Str) : Str → List Str → Except Str (Str × List Str)
  | [], words => .ok (options, words)
  | c :: cs, words =>
    if c = 'o' then
      match words with
      | [] => switchAll also on options cs []
      | name :: words =>
        match List.lookup (String.ofList name) optionNames with
        | some (some letter) => switchAll also on (switch on options letter) cs words
        | some none => switchAll also on options cs words
        | none => .error ('o' :: ' ' :: name)
    else if also.contains c || optionNames.any fun o => o.2 == some c then
      switchAll also on (switch on options c) cs words
    else .error [c]

/-- The options that words set and clear, and the words after them, if there are any. -/
def optionWords (also options : Str) (words : List Str) : Except Str (Str × Option (List Str)) :=
  go words.length options words
where
  go (fuel : Nat) (options : Str) (words : List Str) : Except Str (Str × Option (List Str)) :=
    match fuel, words with
    | _, [] => .ok (options, none)
    | _, ['-', '-'] :: rest => .ok (options, some rest)
    | _, ['-'] :: rest =>
      .ok (options.filter fun c => c != 'x' && c != 'v', if rest.isEmpty then none else some rest)
    | fuel + 1, ('-' :: cs) :: rest => (switchAll also true options cs rest).bind fun (o, rest) =>
      go fuel o rest
    | fuel + 1, ('+' :: cs) :: rest => (switchAll also false options cs rest).bind fun (o, rest) =>
      go fuel o rest
    | _, rest => .ok (options, some rest)

/-- The command `set` sets options and the positional parameters. -/
def setCommand (st : State) (args : List Str) : State × Flow :=
  let isOn (c : Option Char) : Bool := c.any st.options.contains
  match args with
  | [['-', 'o']] =>
    let lines := optionNames.flatMap fun (name, c) =>
      name.toList ++ List.replicate (16 - name.length) ' ' ++ Tool.chars (if isOn c then "on\n" else "off\n")
    (st.write 1 (Tool.chars "Current option settings\n" ++ lines)).done 0
  | [['+', 'o']] =>
    let lines := optionNames.flatMap fun (name, c) =>
      Tool.chars ((if isOn c then "set -o " else "set +o ") ++ name ++ "\n")
    (st.write 1 lines).done 0
  | args =>
    match optionWords [] st.options args with
    | .error name => (st.fail 2 (Tool.chars "set: Illegal option -" ++ name), .exit)
    | .ok (options, words) =>
      ({ st with options := options, positional := words.getD st.positional }).done 0

/-! ### Reading lines -/

/-- A line of the input. Unless it is taken as it stands, one that ends with a backslash goes on in the
next one. -/
def inputLine (raw : Bool) (fuel : Nat) (now : Nat) (stream : Stream) : Stream.Got × Stream :=
  match fuel with
  | 0 => (.never, stream)
  | fuel + 1 =>
    match stream.readLine now with
    | (.text time line false, rest) =>
      if !raw && (line.reverse.takeWhile (· == '\\')).length % 2 == 1 then
        match inputLine raw fuel time rest with
        | (.text time more final, rest) => (.text time (line.dropLast ++ more) final, rest)
        | out => out
      else (.text time line false, rest)
    | out => out

/-- The characters of a line, each with whether a backslash took its meaning away. -/
def unescape : Str → List (Char × Bool)
  | [] => []
  | ['\\'] => []
  | '\\' :: c :: cs => (c, true) :: unescape cs
  | c :: cs => (c, false) :: unescape cs

/-- The command `read` cuts a line of the input into variables. -/
def read (st : State) (args : List Str) : State × Flow :=
  match options false args with
  | .error why => (st.fail 2 (Tool.chars "read: " ++ why), .next)
  | .ok (_, []) => (st.fail 2 (Tool.chars "read: arg count"), .next)
  | .ok (raw, names) =>
    let stream := st.input
    let bound := (stream.chunks.flatMap (·.2)).length + 1
    match inputLine raw bound st.now stream with
    | (.never, _) => (st, .ended .never)
    | (.text time line final, rest) =>
      let line := line.filter (· != '\x00')
      let st := { st with now := time }
      let st := if (List.lookup 0 st.channels).isSome then st.attach 0 (.read rest) else st
      let separators := (st.get? "IFS".toList).getD [' ', '\t', '\n']
      let cs := if raw then line.map fun c => (c, false) else unescape line
      assign st separators (if final then 1 else 0) (cs.dropWhile (isBlankSeparator separators)) names
where
  options (raw : Bool) : List Str → Except Str (Bool × List Str)
    | ['-', '-'] :: rest => .ok (raw, rest)
    | ['-', 'p'] :: [] => .error (Tool.chars "No arg for -p option")
    | ['-', 'p'] :: _ :: rest => options raw rest
    | ['-', 'r', 'p'] :: [] => .error (Tool.chars "No arg for -p option")
    | ['-', 'r', 'p'] :: _ :: rest => options true rest
    | ['-', 'r'] :: rest => options true rest
    | ('-' :: 'p' :: _) :: rest => options raw rest
    | ('-' :: c :: _) :: _ => .error (Tool.chars "Illegal option -" ++ [c])
    | rest => .ok (raw, rest)
  isSeparator (separators : Str) (c : Char × Bool) : Bool := !c.2 && separators.contains c.1
  isBlankSeparator (separators : Str) (c : Char × Bool) : Bool :=
    isSeparator separators c && (c.1 == ' ' || c.1 == '\t' || c.1 == '\n')
  /-- What follows a separator with the blanks around it. -/
  afterSeparator (separators : Str) (cs : List (Char × Bool)) : List (Char × Bool) :=
    let rest := cs.dropWhile (isBlankSeparator separators)
    match rest with
    | c :: later =>
      if isSeparator separators c then later.dropWhile (isBlankSeparator separators) else rest
    | [] => []
  assign (st : State) (separators : Str) (status : Nat) (cs : List (Char × Bool)) :
      List Str → State × Flow
    | [] => st.done status
    | name :: names =>
      let refuse (why : String) : State × Flow :=
        (st.fail 2 (Tool.chars "read: " ++ name ++ Tool.chars why), .next)
      let word := cs.takeWhile fun c => !isSeparator separators c
      let rest := afterSeparator separators (cs.drop word.length)
      -- The last variable takes all that is left, but a single field loses the separator after it.
      let value := if !names.isEmpty || rest.isEmpty then word
        else (cs.reverse.dropWhile (isBlankSeparator separators)).reverse
      if !isName name then refuse ": bad variable name"
      else if st.isConstant name then refuse ": is read only"
      else assign (st.set name (value.map (·.1))) separators status rest names

/-! ### The others -/

/-- The command `cd` changes the directory. -/
def cd (st : State) (args : List Str) : State × Flow :=
  let target := match args.filter (fun a => a != ['-', '-'] && a != ['-', 'P'] && a != ['-', 'L']) with
    | [] => st.get? "HOME".toList
    | ['-'] :: _ => some ((st.get? "OLDPWD".toList).getD (Tool.pathOf st.directory))
    | d :: _ => some d
  match target with
  | none => st.done 0
  | some [] => st.done 0
  | some d =>
    match st.files.locate st.directory (Tool.toBytes d) with
    | .ok name =>
      if st.files.get? name = some .directory then
        let st := { st.set "OLDPWD".toList (Tool.pathOf st.directory) with directory := name }
        let st := (st.set "PWD".toList (Tool.pathOf name)).modify "PWD".toList
          fun v => { v with exported := true }
        (if args = [['-']] then st.write 1 (Tool.pathOf name ++ ['\n']) else st).done 0
      else (st.fail 2 (Tool.chars "cd: can't cd to " ++ d), .next)
    | .error _ => (st.fail 2 (Tool.chars "cd: can't cd to " ++ d), .next)

/-- The number in the first argument, if there is one. -/
def countArgument (st : State) (command : String) (args : List Str) (missing : Nat) :
    Except (State × Flow) Nat :=
  match args with
  | [] => .ok missing
  | a :: _ =>
    match numberOf? a with
    | some n => .ok n
    | none => .error (st.fail 2 (Tool.chars (command ++ ": Illegal number: ") ++ a), .exit)

/-- The number of loops in the first argument, which is not zero. -/
def roundArgument (st : State) (command : String) (args : List Str) : Except (State × Flow) Nat :=
  match st.countArgument command args 1 with
  | .ok 0 =>
    .error (st.fail 2 (Tool.chars (command ++ ": Illegal number: ") ++ args.headD []), .exit)
  | out => out

/-- Writes what a command of the shell puts out, which fails when there is nowhere to write. -/
def putOut (st : State) (command : String) (text : Str) (status : Nat) : State × Flow :=
  match st.write? 1 text with
  | some st => st.done status
  | none =>
    if text.isEmpty then st.done status
    else (st.fail 1 (Tool.chars (command ++ ": " ++ command ++ ": I/O error")), .next)

/-- The command `echo`, in which escapes have their meaning. -/
def echo (st : State) (args : List Str) : State × Flow :=
  let (newline, args) := match args with
    | ['-', 'n'] :: rest => (false, rest)
    | args => (true, args)
  let text := Tool.spaced args
  let (s, stop) := Format.expandEscapes .shell (text.length + 1) text
  st.putOut "echo" (if stop || !newline then s else s ++ ['\n']) 0

/-- The command `printf`, in which complaints come before the text. -/
def printf (st : State) (args : List Str) : State × Flow :=
  let fill (format : Str) (args : List Str) : State × Flow :=
    let (pieces, stop, _) := Format.render .shell (args.length + 1) format args
    let complaints := Format.complaintsOf pieces
    let st := complaints.foldl (fun st m => st.complain (Tool.chars ("printf: " ++ m))) st
    st.putOut "printf" (Format.textOf pieces)
      (if complaints.isEmpty then 0 else if stop then 2 else 1)
  match args with
  | ['-', '-'] :: format :: args => fill format args
  | [] => usage
  | [['-', '-']] => usage
  | ('-' :: c :: _) :: _ => (st.fail 2 (Tool.chars "printf: Illegal option -" ++ [c]), .next)
  | format :: args => fill format args
where
  usage : State × Flow := (st.fail 2 (Tool.chars "printf: usage: printf format [arg ...]"), .next)

/-- The command `test` gives the truth of a condition as its status. -/
def test (st : State) (name : String) (args : List Str) : State × Flow :=
  let words := if name = "[" then args.dropLast else args
  if name = "[" && args.getLast?.bind List.head? != some ']' then
    (st.fail 2 (Tool.chars "[: missing ]"), .next)
  else
    match Condition.evaluate ⟨args, st.environment, st.files, st.directory, st.input, st.now⟩ words with
    | .ok b => st.done (if b then 0 else 1)
    | .error why => (st.fail 2 (Tool.chars (name ++ ": ") ++ why), .next)

/-- The names of the commands that a shell knows itself. -/
def builtinNames : List String :=
  [":", "true", "false", "echo", "printf", "test", "[", "pwd", "cd", "export", "readonly", "unset",
    "set", "shift", "exit", "return", "break", "continue", "read", "wait", "kill", "trap", "umask",
    "ulimit", "local", "type", "alias", "hash", "times", "eval", ".", "exec", "command"]

/-- Commands that end a shell only by their failure, and not when they are run by `command`. -/
def failingNames : List String :=
  ["export", "readonly", "unset", "set", "shift", "break", "continue", "trap", "local"]

/-- The value of `PATH`. -/
def searchPath (st : State) : Bytes :=
  match st.get? "PATH".toList with
  | some p => Tool.toBytes p
  | none => []

/-- What a name stands for, in the words of `type` or of `command -v`. -/
def describe (st : State) (brief : Bool) (name : Str) : Option Str :=
  let s := String.ofList name
  if reservedWords.contains s then
    some (if brief then name else name ++ Tool.chars " is a shell keyword")
  else if (List.lookup name st.functions).isSome then
    some (if brief then name else name ++ Tool.chars " is a shell function")
  else if builtinNames.contains s then
    some (if brief then name
      else name ++ Tool.chars (if specialNames.contains s then " is a special shell builtin"
        else " is a shell builtin"))
  else
    match st.files.search st.directory st.searchPath (Tool.toBytes name) [] with
    | .ok (path, _) =>
      some (if brief then Tool.ofBytes path else name ++ Tool.chars " is " ++ Tool.ofBytes path)
    | .error _ => none

/-- The command `type` says what names stand for. -/
def type (st : State) : List Str → State × Flow
  | [] => st.done 0
  | name :: rest =>
    match st.describe false name with
    | some s => type (st.write 1 (s ++ ['\n'])) rest
    | none =>
      let (st, flow) := type (st.write 1 (name ++ Tool.chars ": not found\n")) rest
      ({ st with status := 127 }, flow)

/-- A command of the shell that runs no further commands. -/
def builtin? (st : State) (name : String) (args : List Str) : Option (State × Flow) :=
  match name with
  | ":" | "true" | "alias" | "hash" | "times" => some (st.done 0)
  | "umask" => some ((if args.isEmpty then st.write 1 (Tool.chars "0022\n") else st).done 0)
  | "ulimit" =>
    some ((if args.all fun a => a.head? == some '-' then st.write 1 (Tool.chars "unlimited\n")
      else st).done 0)
  | "false" => some (st.done 1)
  | "echo" => some (st.echo args)
  | "printf" => some (st.printf args)
  | "test" | "[" => some (st.test name args)
  | "pwd" => some ((st.write 1 (Tool.pathOf st.directory ++ ['\n'])).done 0)
  | "cd" => some (st.cd args)
  | "export" => some (st.declare "export" (·.exported) (fun v => { v with exported := true }) args)
  | "readonly" => some (st.declare "readonly" (·.constant) (fun v => { v with constant := true }) args)
  | "local" =>
    if st.calls = 0 then some (st.fail 2 (Tool.chars "local: not in a function"), .exit)
    else
    let names := args.map fun a => (splitSetting a).1
    let st := names.foldl (fun st n =>
      if st.hidden.any (·.1 == n) then st
      else { st with hidden := (n, st.binding? n) :: st.hidden }) st
    some (st.mark "local" id args)
  | "unset" => some (st.unset args)
  | "set" => some (st.setCommand args)
  | "shift" =>
    some (match st.countArgument "shift" args 1 with
      | .error out => out
      | .ok n =>
        if st.positional.length < n then (st.fail 2 (Tool.chars "shift: can't shift that many"), .exit)
        else ({ st with positional := st.positional.drop n }).done 0)
  | "exit" =>
    some (match st.countArgument "exit" args st.status with
      | .error out => out
      | .ok n => ({ st with status := n % 256 }, .exit))
  | "return" =>
    some (match st.countArgument "return" args st.status with
      | .error out => out
      | .ok n => ({ st with status := n }, .back))
  | "break" =>
    some (match st.roundArgument "break" args with
      | .error out => out
      | .ok n => ({ st with status := 0 }, if st.loops = 0 then .next else .leave (min n st.loops)))
  | "continue" =>
    some (match st.roundArgument "continue" args with
      | .error out => out
      | .ok n => ({ st with status := 0 }, if st.loops = 0 then .next else .again (min n st.loops)))
  | "read" => some (st.read args)
  | "wait" => some (st.wait args)
  | "kill" => some (st.kill args)
  | "trap" => some (st.trap args)
  | "type" => some (st.type args)
  | _ => none

end State

end Shell

end ExitContract
