import ExitContract.Program.Plan
import ExitContract.Proofs.Keyed
import Mathlib

/-!
# What a command line asks for

A command line is read as a request, the surroundings give a configuration, and the two
together settle the options that a command is run with.

**Who has the last word.** What stands on the command line counts before what is
configured, field by field. The exit code has three states there: one that is given, none
at all, and nothing said. A flag that makes the limit strict can be raised on the command
line and not lowered.

**Variables.** They are given one by one, perhaps the same one again. They are put into a
table one after the other, so that the last value of each counts
(`Bindings.get?_foldl_set`). To put them in once more changes values back and forth and
leaves the table as it was (`Bindings.foldl_set_foldl_set`).

## Main definitions

* `World.Asks` — a command line is read as a request, and there is a configuration
* `Execution.Settles` — the options that a request and a configuration come to

## Main statements

* `World.plan_eq_ok_iff` — the plan of a command line is that of its request
* `Request.options_settled` — every field of the options of a plan
-/

namespace ExitContract

/-- A command line is read as a request, and for that there is a configuration. -/
structure World.Asks (w : World) (line : List Bytes) (r : Request) (config : Config) :
    Prop where
  read : ∃ words, (w.expandCommandLine line).result = .ok words ∧
    CommandLine.parse w.environment words = .ok r
  configured : (w.loadConfig r.config).result = .ok config

namespace World

variable {w : World} {line words : List Bytes} {r : Request} {config : Config} {p : Plan}

theorem planRequest_eq_ok_iff :
    (w.planRequest r).result = .ok p ↔
      ∃ config, (w.loadConfig r.config).result = .ok config ∧ p = r.plan config := by
  rw [planRequest, Logged.map_result]
  cases (w.loadConfig r.config).result with
  | error e => simp
  | ok config => simp [eq_comm]

theorem planWords_eq_ok_iff :
    (w.planWords words).result = .ok p ↔
      ∃ r, CommandLine.parse w.environment words = .ok r ∧
        (w.planRequest r).result = .ok p := by
  rw [planWords]
  cases CommandLine.parse w.environment words <;> simp

/-- **The plan of a command line is that of its request.** -/
theorem plan_eq_ok_iff :
    (w.plan line).result = .ok p ↔ ∃ r config, w.Asks line r config ∧ p = r.plan config := by
  have stages : (w.plan line).result = .ok p ↔
      ∃ words, (w.expandCommandLine line).result = .ok words ∧
        (w.planWords words).result = .ok p := by
    rw [plan, Logged.bind, Logged.after_result]
    cases (w.expandCommandLine line).result <;> simp
  rw [stages]
  constructor
  · rintro ⟨words, expanded, planned⟩
    obtain ⟨r, parsed, planned⟩ := planWords_eq_ok_iff.mp planned
    obtain ⟨config, loaded, rfl⟩ := planRequest_eq_ok_iff.mp planned
    exact ⟨r, config, ⟨⟨words, expanded, parsed⟩, loaded⟩, rfl⟩
  · rintro ⟨r, config, ⟨⟨words, expanded, parsed⟩, loaded⟩, rfl⟩
    have planned := planRequest_eq_ok_iff.mpr ⟨config, loaded, rfl⟩
    exact ⟨words, expanded, planWords_eq_ok_iff.mpr ⟨r, parsed, planned⟩⟩

/-- Where there are no files, the variables are laid on top of the built-in settings. -/
theorem loadConfig_of_noFiles (noFiles : w.configFiles = [])
    (decoded : Config.decode .layered
      ((Config.default.setting .builtIn).overlay w.environment.settings) = .ok config) :
    (w.loadConfig none).result = .ok config := by
  have files : w.fileSettings [] = .ok (Config.default.setting .builtIn) := rfl
  show w.configOf w.configFiles = _
  rw [noFiles, configOf, files]
  dsimp only
  rw [decoded]

/-- Where no source says anything, the built-in configuration is loaded. -/
theorem loadConfig_of_silent (noFiles : w.configFiles = [])
    (noVariables : w.environment.settings = .table .environment []) :
    (w.loadConfig none).result = .ok Config.default := by
  refine loadConfig_of_noFiles noFiles ?_
  rw [noVariables]
  cbv

end World

/-! ### Tables of variables -/

namespace Bindings

variable (bs : Bindings) (pairs : List (String × String)) (name value : String)

/-- What a table holds once a variable is set. -/
theorem mem_set {b : String × String} :
    b ∈ bs.set name value ↔ b = (name, value) ∨ (b ∈ bs ∧ b.1 ≠ name) := by
  rw [set]
  split
  · next there =>
      obtain ⟨old, oldMem, same⟩ := List.any_eq_true.mp there
      rw [List.mem_map]
      constructor
      · rintro ⟨a, mem, rfl⟩
        by_cases h : a.1 = name <;> simp [h, mem]
      · rintro (rfl | ⟨mem, other⟩)
        · exact ⟨old, oldMem, if_pos same⟩
        · exact ⟨b, mem, if_neg (by simpa using other)⟩
  · next absent =>
      have other : b ∈ bs → b.1 ≠ name := by
        intro mem same
        exact absent (List.any_eq_true.mpr ⟨b, mem, by simpa using same⟩)
      rw [List.mem_append, List.mem_singleton, or_comm]
      exact or_congr_right ⟨fun mem => ⟨mem, other mem⟩, And.left⟩

/-- Replacing the value of a variable is seen by whoever asks for it, if it is there. -/
theorem lookup_replace (other : String) :
    List.lookup other (bs.map fun b => if b.1 == name then (name, value) else b) =
      if other = name then (List.lookup name bs).map fun _ => value
      else List.lookup other bs := by
  induction bs with
  | nil => simp
  | cons b bs ih =>
      obtain ⟨key, old⟩ := b
      simp only [beq_iff_eq] at ih
      by_cases here : key = name
      · by_cases asked : other = name <;> simp [here, asked, ih]
      · by_cases asked : other = name
        · subst asked
          simp [here, Ne.symm here, ih]
        · simp [here, asked, ih]

theorem get?_set (other : String) :
    (bs.set name value).get? other = if other = name then some value else bs.get? other := by
  rw [set, get?, get?]
  split
  · next there =>
      obtain ⟨b, mem, same⟩ := List.any_eq_true.mp there
      have found : (List.lookup name bs).isSome = true := by
        rw [List.lookup_isSome_iff]
        exact ⟨b, mem, beq_iff_eq.mpr (beq_iff_eq.mp same).symm⟩
      obtain ⟨old, found⟩ := Option.isSome_iff_exists.mp found
      rw [lookup_replace, found, Option.map_some]
  · next absent =>
      have fresh : List.lookup name bs = none := by
        refine Keyed.lookup_eq_none_of_notMem fun b mem same => absent ?_
        exact List.any_eq_true.mpr ⟨b, mem, beq_iff_eq.mpr same⟩
      rw [List.lookup_append]
      by_cases asked : other = name <;> simp [asked, fresh]

/-- **The last value of each variable counts**, and what is not among them is as it was. -/
theorem get?_foldl_set :
    (pairs.foldl (fun bs v => Bindings.set bs v.1 v.2) bs).get? name =
      (List.lookup name pairs.reverse).or (bs.get? name) := by
  induction pairs using List.reverseRecOn with
  | nil => rfl
  | append_singleton pairs pair ih =>
      rw [List.foldl_append, List.foldl_cons, List.foldl_nil, get?_set, ih,
        List.reverse_concat, Keyed.lookup_cons]
      split <;> rfl

/-- What a table holds for variables that were put into it are their last values. -/
theorem snd_eq_of_mem_foldl_set {b : String × String}
    (mem : b ∈ pairs.foldl (fun bs v => Bindings.set bs v.1 v.2) bs)
    (last : List.lookup b.1 pairs.reverse = some value) : b.2 = value := by
  induction pairs using List.reverseRecOn with
  | nil => cases last
  | append_singleton pairs pair ih =>
      rw [List.foldl_append, List.foldl_cons, List.foldl_nil, mem_set] at mem
      rw [List.reverse_concat, Keyed.lookup_cons] at last
      rcases mem with rfl | ⟨mem, other⟩
      · rw [if_pos rfl] at last
        exact Option.some.inj last
      · rw [if_neg other] at last
        exact ih mem last

/-- Putting variables into a table that has all of them only changes its values. -/
theorem foldl_set_of_forall_mem (there : ∀ pair ∈ pairs, ∃ b ∈ bs, b.1 = pair.1) :
    pairs.foldl (fun bs v => Bindings.set bs v.1 v.2) bs =
      bs.map fun b => (b.1, (List.lookup b.1 pairs.reverse).getD b.2) := by
  induction pairs using List.reverseRecOn with
  | nil => exact (List.map_id bs).symm
  | append_singleton pairs pair ih =>
      have earlier : ∀ p ∈ pairs, ∃ b ∈ bs, b.1 = p.1 := fun p mem =>
        there p (List.mem_append_left _ mem)
      obtain ⟨b, mem, same⟩ := there pair (List.mem_append_right _ List.mem_cons_self)
      rw [List.foldl_append, List.foldl_cons, List.foldl_nil, ih earlier, set, if_pos,
        List.map_map]
      · refine List.map_congr_left fun b _ => ?_
        rw [Function.comp_apply, List.reverse_concat, Keyed.lookup_cons]
        by_cases here : b.1 = pair.1 <;> simp [here]
      · rw [List.any_map, List.any_eq_true]
        exact ⟨b, mem, beq_iff_eq.mpr same⟩

/-- Variables that were put into a table are there. -/
theorem exists_mem_foldl_set {pair : String × String} (mem : pair ∈ pairs) :
    ∃ b ∈ pairs.foldl (fun bs v => Bindings.set bs v.1 v.2) bs, b.1 = pair.1 := by
  induction pairs using List.reverseRecOn with
  | nil => cases mem
  | append_singleton pairs last ih =>
      rw [List.foldl_append, List.foldl_cons, List.foldl_nil]
      by_cases same : pair.1 = last.1
      · exact ⟨last, (mem_set _ _ _).mpr (Or.inl rfl), same.symm⟩
      · have earlier : pair ∈ pairs := by
          rcases List.mem_append.mp mem with mem | mem
          · exact mem
          · exact absurd (congrArg Prod.fst (List.mem_singleton.mp mem)) same
        obtain ⟨b, there, name⟩ := ih earlier
        exact ⟨b, (mem_set _ _ _).mpr (Or.inr ⟨there, name ▸ same⟩), name⟩

/-- **Putting the same variables in once more leaves a table as it is.** -/
theorem foldl_set_foldl_set :
    pairs.foldl (fun bs v => Bindings.set bs v.1 v.2)
        (pairs.foldl (fun bs v => Bindings.set bs v.1 v.2) bs) =
      pairs.foldl (fun bs v => Bindings.set bs v.1 v.2) bs := by
  rw [foldl_set_of_forall_mem _ pairs fun pair mem => exists_mem_foldl_set bs pairs mem]
  refine (List.map_congr_left fun b mem => ?_).trans (List.map_id _)
  cases last : List.lookup b.1 pairs.reverse with
  | none => rfl
  | some value => rw [Option.getD_some, ← snd_eq_of_mem_foldl_set bs pairs value mem last, id]

end Bindings

/-! ### Options -/

/-- The options that what is asked for comes to on top of what is configured: the command
line counts, and where it says nothing the configuration does. The limit, the kill code and
the flag that makes the limit strict are given apart, because only a streamed command has
them on its line. -/
structure Execution.Settles (e : Execution) (limit : Option UInt64) (killCode : Option Int32)
    (strict : Bool) (d : Defaults) (o : Options) : Prop where
  message : o.errorMessage = e.message.getD d.errorMessage
  anyCode : e.noExpect = true → o.expectedCode = none
  givenCode : ∀ code, e.noExpect = false → e.expect = some code →
    o.expectedCode = some code
  configuredCode : e.noExpect = false → e.expect = none →
    ∀ code, o.expectedCode = some code ↔ d.checkCode = true ∧ code = d.expectedCode
  directory : o.workingDirectory = e.directory
  timeout : o.timeout = .ofSeconds (limit.getD d.timeout).toNat
  unlimited : o.timeout.isZero = true ↔ limit.getD d.timeout = 0
  killCode : o.killCode = killCode.getD d.killCode
  strict : o.failOnTimeout = true ↔ strict = true ∨ d.failOnTimeout = true
  binding : ∀ name, o.bindings.get? name = List.lookup name e.bindings.reverse

@[simp] theorem Duration.isZero_ofSeconds (n : Nat) :
    (Duration.ofSeconds n).isZero = true ↔ n = 0 := by
  rw [Duration.isZero, Duration.ofSeconds, beq_iff_eq]
  exact Nat.mul_eq_zero.trans (or_iff_left (by decide))

namespace StreamRequest

/-- The request to stream a command that says nothing about its limit. -/
def plain (e : Execution) : StreamRequest := ⟨none, none, false, e⟩

@[simp] theorem plain_applyTo (e : Execution) (o : Options) :
    (plain e).applyTo o = e.applyTo o := rfl

/-- What a request to stream comes to. -/
theorem settles (r : StreamRequest) (config : Config) :
    r.execution.Settles r.timeout r.killCode r.failOnTimeout config.defaults
      (r.applyTo config.options) := by
  have timeout : (r.applyTo config.options).timeout =
      .ofSeconds (r.timeout.getD config.defaults.timeout).toNat := by
    rw [applyTo]
    cases r.timeout <;> rfl
  refine ⟨rfl, ?_, ?_, ?_, ?_, timeout, ?_, rfl, ?_, ?_⟩
  · intro any
    exact if_pos any
  · intro code some given
    show r.execution.expectedCode _ = _
    rw [Execution.expectedCode, some, given]
    rfl
  · intro some silent code
    show r.execution.expectedCode _ = _ ↔ _
    rw [Execution.expectedCode, some, silent]
    cases h : config.defaults.checkCode <;> simp [Config.options, h, eq_comm]
  · rw [applyTo, Execution.applyTo]
    cases r.execution.directory <;> rfl
  · rw [timeout, Duration.isZero_ofSeconds, ← UInt64.toNat_inj]
    rfl
  · exact Bool.or_eq_true_iff
  · intro name
    show (r.execution.bindings.foldl _ _ : Bindings).get? name = _
    rw [Bindings.get?_foldl_set]
    exact Option.or_none

end StreamRequest

/-! ### Applying flags twice -/

attribute [ext] Options

/-- **Applying the same flags once more changes nothing.** -/
theorem Execution.applyTo_applyTo (e : Execution) (o : Options) :
    e.applyTo (e.applyTo o) = e.applyTo o := by
  refine Options.ext ?_ ?_ rfl rfl rfl ?_ ?_
  · show e.message.getD (e.message.getD o.errorMessage) = e.message.getD o.errorMessage
    cases e.message <;> rfl
  · show e.expectedCode (e.expectedCode o.expectedCode) = e.expectedCode o.expectedCode
    rw [expectedCode, expectedCode]
    cases e.noExpect <;> cases e.expect <;> rfl
  · rw [applyTo, applyTo]
    cases e.directory <;> rfl
  · exact Bindings.foldl_set_foldl_set o.bindings e.bindings

theorem StreamRequest.applyTo_applyTo (r : StreamRequest) (o : Options) :
    r.applyTo (r.applyTo o) = r.applyTo o := by
  -- Apart from the fields that only a stream has, `r` does what its execution does.
  have again := r.execution.applyTo_applyTo o
  refine Options.ext ?_ ?_ ?_ ?_ ?_ ?_ ?_
  · exact (congrArg Options.errorMessage again :)
  · exact (congrArg Options.expectedCode again :)
  · rw [applyTo, applyTo]
    cases r.timeout <;> rfl
  · show r.killCode.getD (r.killCode.getD o.killCode) = r.killCode.getD o.killCode
    cases r.killCode <;> rfl
  · show (r.failOnTimeout || (r.failOnTimeout || o.failOnTimeout)) =
      (r.failOnTimeout || o.failOnTimeout)
    rw [← Bool.or_assoc, Bool.or_self]
  · exact (congrArg Options.workingDirectory again :)
  · exact (congrArg Options.bindings again :)

/-- **Every field of the options that a plan holds is settled by precedence**, whatever is
asked for and whatever is configured: what stands on the command line counts, and else what
is configured. To apply the same flags once more changes nothing. The program carries out
this plan for every command line that is read as the request. -/
theorem Request.options_settled (r : Request) (config : Config) :
    (∀ w line, World.Asks w line r config → (w.plan line).result = .ok (r.plan config)) ∧
      match r.action with
      | .run q => ∃ o, (r.plan config).task = .run q.execution.command o q.format ∧
          q.execution.Settles none none false config.defaults o ∧ q.execution.applyTo o = o
      | .stream q => ∃ o, (r.plan config).task = .stream q.execution.command o ∧
          q.execution.Settles q.timeout q.killCode q.failOnTimeout config.defaults o ∧
          q.applyTo o = o
      | .tokenize q => (r.plan config).task = .tokenize q.file q.format := by
  constructor
  · intro w line asks
    exact World.plan_eq_ok_iff.mpr ⟨r, config, asks, rfl⟩
  · cases action : r.action with
    | run q =>
        have settled := (StreamRequest.plain q.execution).settles config
        rw [StreamRequest.plain_applyTo] at settled
        refine ⟨q.execution.applyTo config.options, ?_, settled,
          q.execution.applyTo_applyTo config.options⟩
        rw [plan, action]
        rfl
    | stream q =>
        refine ⟨q.applyTo config.options, ?_, q.settles config,
          q.applyTo_applyTo config.options⟩
        rw [plan, action]
        rfl
    | tokenize q =>
        rw [plan, action]
        rfl

/-- A limit of no seconds on the line, an exit code although codes are configured to be
checked for another one, and a variable that is given twice. -/
theorem Request.options_settled_of_stream :
    let w : World := { files := ⟨[]⟩, directory := [], environment := ⟨[]⟩ }
    let line := ["procwrap", "stream", "-t", "0", "--expect", "3", "-e", "A=1", "-e", "A=2",
      "--", "sh"].map Utf8.encode
    let e : Execution := ⟨none, some 3, false, none, [("A", "1"), ("A", "2")], ["sh"]⟩
    let r : Request := ⟨false, none, .stream ⟨some 0, none, false, e⟩⟩
    w.Asks line r Config.default ∧
      ∃ o, (w.plan line).result = .ok (r.plan Config.default) ∧
        (r.plan Config.default).task = .stream ⟨"sh", []⟩ o ∧ o.expectedCode = some 3 ∧
        o.timeout.isZero = true ∧ o.killCode = defaultKillCode ∧
        o.bindings.get? "A" = some "2" ∧ o.bindings.get? "B" = none := by
  intro w line e r
  have asks : w.Asks line r Config.default :=
    ⟨⟨_, rfl, rfl⟩, World.loadConfig_of_silent (by decide +kernel) rfl⟩
  obtain ⟨planned, o, task, settled, -⟩ := r.options_settled Config.default
  refine ⟨asks, o, planned w line asks, task, ?_, ?_, settled.killCode, ?_, ?_⟩
  · exact settled.givenCode 3 rfl rfl
  · exact settled.unlimited.mpr rfl
  · exact settled.binding "A"
  · exact settled.binding "B"

end ExitContract
