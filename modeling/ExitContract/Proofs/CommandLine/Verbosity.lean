import ExitContract.Proofs.CommandLine.Clause
import ExitContract.Proofs.CommandLine.Passage
import ExitContract.Proofs.CommandLine.SideBySide

/-!
# Lines with and without the flag for more words

A user may ask the program to say more, by a flag that can stand at many places of a line.
Where it is read as the flag, it changes nothing else that the line asks for.

**Where it is no flag.** The same letters may be a word of the command that is run, or the
value of an option, and then it is another command or another value that is asked for. To
tell the one from the other takes no look at the line. If putting the letters in makes the
request say more, they were read as the flag (`parse_flagged`). If they were not, then as
much is said as before, since from there on the two lines raise the flag at the same words,
whatever became of the letters.

**Two comparisons.** So two readings are compared in one of two ways. Where the flag was
raised, the settings are the same but for it. Where the letters went elsewhere, the settings
may be anything, but the flag is the same on both sides. Both ways last to the end of the
line (`lasting_louder`, `lasting_even`).

## Main definitions

* `Flagged` — words with the flag put in
* `Louder`, `Even` — settings that are the same but for the flag, and those with the same flag

## Main statements

* `readScope_flagged`, `readRoot_flagged` — what the flag changes in a scope and in a line
* `parse_flagged` — a request that says more asks for the same
-/

namespace ExitContract

namespace CommandLine

/-! ### Putting the flag in -/

/-- Letters that share a word. -/
def letters (cs : List Char) : Bytes := hyphen :: Utf8.encodeChars cs

/-- The words that are the flag for more words and nothing else. -/
def flagWords : List Bytes :=
  [letters ['v'], hyphen :: hyphen :: Utf8.encode Item.verbose.long]

/-- The second list of words is the first one with the flag for more words put in. -/
inductive Flagged : List Bytes → List Bytes → Prop
  /-- It has a word of its own. -/
  | word {flag : Bytes} (after : List Bytes) : flag ∈ flagWords → Flagged after (flag :: after)
  /-- It shares a word with other letters. -/
  | letter {c : Char} (cs : List Char) (after : List Bytes) : c ≠ '-' →
      Flagged (letters (c :: cs) :: after) (letters ('v' :: c :: cs) :: after)
  /-- It comes later. -/
  | cons (word : Bytes) {words words' : List Bytes} : Flagged words words' →
      Flagged (word :: words) (word :: words')

/-- Settings that are the same, but that the flag is raised on the second side. -/
def Louder (s s' : Settings) : Prop := s' = s.put .verbose

/-- Settings in which the flag is the same. -/
def Even (s s' : Settings) : Prop := s.verbose = s'.verbose

variable {scope : Scope} {r r' : Reader} {s s' : Settings} {item : Item} {value flag : Bytes}
  {words words' : List Bytes} {env : Environment}

/-! ### What lasts -/

/-- A value changes nothing about the flag. -/
theorem verbose_assign (assigned : s.assign item value = .ok s') : s'.verbose = s.verbose := by
  cases item with
  | config | message | format | directory | file =>
      obtain ⟨_, -, rfl⟩ := map_eq_ok_iff.mp assigned
      rfl
  | expect | killCode | timeout | assignment =>
      obtain ⟨_, -, rest⟩ := bind_eq_ok_iff.mp assigned
      obtain ⟨_, -, rfl⟩ := map_eq_ok_iff.mp rest
      rfl
  | verbose | help | version | noExpect | failOnTimeout =>
      cases assigned
      rfl

theorem verbose_give (given : s.give item value = .ok s') : s'.verbose = s.verbose := by
  unfold Settings.give at given
  split at given
  · cases given
  · exact verbose_assign given

theorem verbose_settle (settled : r.settle = .ok s) : s.verbose = r.settings.verbose := by
  unfold Reader.settle at settled
  split at settled
  · cases settled
    rfl
  · cases settled
  · exact verbose_give settled

/-- With the flag raised, a value is set as without it. -/
theorem assign_louder (s : Settings) (item : Item) (value : Bytes) :
    Agree Louder (s.assign item value) ((s.put .verbose).assign item value) := by
  cases item with
  | config | message | format | directory | file =>
      refine (agree_self _).map ?_
      rintro v _ rfl
      rfl
  | expect | killCode | timeout | assignment =>
      refine (agree_self _).bind ?_
      rintro text _ rfl
      refine (agree_self _).map ?_
      rintro v _ rfl
      rfl
  | verbose | help | version | noExpect | failOnTimeout => exact .ok rfl

/-- **Settings that are the same but for the flag stay so.** -/
theorem lasting_louder : Lasting Louder where
  give := by
    rintro s _ item value rfl
    unfold Settings.give
    cases item with
    | verbose => exact agree_error_right _ _
    | _ =>
        split
        · exact agree_error_left _ _
        split
        · exact agree_error_right _ _
        · exact assign_louder s _ value
  raise := by
    rintro s _ item rfl
    cases item with
    | help | version => exact agree_error_left _ _
    | verbose => exact agree_error_right _ _
    | _ =>
        intro t t' raised raised'
        unfold Settings.raise at raised raised'
        dsimp only at raised raised'
        split at raised
        · cases raised
        split at raised'
        · cases raised'
        cases raised
        cases raised'
        rfl

/-- **Settings in which the flag is the same stay so.** -/
theorem lasting_even : Lasting Even where
  give := by
    intro s s' item value same t t' given given'
    rw [Even, verbose_give given, verbose_give given']
    exact same
  raise := by
    intro s s' item same t t' raised raised'
    unfold Settings.raise at raised raised'
    cases item with
    | help | version => cases raised
    | _ =>
        dsimp only at raised raised'
        split at raised
        · cases raised
        split at raised'
        · cases raised'
        cases raised
        cases raised'
        first
          | rfl
          | exact same

/-- Values make no difference to the flag. -/
theorem even_held (s : Settings) (item : Item) (value value' : Bytes) :
    Along Even ⟨s, .held item value⟩ ⟨s, .held item value'⟩ :=
  along_held item fun _ _ given given' => (verbose_give given).trans (verbose_give given').symm

/-- Raising the flag leaves the reader as it would be without it. -/
theorem along_of_raise (raised : r.raise .verbose = .ok r') : Along Louder r r' := by
  obtain ⟨s, settled, rest⟩ := bind_eq_ok_iff.mp raised
  obtain ⟨t, raise, rfl⟩ := map_eq_ok_iff.mp rest
  obtain rfl : s.put .verbose = t := by
    unfold Settings.raise at raise
    dsimp only at raise
    split at raise
    · cases raise
    · exact Except.ok.inj raise
  refine ⟨fun item => ⟨?_, nofun⟩, fun item waits => ?_, ?_⟩
  · intro waits
    exact absurd settled (settle_ne_ok waits)
  · exact absurd settled (settle_ne_ok waits)
  · rw [settled]
    exact .ok rfl

/-! ### One word -/

@[simp] theorem short?_v (scope : Scope) : scope.short? 'v' = some .verbose := by
  cases scope <;> decide

theorem verbose_mem_items (scope : Scope) : .verbose ∈ scope.items := by
  cases scope <;> decide

/-- Letters are read one by one, unless they belong to a command. -/
theorem stepByLooks_letters (scope : Scope) (r : Reader) {c : Char} (other : c ≠ '-')
    (cs : List Char) :
    stepByLooks scope r (letters (c :: cs)) =
      if scope.takesCommand && (c :: cs).any fun c => (scope.short? c).isNone then
        stepPlain r (letters (c :: cs))
      else .ofResult (readCluster scope r (c :: cs)) := by
  obtain ⟨b, bs, written, second⟩ := encodeChars_eq_cons other cs
  have read : Utf8.decodeChars? (b :: bs) = some (c :: cs) := by
    rw [← written, Utf8.decodeChars?, Utf8.pieces_encodeChars, Utf8.mapM_scalar?]
  rw [letters, written, stepByLooks_short second]
  simp only [stepShort, read]
  split
  · rfl
  · cases readCluster scope r (c :: cs) <;> rfl

@[simp] theorem readCluster_v (scope : Scope) (r : Reader) (cs : List Char) :
    readCluster scope r ('v' :: cs) =
      (r.raise .verbose).bind fun r => readCluster scope r cs := by
  rw [readCluster.eq_def]
  simp only [short?_v]
  rfl

/-- The flag in a word of its own is raised, unless an option takes any word. -/
theorem step_flag (flagged : flag ∈ flagWords) (scope : Scope) (r : Reader) :
    (∃ item : Item, item.hyphenValue = true ∧
        step scope r flag = .next ⟨r.settings, .held item flag⟩) ∨
      step scope r flag = .ofResult (r.raise .verbose) := by
  have looked : stepByLooks scope r flag = .ofResult (r.raise .verbose) := by
    simp only [flagWords, List.mem_cons, List.not_mem_nil, or_false] at flagged
    rcases flagged with rfl | rfl
    · rw [stepByLooks_letters scope r (by decide), if_neg (by simp [short?_v]), readCluster_v]
      cases r.raise .verbose <;> rfl
    · exact stepByLooks_alone (verbose_mem_items scope) r
  unfold step
  split
  · next item waits =>
      split
      · next any => exact .inl ⟨item, any, rfl⟩
      · exact .inr looked
  · exact .inr looked

/-- The flag is no number. -/
theorem give_flag (flagged : flag ∈ flagWords) (any : item.hyphenValue = true) :
    s.give item flag ≠ .ok s' := by
  intro given
  unfold Settings.give at given
  split at given
  · cases given
  have text : textValue flag = .ok "-v" ∨ textValue flag = .ok "--verbose" := by
    simp only [flagWords, List.mem_cons, List.not_mem_nil, or_false] at flagged
    rcases flagged with rfl | rfl
    · exact .inl rfl
    · exact .inr rfl
  cases item with
  | expect | killCode =>
      rcases text with text | text
      all_goals
        simp only [Settings.assign, text] at given
        cases given
  | _ => cases any

/-- A letter put before others is raised, or is lost with them in a word of another kind. -/
theorem step_letter (scope : Scope) (r : Reader) {c : Char} (other : c ≠ '-')
    (cs : List Char) :
    let one := step scope r (letters (c :: cs))
    let two := step scope r (letters ('v' :: c :: cs))
    StepsAlong Louder one two ∨ StepsAlong Even one two := by
  have looked : let one := stepByLooks scope r (letters (c :: cs))
      let two := stepByLooks scope r (letters ('v' :: c :: cs))
      StepsAlong Louder one two ∨ StepsAlong Even one two := by
    have known : (scope.takesCommand && ('v' :: c :: cs).any fun c => (scope.short? c).isNone) =
        (scope.takesCommand && (c :: cs).any fun c => (scope.short? c).isNone) := by
      simp [short?_v]
    rw [stepByLooks_letters scope r other, stepByLooks_letters scope r (by decide), known]
    split
    · refine .inr ?_
      unfold stepPlain
      split
      · exact .next (even_held r.settings _ _ _)
      · exact .operand
    · refine .inl (.ofResult ?_)
      rw [readCluster_v]
      intro r₁ r₂ read read'
      obtain ⟨raised, raise, read'⟩ := bind_eq_ok_iff.mp read'
      exact lasting_louder.readCluster (along_of_raise raise) scope (c :: cs) r₁ r₂ read read'
  unfold step
  split
  · next item waits =>
      split
      · exact .inr (.next (even_held r.settings item _ _))
      · exact looked
  · exact looked

/-- Letters are no operand where no command may start. -/
theorem step_letters_ne_operand (alone : scope.takesCommand = false) {c : Char}
    (other : c ≠ '-') (cs : List Char) : step scope r (letters (c :: cs)) ≠ .operand := by
  have looked : stepByLooks scope r (letters (c :: cs)) ≠ .operand := by
    rw [stepByLooks_letters scope r other, alone, if_neg (by simp)]
    cases readCluster scope r (c :: cs) <;> nofun
  unfold step
  split
  · split
    · nofun
    · exact looked
  · exact looked

/-! ### A scope -/

/-- What two scopes were given says as much in both, or it is the same but for the flag. -/
def Heard (g g' : Given) : Prop := Even g.settings g'.settings ∨ GivenAlong Louder g g'

/-- The operand is held, after what is pending was dealt with. -/
theorem readOperands_cons_eq_ok {word : Bytes}
    (read : readOperands r (word :: words) = .ok r') :
    ∃ s, r.settle = .ok s ∧ readOperands ⟨s, .held .file word⟩ words = .ok r' := by
  rw [readOperands] at read
  split at read
  · cases read
  · cases read
  · obtain ⟨held, hold, rest⟩ := bind_eq_ok_iff.mp read
    obtain ⟨s, settled, rfl⟩ := map_eq_ok_iff.mp hold
    exact ⟨s, settled, rest⟩

theorem verbose_readOperands (read : readOperands r words = .ok r') :
    r'.settings.verbose = r.settings.verbose := by
  induction words generalizing r with
  | nil =>
      cases read
      rfl
  | cons word words ih =>
      obtain ⟨s, settled, rest⟩ := readOperands_cons_eq_ok read
      exact (ih rest).trans (verbose_settle settled)

/-- The words of a command have no part in the flag. -/
theorem heard_takeCommand (r : Reader) (words words' : List Bytes) :
    Agree Heard (takeCommand r words) (takeCommand r words') := by
  intro g g' taken taken'
  obtain ⟨s, settled, rfl⟩ := map_eq_ok_iff.mp taken
  obtain ⟨s', settled', rfl⟩ := map_eq_ok_iff.mp taken'
  cases settled.symm.trans settled'
  exact .inl rfl

/-- Nor have the words after the mark where there is no command. -/
theorem heard_readOperands (r : Reader) (words words' : List Bytes) :
    Agree Heard ((readOperands r words).bind fun r => takeCommand r [])
      ((readOperands r words').bind fun r => takeCommand r []) := by
  intro g g' taken taken'
  obtain ⟨r₁, read, taken⟩ := bind_eq_ok_iff.mp taken
  obtain ⟨r₂, read', taken'⟩ := bind_eq_ok_iff.mp taken'
  obtain ⟨s, settled, rfl⟩ := map_eq_ok_iff.mp taken
  obtain ⟨s', settled', rfl⟩ := map_eq_ok_iff.mp taken'
  refine .inl ?_
  rw [Even, verbose_settle settled, verbose_settle settled', verbose_readOperands read,
    verbose_readOperands read']

/-- No word of a scope is read before what is pending was dealt with. -/
theorem settle_of_readScope {g : Given} (free : mayName r = true)
    (read : readScope scope r words = .ok g) : ∃ s, r.settle = .ok s := by
  cases words with
  | nil =>
      obtain ⟨s, settled, -⟩ := map_eq_ok_iff.mp read
      exact ⟨s, settled⟩
  | cons word words =>
      rw [readScope] at read
      split at read
      · next went => exact settle_of_step free went
      · cases read
      · split at read
        · obtain ⟨s, settled, -⟩ := map_eq_ok_iff.mp read
          exact ⟨s, settled⟩
        · split at read
          · cases read
          · next first =>
              obtain ⟨s, settled, -⟩ := readOperands_cons_eq_ok first
              exact ⟨s, settled⟩
      · split at read
        · obtain ⟨s, settled, -⟩ := map_eq_ok_iff.mp read
          exact ⟨s, settled⟩
        · cases words with
          | nil =>
              obtain ⟨s, settled, -⟩ := map_eq_ok_iff.mp read
              exact ⟨s, settled⟩
          | cons next words =>
              obtain ⟨r', first, -⟩ := bind_eq_ok_iff.mp read
              obtain ⟨s, settled, -⟩ := readOperands_cons_eq_ok first
              exact ⟨s, settled⟩

/-- Two words that are the same to a reader, or lost to it in the same way, leave the scope
with as much to say, if what they leave between the settings tells so. -/
theorem heard_of_stepsAlong {R : Settings → Settings → Prop} (L : Lasting R)
    (tells : ∀ g g', GivenAlong R g g' → Heard g g') {word word' : Bytes}
    (stepped : StepsAlong R (step scope r word) (step scope r word')) (after : List Bytes) :
    Agree Heard (readScope scope r (word :: after)) (readScope scope r (word' :: after)) := by
  rw [readScope, readScope]
  generalize step scope r word = x at stepped
  generalize step scope r word' = y at stepped
  cases stepped with
  | next along => exact (L.readScope along scope after).mono tells
  | left => exact agree_error_left _ _
  | right => exact agree_error_right _ _
  | operand =>
      dsimp only
      split
      · exact heard_takeCommand r _ _
      · -- the two words are both the operand, about which the flag says nothing
        cases read : readOperands r [word] with
        | error => exact agree_error_left _ _
        | ok r₁ =>
            cases read' : readOperands r [word'] with
            | error => exact agree_error_right _ _
            | ok r₂ =>
                refine (lasting_even.readScope ?_ scope after).mono fun g g' given =>
                  .inl given.settings
                obtain ⟨s, settled, held⟩ := readOperands_cons_eq_ok read
                obtain ⟨s', settled', held'⟩ := readOperands_cons_eq_ok read'
                cases settled.symm.trans settled'
                cases held
                cases held'
                exact even_held s .file word word'
  | separator =>
      dsimp only
      split
      · exact heard_takeCommand r _ _
      · exact heard_readOperands r _ _

/-- **What the flag changes in a scope**: nothing but itself, if it changes that. -/
theorem readScope_flagged (flagged : Flagged words words') (scope : Scope) (r : Reader) :
    Agree Heard (readScope scope r words) (readScope scope r words') := by
  induction flagged generalizing r with
  | @word flag after flag_mem =>
      rcases step_flag flag_mem scope r with ⟨item, any, held⟩ | raised
      · intro g g' _ read'
        rw [readScope, held] at read'
        obtain ⟨s, given⟩ := settle_of_readScope rfl read'
        exact absurd given (give_flag flag_mem any)
      · rw [readScope.eq_def scope r (flag :: after)]
        dsimp only
        rw [raised]
        cases raise : r.raise .verbose with
        | error => exact agree_error_right _ _
        | ok r₁ =>
            exact (lasting_louder.readScope (along_of_raise raise) scope after).mono
              fun _ _ => .inr
  | @letter c cs after other =>
      rcases step_letter scope r other cs with louder | even
      · exact heard_of_stepsAlong lasting_louder (fun _ _ => .inr) louder after
      · exact heard_of_stepsAlong lasting_even (fun _ _ given => .inl given.settings) even after
  | @cons word words words' _ ih =>
      rw [readScope, readScope]
      split
      · exact ih _
      · exact agree_error_left _ _
      · split
        · exact heard_takeCommand r _ _
        · split
          · exact agree_error_left _ _
          · exact ih _
      · split
        · exact heard_takeCommand r _ _
        · exact heard_readOperands r _ _

/-! ### A whole line -/

/-- Two requests say as much, or they ask for the same. -/
def Alike (q q' : Request) : Prop :=
  q.verbose = q'.verbose ∨ q.action = q'.action ∧ q.config = q'.config

/-- The flag has no part in what a subcommand does. -/
theorem action_louder (scope : Scope) (s : Settings) (words : List Bytes) :
    action scope ⟨s.put .verbose, words⟩ = action scope ⟨s, words⟩ := rfl

theorem alike_of_louder {q q' : Request} (along : RequestAlong Louder env q q') :
    Alike q q' := by
  obtain ⟨root, _, sub, a, rfl, rfl, rfl⟩ := along
  exact .inr ⟨rfl, rfl⟩

theorem alike_of_even {q q' : Request} (along : RequestAlong Even env q q') : Alike q q' := by
  obtain ⟨root, root', sub, a, same, rfl, rfl⟩ := along
  exact .inl (congrArg (· || sub.verbose) same)

theorem readSubcommand_flagged (flagged : Flagged words words') (scope : Scope) (r : Reader) :
    Agree Alike (readSubcommand env r scope words) (readSubcommand env r scope words') := by
  have heard := readScope_flagged flagged scope {}
  intro q q' read read'
  unfold readSubcommand at read read'
  split at read
  · cases read
  next g given =>
  split at read'
  · cases read'
  next g' given' =>
  split at read
  · cases read
  next a acted =>
  split at read'
  · cases read'
  next a' acted' =>
  obtain ⟨root, settled, rfl⟩ := map_eq_ok_iff.mp read
  obtain ⟨root', settled', rfl⟩ := map_eq_ok_iff.mp read'
  cases settled.symm.trans settled'
  obtain ⟨s, taken⟩ := g
  obtain ⟨s', taken'⟩ := g'
  rcases heard _ _ given given' with same | ⟨rfl, rfl⟩
  · exact .inl (congrArg (root.verbose || ·) same)
  · rw [action_louder] at acted'
    cases acted.symm.trans acted'
    exact .inr ⟨rfl, rfl⟩

/-- No word of a line is read before what is pending was dealt with. -/
theorem settle_of_readRoot {q : Request} (free : mayName r = true)
    (read : readRoot env r words = .ok q) : ∃ s, r.settle = .ok s := by
  obtain ⟨before, scope, rest, r', rfl, -, passed, read⟩ := readRoot_eq_ok read
  unfold readSubcommand at read
  split at read
  · cases read
  split at read
  · cases read
  obtain ⟨s, settled, -⟩ := map_eq_ok_iff.mp read
  exact settle_of_passes passed free settled

/-- Two words that are the same to a reader, or lost to it in the same way, are followed by
the same requests, as far as what they leave between the requests tells so. -/
theorem alike_of_stepsAlong {R : Settings → Settings → Prop} (L : Lasting R)
    (tells : ∀ q q', RequestAlong R env q q' → Alike q q') {word word' : Bytes}
    (read : step .root r word ≠ .operand) (read' : step .root r word' ≠ .operand)
    (stepped : StepsAlong R (step .root r word) (step .root r word')) (after : List Bytes) :
    Agree Alike (readRoot env r (word :: after)) (readRoot env r (word' :: after)) := by
  rw [readRoot_cons env read, readRoot_cons env read']
  generalize step .root r word = x at stepped
  generalize step .root r word' = y at stepped
  cases stepped with
  | next along => exact (L.readRoot along env after).mono tells
  | left | operand => exact agree_error_left _ _
  | right => exact agree_error_right _ _
  | separator => exact agree_bind_error _ _ _

/-- **What the flag changes in a line**: nothing but itself, if it changes that. -/
theorem readRoot_flagged (flagged : Flagged words words') (r : Reader) :
    Agree Alike (readRoot env r words) (readRoot env r words') := by
  induction flagged generalizing r with
  | @word flag after flag_mem =>
      rcases step_flag flag_mem .root r with ⟨item, any, held⟩ | raised
      · intro q q' _ read'
        rw [readRoot_cons env (by simp [held]), held] at read'
        obtain ⟨s, given⟩ := settle_of_readRoot rfl read'
        exact absurd given (give_flag flag_mem any)
      · have read : step .root r flag ≠ .operand := by
          rw [raised]
          cases r.raise .verbose <;> nofun
        rw [readRoot_cons env read, raised]
        cases raise : r.raise .verbose with
        | error => exact agree_error_right _ _
        | ok r₁ =>
            exact (lasting_louder.readRoot (along_of_raise raise) env after).mono
              fun _ _ => alike_of_louder
  | @letter c cs after other =>
      have read : step .root r (letters (c :: cs)) ≠ .operand :=
        step_letters_ne_operand rfl other cs
      have read' : step .root r (letters ('v' :: c :: cs)) ≠ .operand :=
        step_letters_ne_operand rfl (by decide) (c :: cs)
      rcases step_letter .root r other cs with louder | even
      · exact alike_of_stepsAlong lasting_louder (fun _ _ => alike_of_louder)
          read read' louder after
      · exact alike_of_stepsAlong lasting_even (fun _ _ => alike_of_even)
          read read' even after
  | @cons word words words' _ ih =>
      rw [readRoot, readRoot]
      split
      · exact agree_error_left _ _
      split
      · exact readSubcommand_flagged (by assumption) _ r
      split
      · exact ih _
      · exact agree_error_left _ _
      · exact agree_error_left _ _
      · exact agree_bind_error _ _ _

/-- **A request that says more asks for the same.** If a line with the flag put in says more
than the line without it, then that is all it does. -/
theorem parse_flagged {program : Bytes} {q q' : Request} (flagged : Flagged words words')
    (read : parse env (program :: words) = .ok q)
    (read' : parse env (program :: words') = .ok q')
    (quiet : q.verbose = false) (loud : q'.verbose = true) :
    q.action = q'.action ∧ q.config = q'.config := by
  refine (readRoot_flagged flagged {} q q' read read').resolve_left fun same => ?_
  rw [quiet, loud] at same
  cases same

end CommandLine

end ExitContract
