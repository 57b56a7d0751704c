import ExitContract.Proofs.CommandLine.OneWord

/-!
# Two readers side by side

Two readers that were brought to different states read the same words. What the words are to
them is the same, since that depends on nothing but whether an option waits for its value. So
whatever was between their settings stays, if it outlasts the setting of an item on both
sides (`Lasting`).

**Only if both succeed.** One of the two may refuse a word and the other not, as when the one
has a flag already. Nothing is said of that: two results are compared only where there are
two (`Agree`). That is enough for lines which are known to be requests, and it makes the
comparison go through every stage without a case for refusals.

**What is pending.** A reader may hold a value that it did not look at yet. Two readers are
alongside each other if they wait for the same, and if their settings are related as soon as
what they hold was dealt with. They need not hold the same.

## Main definitions

* `Agree` — two results are related if there are two
* `Lasting` — relations of settings that outlast the setting of an item
* `Along` — two readers that differ by such a relation

## Main statements

* `Lasting.step` — one word leaves two readers alongside each other
* `Lasting.readScope`, `Lasting.readRoot` — and so do all words of a scope and of a line
* `parse_congr` — which variable has a part in what a line asks for
-/

namespace ExitContract

namespace CommandLine

/-! ### Results that are related -/

section

variable {α β γ δ ε : Type} {R : α → β → Prop} {S : γ → δ → Prop}

/-- Two results are related, if both are results. -/
def Agree (R : α → β → Prop) (x : Except ε α) (y : Except ε β) : Prop :=
  ∀ a b, x = .ok a → y = .ok b → R a b

theorem Agree.ok {a : α} {b : β} (h : R a b) : Agree (ε := ε) R (.ok a) (.ok b) := by
  rintro _ _ ⟨⟩ ⟨⟩
  exact h

theorem agree_self (x : Except ε α) : Agree Eq x x := by
  intro a b left right
  exact Except.ok.inj (left.symm.trans right)

theorem agree_error_left (e : ε) (y : Except ε β) : Agree R (.error e) y := nofun

theorem agree_error_right (x : Except ε α) (e : ε) : Agree R x (.error e) := by
  intro _ _ _ impossible
  cases impossible

theorem agree_bind_error (x : Except ε γ) (e : γ → ε) (y : Except ε β) :
    Agree R (x.bind fun c => .error (e c)) y := by
  cases x <;> exact agree_error_left _ _

theorem Agree.bind {x : Except ε α} {y : Except ε β} {f : α → Except ε γ}
    {g : β → Except ε δ} (h : Agree R x y) (next : ∀ a b, R a b → Agree S (f a) (g b)) :
    Agree S (x.bind f) (y.bind g) := by
  intro c d left right
  obtain ⟨a, first, left⟩ := bind_eq_ok_iff.mp left
  obtain ⟨b, second, right⟩ := bind_eq_ok_iff.mp right
  exact next a b (h a b first second) c d left right

theorem Agree.map {x : Except ε α} {y : Except ε β} {f : α → γ} {g : β → δ}
    (h : Agree R x y) (next : ∀ a b, R a b → S (f a) (g b)) :
    Agree S (x.map f) (y.map g) := by
  intro c d left right
  obtain ⟨a, first, rfl⟩ := map_eq_ok_iff.mp left
  obtain ⟨b, second, rfl⟩ := map_eq_ok_iff.mp right
  exact next a b (h a b first second)

theorem Agree.mono {R' : α → β → Prop} {x : Except ε α} {y : Except ε β} (h : Agree R x y)
    (weaker : ∀ a b, R a b → R' a b) : Agree R' x y :=
  fun a b left right => weaker a b (h a b left right)

end

/-! ### Readers that are related -/

/-- A relation of settings that outlasts the setting of an item on both sides. -/
structure Lasting (R : Settings → Settings → Prop) : Prop where
  give {s s' : Settings} (item : Item) (value : Bytes) :
    R s s' → Agree R (s.give item value) (s'.give item value)
  raise {s s' : Settings} (item : Item) : R s s' → Agree R (s.raise item) (s'.raise item)

/-- Two readers wait for the same, and their settings are related once they have dealt with
what is pending. -/
structure Along (R : Settings → Settings → Prop) (r r' : Reader) : Prop where
  waits : ∀ item, r.pending = .awaiting item ↔ r'.pending = .awaiting item
  kept : ∀ item, r.pending = .awaiting item → R r.settings r'.settings
  settled : Agree R r.settle r'.settle

/-- What one word is to two readers: the same to both, if none of them refuses it. -/
inductive StepsAlong (R : Settings → Settings → Prop) : Step → Step → Prop
  | next {r r' : Reader} : Along R r r' → StepsAlong R (.next r) (.next r')
  | operand : StepsAlong R .operand .operand
  | separator : StepsAlong R .separator .separator
  | left (reason : Stop) (s : Step) : StepsAlong R (.stop reason) s
  | right (s : Step) (reason : Stop) : StepsAlong R s (.stop reason)

/-- Two scopes were given the same words, and settings that are related. -/
structure GivenAlong (R : Settings → Settings → Prop) (g g' : Given) : Prop where
  words : g.words = g'.words
  settings : R g.settings g'.settings

theorem StepsAlong.ofResult {R : Settings → Settings → Prop} {x y : Except Stop Reader}
    (h : Agree (Along R) x y) : StepsAlong R (.ofResult x) (.ofResult y) := by
  cases x with
  | error e => exact .left e _
  | ok r =>
      cases y with
      | error e => exact .right _ e
      | ok r' => exact .next (h r r' rfl rfl)

variable {R : Settings → Settings → Prop} {s s' : Settings} {r r' : Reader} {scope : Scope}

/-- Whether a word may be a name is the same to both. -/
theorem Along.mayName (h : Along R r r') : mayName r = mayName r' := by
  unfold CommandLine.mayName
  cases waits : r.pending with
  | awaiting item =>
      rw [(h.waits item).mp waits]
  | nothing | held =>
      cases waits' : r'.pending with
      | awaiting item =>
          rw [(h.waits item).mpr waits'] at waits
          cases waits
      | nothing | held => rfl

/-- A word that both hold as a value leaves the readers alongside each other, even if it is
not the same word, where the values that an item may have make no difference. -/
theorem along_held (item : Item) {value value' : Bytes}
    (given : Agree R (s.give item value) (s'.give item value')) :
    Along R ⟨s, .held item value⟩ ⟨s', .held item value'⟩ where
  waits := by simp
  kept := nofun
  settled := given

theorem Along.takeCommand (h : Along R r r') (words : List Bytes) :
    Agree (GivenAlong R) (takeCommand r words) (takeCommand r' words) :=
  h.settled.map fun _ _ h => ⟨rfl, h⟩

/-- Two requests are the same, but for what was given before the subcommand. -/
def RequestAlong (R : Settings → Settings → Prop) (env : Environment) (q q' : Request) : Prop :=
  ∃ root root' sub a, R root root' ∧ q = request env root sub a ∧ q' = request env root' sub a

theorem Along.readSubcommand (h : Along R r r') (env : Environment) (scope : Scope)
    (words : List Bytes) :
    Agree (RequestAlong R env) (readSubcommand env r scope words)
      (readSubcommand env r' scope words) := by
  unfold CommandLine.readSubcommand
  split
  · exact agree_error_left _ _
  split
  · exact agree_error_left _ _
  · exact h.settled.map fun root root' h => ⟨root, root', _, _, h, rfl, rfl⟩

namespace Lasting

variable (L : Lasting R)

include L

/-- Readers with related settings and the same pending are alongside each other. -/
theorem along (h : R s s') (p : Pending) : Along R ⟨s, p⟩ ⟨s', p⟩ where
  waits _ := Iff.rfl
  kept _ _ := h
  settled := by
    cases p with
    | nothing => exact .ok h
    | awaiting => exact agree_error_left _ _
    | held item value => exact L.give item value h

/-! ### One word -/

theorem readerGive (h : Along R r r') (item : Item) (value : Bytes) :
    Agree (Along R) (r.give item value) (r'.give item value) :=
  h.settled.bind fun _ _ h => (L.give item value h).map fun _ _ h => L.along h .nothing

theorem readerRaise (h : Along R r r') (item : Item) :
    Agree (Along R) (r.raise item) (r'.raise item) :=
  h.settled.bind fun _ _ h => (L.raise item h).map fun _ _ h => L.along h .nothing

theorem readerAwait (h : Along R r r') (item : Item) :
    Agree (Along R) (r.await item) (r'.await item) :=
  h.settled.map fun _ _ h => L.along h (.awaiting item)

theorem readerHold (h : Along R r r') (item : Item) (value : Bytes) :
    Agree (Along R) (r.hold item value) (r'.hold item value) :=
  h.settled.map fun _ _ h => L.along h (.held item value)

theorem stepLong (h : Along R r r') (scope : Scope) (word : Bytes) :
    StepsAlong R (stepLong scope r word) (stepLong scope r' word) := by
  unfold CommandLine.stepLong
  dsimp only
  split
  · exact .left _ _
  split
  · split
    · exact .operand
    · exact .left _ _
  · split
    · exact .ofResult (L.readerAwait h _)
    · exact .ofResult (L.readerRaise h _)
  · split
    · exact .ofResult (L.readerGive h _ _)
    · exact .left _ _

theorem readCluster (h : Along R r r') (scope : Scope) (cs : List Char) :
    Agree (Along R) (readCluster scope r cs) (readCluster scope r' cs) := by
  induction cs generalizing r r' with
  | nil => exact .ok h
  | cons c cs ih =>
      rw [CommandLine.readCluster.eq_def, CommandLine.readCluster.eq_def scope r']
      dsimp only
      split
      · exact agree_error_left _ _
      split
      · split
        · exact L.readerAwait h _
        · exact L.readerGive h _ _
        · exact L.readerGive h _ _
      · exact (L.readerRaise h _).bind fun _ _ h => ih h

theorem readBrokenCluster (h : Along R r r') (scope : Scope) (pieces : List Utf8.Piece)
    (rest : Bytes) :
    Agree (Along R) (readBrokenCluster scope r pieces rest)
      (readBrokenCluster scope r' pieces rest) := by
  induction pieces generalizing r r' rest with
  | nil => exact agree_error_left Stop.unknownArgument _
  | cons piece pieces ih =>
      cases piece with
      | scalar c =>
          rw [CommandLine.readBrokenCluster, CommandLine.readBrokenCluster]
          split
          · exact agree_error_left _ _
          dsimp only
          split
          · exact L.readerGive h _ _
          · exact (L.readerRaise h _).bind fun _ _ h => ih h _
      | malformed => exact agree_error_left Stop.unknownArgument _

theorem stepShort (h : Along R r r') (scope : Scope) (word : Bytes) :
    StepsAlong R (stepShort scope r word) (stepShort scope r' word) := by
  unfold CommandLine.stepShort
  split
  · split
    · exact .operand
    · exact .ofResult (L.readBrokenCluster h _ _ _)
  · split
    · exact .operand
    · exact .ofResult (L.readCluster h _ _)

theorem stepPlain (h : Along R r r') (word : Bytes) :
    StepsAlong R (stepPlain r word) (stepPlain r' word) := by
  unfold CommandLine.stepPlain
  cases waits : r.pending with
  | awaiting item =>
      rw [(h.waits item).mp waits]
      exact .next (L.along (h.kept item waits) _)
  | nothing | held =>
      cases waits' : r'.pending with
      | awaiting item =>
          rw [(h.waits item).mpr waits'] at waits
          cases waits
      | nothing | held => exact .operand

theorem orPlain {x y : Step} (h : Along R r r') (looked : StepsAlong R x y) (word : Bytes) :
    StepsAlong R (x.orPlain r word) (y.orPlain r' word) := by
  cases looked with
  | next along => exact .next along
  | operand => exact L.stepPlain h word
  | separator => exact .separator
  | left reason => exact .left reason _
  | right _ reason => exact .right _ reason

theorem stepByLooks (h : Along R r r') (scope : Scope) (word : Bytes) :
    StepsAlong R (stepByLooks scope r word) (stepByLooks scope r' word) := by
  unfold CommandLine.stepByLooks
  split
  · split
    · split
      · split
        · exact .separator
        · exact L.orPlain h (L.stepLong h scope _) _
      · exact L.orPlain h (L.stepShort h scope _) _
    · exact L.stepPlain h _
  · exact L.stepPlain h _

/-- **One word leaves two readers alongside each other.** -/
theorem step (h : Along R r r') (scope : Scope) (word : Bytes) :
    StepsAlong R (step scope r word) (step scope r' word) := by
  unfold CommandLine.step
  cases waits : r.pending with
  | awaiting item =>
      rw [(h.waits item).mp waits]
      dsimp only
      split
      · exact .next (L.along (h.kept item waits) _)
      · exact L.stepByLooks h scope word
  | nothing | held =>
      cases waits' : r'.pending with
      | awaiting item =>
          rw [(h.waits item).mpr waits'] at waits
          cases waits
      | nothing | held => exact L.stepByLooks h scope word

/-! ### A scope -/

theorem readOperands (h : Along R r r') (words : List Bytes) :
    Agree (Along R) (readOperands r words) (readOperands r' words) := by
  induction words generalizing r r' with
  | nil => exact .ok h
  | cons word words ih =>
      rw [CommandLine.readOperands, CommandLine.readOperands]
      split
      · exact agree_error_left _ _
      · exact agree_error_left _ _
      split
      · exact agree_error_right _ _
      · exact agree_error_right _ _
      exact (L.readerHold h _ _).bind fun _ _ h => ih h

/-- **The words of a scope leave two readers alongside each other**, and both hand on the
same words of a command. -/
theorem readScope (h : Along R r r') (scope : Scope) (words : List Bytes) :
    Agree (GivenAlong R) (readScope scope r words) (readScope scope r' words) := by
  induction words generalizing r r' with
  | nil => exact h.takeCommand []
  | cons word words ih =>
      have stepped := L.step h scope word
      rw [CommandLine.readScope, CommandLine.readScope]
      generalize CommandLine.step scope r word = x at stepped
      generalize CommandLine.step scope r' word = y at stepped
      cases stepped with
      | next along => exact ih along
      | left => exact agree_error_left _ _
      | right => exact agree_error_right _ _
      | operand =>
          dsimp only
          split
          · exact h.takeCommand _
          · have operands := L.readOperands h [word]
            cases read : CommandLine.readOperands r [word] with
            | error => exact agree_error_left _ _
            | ok r₁ =>
                cases read' : CommandLine.readOperands r' [word] with
                | error => exact agree_error_right _ _
                | ok r₁' => exact ih (operands _ _ read read')
      | separator =>
          dsimp only
          split
          · exact h.takeCommand words
          · exact (L.readOperands h words).bind fun _ _ h => h.takeCommand []

/-! ### A whole line -/

/-- **The words of a line leave two readers alongside each other** up to the name of a
subcommand, and what stands after that is the same to both. -/
theorem readRoot (h : Along R r r') (env : Environment) (words : List Bytes) :
    Agree (RequestAlong R env) (readRoot env r words) (readRoot env r' words) := by
  induction words generalizing r r' with
  | nil => exact agree_bind_error _ _ _
  | cons word words ih =>
      have stepped := L.step h .root word
      rw [CommandLine.readRoot, CommandLine.readRoot, ← h.mayName]
      split
      · exact agree_error_left _ _
      split
      · exact h.readSubcommand env _ words
      generalize CommandLine.step .root r word = x at stepped
      generalize CommandLine.step .root r' word = y at stepped
      cases stepped with
      | next along => exact ih along
      | left => exact agree_error_left _ _
      | right => exact agree_error_right _ _
      | operand => exact agree_error_left _ _
      | separator => exact agree_bind_error _ _ _

end Lasting

/-! ### Two environments -/

section

variable {env env' : Environment}

theorem readSubcommand_congr (same : env.get? configVariable = env'.get? configVariable)
    (r : Reader) (scope : Scope) (words : List Bytes) :
    readSubcommand env r scope words = readSubcommand env' r scope words := by
  simp only [readSubcommand, request, same]

/-- The same reader finds the same request in a line, if one variable is the same. -/
theorem readRoot_congr (same : env.get? configVariable = env'.get? configVariable) (r : Reader)
    (words : List Bytes) : readRoot env r words = readRoot env' r words := by
  induction words generalizing r with
  | nil => simp only [CommandLine.readRoot, withoutSubcommand, same]
  | cons word words ih =>
      simp only [CommandLine.readRoot, withoutSubcommand, same, readSubcommand_congr same, ih]

/-- **One variable has a part in what a line asks for**, and no other. -/
theorem parse_congr (same : env.get? configVariable = env'.get? configVariable)
    (line : List Bytes) : parse env line = parse env' line :=
  readRoot_congr same {} (line.drop 1)

end

end CommandLine

end ExitContract
