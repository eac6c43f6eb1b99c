import Mathlib
import SpriteStage.CommandLine

/-!
# What the command line accepts

`Usage` says which arguments the two usage texts allow and what they ask for. Every such list is
carried out as it says, and every other one ends with a message and the code 1, with nothing else
asked of the system (`CommandLine.execute_follows_usage`). The only exceptions are lists that go on
behind a flag and its value (`Overlong`): what is too much is left unread.
-/

namespace SpriteStage

/-! ## Reading numbers -/

/-- The text writes the number in decimal digits, one at least, with or without a plus sign before
them. -/
def WritesNat (text : String) (n : Nat) : Prop :=
  ∃ digits : List Char, digits ≠ [] ∧ (∀ c ∈ digits, c.isDigit = true) ∧
    (text.toList = digits ∨ text.toList = '+' :: digits) ∧ Nat.ofDigitChars 10 digits 0 = n

/-- A number never gets smaller by more digits. -/
theorem le_ofDigitChars (digits : List Char) (n : Nat) : n ≤ Nat.ofDigitChars 10 digits n := by
  induction digits generalizing n with
  | nil => simp
  | cons c rest ih =>
    rw [Nat.ofDigitChars_cons]
    have := ih (10 * n + (c.toNat - '0'.toNat))
    omega

/-- Behind a number below the limit, digits are read exactly when they lead to one below it. -/
theorem readDigits_eq_ok_iff {limit n k : Nat} {cs : List Char} (hn : n < limit) :
    readDigits limit n cs = .ok k ↔
      (∀ c ∈ cs, c.isDigit = true) ∧ Nat.ofDigitChars 10 cs n = k ∧ k < limit := by
  induction cs generalizing n with
  | nil =>
    rw [readDigits, Except.ok.injEq, Nat.ofDigitChars_nil]
    constructor
    · rintro rfl
      exact ⟨by simp, rfl, hn⟩
    · rintro ⟨-, hk, -⟩
      exact hk
  | cons c rest ih =>
    unfold readDigits
    by_cases hc : c.isDigit = true
    · rw [if_pos hc]
      by_cases hmore : 10 * n + (c.toNat - '0'.toNat) < limit
      · simp only [if_pos hmore, ih hmore, List.forall_mem_cons, Nat.ofDigitChars_cons, hc,
          true_and]
      · -- the digits that are left cannot bring the number below the limit again
        have hle := le_ofDigitChars rest (10 * n + (c.toNat - '0'.toNat))
        simp only [if_neg hmore, reduceCtorEq, false_iff, Nat.ofDigitChars_cons]
        rintro ⟨-, hk, hlt⟩
        omega
    · simp [hc]

/-- Behind a plus sign all has to be digits. -/
theorem writesNat_of_plus {text : String} {rest : List Char} {n : Nat}
    (htext : text.toList = '+' :: rest) :
    WritesNat text n ↔
      rest ≠ [] ∧ (∀ c ∈ rest, c.isDigit = true) ∧ Nat.ofDigitChars 10 rest 0 = n := by
  constructor
  · rintro ⟨digits, hne, hdigits, hbare | hplus, hvalue⟩
    · -- a plus sign is no digit
      rw [htext] at hbare
      have hsign : ('+').isDigit = true := hdigits _ (hbare ▸ List.mem_cons_self)
      exact absurd hsign (by decide)
    · obtain rfl : rest = digits := (List.cons.inj (htext.symm.trans hplus)).2
      exact ⟨hne, hdigits, hvalue⟩
  · rintro ⟨hne, hdigits, hvalue⟩
    exact ⟨rest, hne, hdigits, Or.inr htext, hvalue⟩

/-- Without a plus sign all has to be digits. -/
theorem writesNat_of_not_plus {text : String} {n : Nat}
    (htext : ∀ rest, text.toList ≠ '+' :: rest) :
    WritesNat text n ↔ text.toList ≠ [] ∧ (∀ c ∈ text.toList, c.isDigit = true) ∧
      Nat.ofDigitChars 10 text.toList 0 = n := by
  constructor
  · rintro ⟨digits, hne, hdigits, hbare | hplus, hvalue⟩
    · rw [hbare]
      exact ⟨hne, hdigits, hvalue⟩
    · exact absurd hplus (htext digits)
  · rintro ⟨hne, hdigits, hvalue⟩
    exact ⟨text.toList, hne, hdigits, Or.inl rfl, hvalue⟩

/-- A text is read as a number exactly when it writes that number and it is below the limit. -/
theorem readNat_eq_ok_iff {limit n : Nat} {text : String} (hlimit : 0 < limit) :
    readNat limit text = .ok n ↔ WritesNat text n ∧ n < limit := by
  unfold readNat
  split
  · rename_i htext
    rw [writesNat_of_not_plus (by simp [htext])]
    simp [htext]
  · rename_i htext
    rw [writesNat_of_plus htext]
    simp
  · rename_i rest hrest htext
    rw [writesNat_of_plus htext, readDigits_eq_ok_iff hlimit]
    have hne : rest ≠ [] := hrest
    simp only [ne_eq, hne, not_false_eq_true, true_and, and_assoc]
  · rename_i hnil _ hplus
    rw [writesNat_of_not_plus hplus, readDigits_eq_ok_iff hlimit]
    have hne : text.toList ≠ [] := hnil
    simp only [ne_eq, hne, not_false_eq_true, true_and, and_assoc]

namespace CommandLine

/-! ## The usage -/

/-- A flag is among the arguments of the command. -/
def Command.IsFlagged : Command → Prop
  | .run _ log => log.isSome
  | .simulate _ _ seed => seed.isSome

/-- The arguments that the usage texts allow, with the command that they ask for. -/
inductive Usage : Command → List String → Prop
  | run (path : String) : Usage (.run path none) ["run", path]
  | runLogged (path file : String) : Usage (.run path (some file)) ["run", path, "--log", file]
  | simulate (path : String) {millisText : String} {millis : UInt64}
      (hmillis : WritesNat millisText millis.toNat) :
      Usage (.simulate path millis none) ["simulate", path, millisText]
  | simulateSeeded (path : String) {millisText seedText : String} {millis seed : UInt64}
      (hmillis : WritesNat millisText millis.toNat) (hseed : WritesNat seedText seed.toNat) :
      Usage (.simulate path millis (some seed))
        ["simulate", path, millisText, "--seed", seedText]

/-- The arguments that the usage allows for a command with a flag, and more behind them. -/
def Overlong (command : Command) (args : List String) : Prop :=
  command.IsFlagged ∧ ∃ usual more, Usage command usual ∧ more ≠ [] ∧ args = usual ++ more

/-- Arguments that are too many are no usage, of no command. -/
theorem Overlong.not_usage {command other : Command} {args : List String}
    (h : Overlong command args) : ¬Usage other args := by
  obtain ⟨hflag, usual, more, husual, hmore, rfl⟩ := h
  obtain ⟨first, rest, rfl⟩ := List.exists_cons_of_ne_nil hmore
  intro hother
  generalize hargs : usual ++ first :: rest = args at hother
  cases husual with
  | run path => cases hflag
  | runLogged path file => cases hother <;> simp at hargs
  | simulate path hmillis => cases hflag
  | simulateSeeded path hmillis hseed => cases hother <;> simp at hargs

/-- Arguments of the usage with a flag, with or without more behind them. -/
theorem Usage.or_overlong {command : Command} {usual : List String} (h : Usage command usual)
    (hflag : command.IsFlagged) (more : List String) :
    Usage command (usual ++ more) ∨ Overlong command (usual ++ more) := by
  cases more with
  | nil =>
    rw [List.append_nil]
    exact Or.inl h
  | cons first rest => exact Or.inr ⟨hflag, usual, first :: rest, h, by simp, rfl⟩

/-! ## Parts of the arguments -/

/-- A word is read from the texts that write it. -/
theorem readWord_eq_ok_iff {fault : NatError → Fault} {text : String} {w : UInt64} :
    readWord fault text = .ok w ↔ WritesNat text w.toNat := by
  have hread {n : Nat} : readNat UInt64.size text = .ok n ↔ WritesNat text n ∧ n < UInt64.size :=
    readNat_eq_ok_iff (by decide)
  unfold readWord
  constructor
  · intro h
    split at h
    · rename_i n hn
      obtain ⟨htext, hlt⟩ := hread.1 hn
      obtain rfl : n.toUInt64 = w := Except.ok.inj h
      rwa [UInt64.toNat_ofNat_of_lt' hlt]
    · cases h
  · intro htext
    rw [hread.2 ⟨htext, w.toNat_lt⟩]
    simp

/-- Without arguments that are left there is no flag. -/
@[simp] theorem flagValue_nil (flag usage : String) : flagValue flag usage [] = .ok none := rfl

/-- A flag and its value are taken, and nothing is asked of what follows. -/
@[simp] theorem flagValue_pair (flag usage text : String) (more : List String) :
    flagValue flag usage (flag :: text :: more) = .ok (some text) := by
  simp [flagValue]

/-- A flag is read from nothing, or from the flag and its value with anything behind them. -/
theorem flagValue_cases {flag usage : String} {args : List String} {value : Option String}
    (h : flagValue flag usage args = .ok value) :
    args = [] ∧ value = none ∨ ∃ text more, args = flag :: text :: more ∧ value = some text := by
  cases args with
  | nil => exact Or.inl ⟨rfl, (Except.ok.inj h).symm⟩
  | cons first rest =>
    by_cases hfirst : first = flag
    · subst hfirst
      cases rest with
      | nil => simp [flagValue] at h
      | cons text more =>
        rw [flagValue_pair] at h
        exact Or.inr ⟨text, more, rfl, (Except.ok.inj h).symm⟩
    · simp [flagValue, hfirst] at h

/-- A call of `run` is what stands before the flag, and then what the flag says. -/
theorem parse_run_eq_ok_iff {path : String} {rest : List String} {command : Command} :
    parse ("run" :: path :: rest) = .ok command ↔
      ∃ log, flagValue "--log" runUsage rest = .ok log ∧ command = .run path log := by
  simp only [parse]
  cases flagValue "--log" runUsage rest with
  | error fault => simp [bind, Except.bind]
  | ok log => simp [bind, Except.bind, pure, Except.pure, eq_comm]

/-- A call of `simulate` is a number before the flag, and then the number that the flag says. -/
theorem parse_simulate_eq_ok_iff {path text : String} {rest : List String} {command : Command} :
    parse ("simulate" :: path :: text :: rest) = .ok command ↔
      ∃ millis, readWord .millis text = .ok millis ∧
        (flagValue "--seed" simulateUsage rest = .ok none ∧ command = .simulate path millis none ∨
          ∃ seedText seed, flagValue "--seed" simulateUsage rest = .ok (some seedText) ∧
            readWord .seed seedText = .ok seed ∧ command = .simulate path millis (some seed)) := by
  simp only [parse]
  cases readWord .millis text with
  | error fault => simp [bind, Except.bind]
  | ok millis =>
    cases flagValue "--seed" simulateUsage rest with
    | error fault => simp [bind, Except.bind]
    | ok value =>
      cases value with
      | none => simp [bind, Except.bind, pure, Except.pure, eq_comm]
      | some seedText =>
        cases hseed : readWord .seed seedText with
        | error fault => simp [bind, Except.bind, hseed]
        | ok seed => simp [bind, Except.bind, pure, Except.pure, hseed, eq_comm]

/-- Other calls are refused. -/
theorem exists_of_parse_eq_ok {args : List String} {command : Command}
    (h : parse args = .ok command) :
    (∃ path rest, args = "run" :: path :: rest) ∨
      ∃ path text rest, args = "simulate" :: path :: text :: rest := by
  unfold parse at h
  split at h
  · split at h
    · cases h
    · exact Or.inl ⟨_, _, rfl⟩
  · split at h
    · exact Or.inr ⟨_, _, _, rfl⟩
    · cases h
  · cases h

/-! ## What is accepted -/

/-- What is read from arguments is what the usage says of them, but for what is too much. -/
theorem usage_or_overlong_of_parse {args : List String} {command : Command}
    (h : parse args = .ok command) : Usage command args ∨ Overlong command args := by
  rcases exists_of_parse_eq_ok h with ⟨path, rest, rfl⟩ | ⟨path, text, rest, rfl⟩
  · obtain ⟨log, hlog, rfl⟩ := parse_run_eq_ok_iff.1 h
    rcases flagValue_cases hlog with ⟨rfl, rfl⟩ | ⟨file, more, rfl, rfl⟩
    · exact Or.inl (.run path)
    · exact (Usage.runLogged path file).or_overlong rfl more
  · obtain ⟨millis, hmillis, hcommand⟩ := parse_simulate_eq_ok_iff.1 h
    have hmillis := readWord_eq_ok_iff.1 hmillis
    rcases hcommand with ⟨hflag, rfl⟩ | ⟨seedText, seed, hflag, hseed, rfl⟩
    · rcases flagValue_cases hflag with ⟨rfl, -⟩ | ⟨_, _, -, hnone⟩
      · exact Or.inl (.simulate path hmillis)
      · cases hnone
    · have hseed := readWord_eq_ok_iff.1 hseed
      rcases flagValue_cases hflag with ⟨-, hsome⟩ | ⟨_, more, rfl, hsome⟩
      · cases hsome
      · obtain rfl := Option.some.inj hsome
        exact (Usage.simulateSeeded path hmillis hseed).or_overlong rfl more

/-- Arguments of the usage are read as it says, and behind a flag and its value whatever follows is
left unread. -/
theorem parse_of_usage {usual more : List String} {command : Command} (h : Usage command usual)
    (hmore : more = [] ∨ command.IsFlagged) : parse (usual ++ more) = .ok command := by
  cases h with
  | run path =>
    obtain rfl := hmore.resolve_right (by simp [Command.IsFlagged])
    exact parse_run_eq_ok_iff.2 ⟨none, flagValue_nil _ _, rfl⟩
  | runLogged path file =>
    exact parse_run_eq_ok_iff.2 ⟨some file, flagValue_pair _ _ file more, rfl⟩
  | simulate path hmillis =>
    obtain rfl := hmore.resolve_right (by simp [Command.IsFlagged])
    exact parse_simulate_eq_ok_iff.2
      ⟨_, readWord_eq_ok_iff.2 hmillis, Or.inl ⟨flagValue_nil _ _, rfl⟩⟩
  | simulateSeeded path hmillis hseed =>
    exact parse_simulate_eq_ok_iff.2 ⟨_, readWord_eq_ok_iff.2 hmillis,
      Or.inr ⟨_, _, flagValue_pair _ _ _ more, readWord_eq_ok_iff.2 hseed, rfl⟩⟩

/-- The arguments that ask for a command: those of its usage, and those that go on behind its
flag. -/
theorem parse_eq_ok_iff {args : List String} {command : Command} :
    parse args = .ok command ↔ Usage command args ∨ Overlong command args := by
  constructor
  · exact usage_or_overlong_of_parse
  · rintro (h | ⟨hflag, usual, more, h, -, rfl⟩)
    · simpa using parse_of_usage h (Or.inl rfl)
    · exact parse_of_usage h (Or.inr hflag)

example : parse ["simulate", "program.json", "+007"] = .ok (.simulate "program.json" 7 none) := by
  decide

/-! ## What is done -/

section System

variable {m : Type → Type} [Monad m] (s : System m)

/-- What is asked for is carried out. -/
theorem execute_of_parse {args : List String} {command : Command}
    (h : parse args = .ok command) : s.execute args = s.perform command := by
  rw [System.execute, h]

/-- Arguments that are refused have nothing done but their message written. -/
theorem execute_of_fault {args : List String} {fault : Fault} (h : parse args = .error fault) :
    s.execute args = (do
      s.write "" ("Error: " ++ fault.message ++ "\n")
      return 1) := by
  rw [System.execute, h]
  rfl

/-- **Arguments of the usage are carried out, and all others are refused.** What is read from
arguments is what the usage says of them, but for lists that are too long. `simulate` goes on to the
simulation and `run` to the stage, behind its log if it has one. A refused list ends with the code 1
and has nothing done but its message written: no file is looked for and none is created. -/
theorem execute_follows_usage (args : List String) :
    (∀ command, parse args = .ok command ↔ Usage command args ∨ Overlong command args) ∧
    (∀ command other, Overlong command args → ¬Usage other args) ∧
    (∀ path millis seed, parse args = .ok (.simulate path millis seed) →
      s.execute args = s.simulate path millis seed) ∧
    (∀ path, parse args = .ok (.run path none) → s.execute args = s.openStage path) ∧
    (∀ path file, parse args = .ok (.run path (some file)) →
      s.execute args = (do
        match ← s.createLog file with
        | none => s.openStage path
        | some reason => s.leave (.failed (logFault file reason)))) ∧
    ((∀ command, ¬Usage command args ∧ ¬Overlong command args) →
      ∃ fault, parse args = .error fault ∧
        s.execute args = (do
          s.write "" ("Error: " ++ fault.message ++ "\n")
          return 1)) := by
  refine ⟨fun command => parse_eq_ok_iff, fun command other h => h.not_usage, ?_, ?_, ?_, ?_⟩
  · intro path millis seed h
    rw [execute_of_parse s h, System.perform]
  · intro path h
    rw [execute_of_parse s h, System.perform]
  · intro path file h
    rw [execute_of_parse s h]
    rfl
  · intro hnone
    cases hparse : parse args with
    | ok command => exact absurd (parse_eq_ok_iff.1 hparse) (not_or.2 (hnone command))
    | error fault => exact ⟨fault, rfl, execute_of_fault s hparse⟩

end System

/-- A list that is too long, and so no usage, is carried out all the same. -/
theorem extra_argument_unread :
    (∀ command, ¬Usage command ["simulate", "program.json", "100", "--seed", "7", "extra"]) ∧
    ∀ {m : Type → Type} [Monad m] (s : System m),
      s.execute ["simulate", "program.json", "100", "--seed", "7", "extra"] =
        s.simulate "program.json" 100 (some 7) := by
  constructor
  · intro command h
    generalize hargs : ["simulate", "program.json", "100", "--seed", "7", "extra"] = args at h
    cases h <;> simp at hargs
  · intro m _ s
    have hparse : parse ["simulate", "program.json", "100", "--seed", "7", "extra"] =
        .ok (.simulate "program.json" 100 (some 7)) := by decide
    rw [execute_of_parse s hparse, System.perform]

end CommandLine

end SpriteStage
