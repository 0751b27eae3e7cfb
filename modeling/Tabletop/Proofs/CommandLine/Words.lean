import Tabletop.CommandLine.Run
import Tabletop.Proofs.Text.Numeral

/-!
# Tabletop.Proofs.CommandLine.Words — the words that ask for rolls and for picks

A command line that names a seed, a number of times and one argument is read word by word: a value is
held until the next word settles it, numbers pass their checks because they are written as numerals,
and after the two dashes the argument may be any text, even one that looks like an option. The words
for rolls and those for picks differ in nothing but their command, its switches and the name of the
argument, so they are read together.
-/

namespace Tabletop.CommandLine

/-! ## Numerals as values -/

/-- A numeral does not look like an option. -/
theorem head?_toString_ne (n : Nat) : (toString n).toList.head? ≠ some '-' := by
  obtain ⟨c, rest, hdigits, hdigit, -⟩ := Numeral.exists_digits_eq_cons n
  rw [Numeral.toList_toString, hdigits]
  exact fun h => Numeral.ne_of_isDigit hdigit rfl (Option.some.inj h)

theorem word32?_toString (n : UInt32) : word32? (toString n.toNat) = some n := by
  have hread : Numeral.integer? (toString n.toNat).toList = some (n.toNat : Int) := by
    rw [Numeral.toList_toString, Numeral.integer?_digits]
  have hfits : 0 ≤ (n.toNat : Int) ∧ (n.toNat : Int) < (UInt32.size : Nat) :=
    ⟨Int.natCast_nonneg _, Int.ofNat_lt.mpr n.toNat_lt⟩
  simp only [word32?, hread, if_pos hfits, Int.toNat_natCast, UInt32.ofNat_toNat]

theorem word64?_toString (n : UInt64) : word64? (toString n.toNat) = some n := by
  have hread : Numeral.natural? (toString n.toNat).toList = some n.toNat := by
    rw [Numeral.toList_toString, Numeral.natural?_digits]
  simp only [word64?, hread, if_pos n.toNat_lt, UInt64.ofNat_toNat]

theorem accepts_word32 (n : UInt32) : Check.word32.accepts (toString n.toNat) = true := by
  rw [Check.accepts, word32?_toString, Option.isSome_some]

theorem accepts_word64 (n : UInt64) : Check.word64.accepts (toString n.toNat) = true := by
  rw [Check.accepts, word64?_toString, Option.isSome_some]

/-! ## Reading words -/

namespace Progress

/-- A value that passes its check is recorded. -/
theorem settle_ready {given : Given} {name text : String} {check : Check}
    (haccepts : check.accepts text = true) (hnew : given.has name = false) (position : Nat)
    (onlyPositional : Bool) :
    settle ⟨given, .ready name check text, position, onlyPositional⟩ =
      .ok ⟨(name, text) :: given, .nothing, position, onlyPositional⟩ := by
  simp [settle, recordChecked, record, haccepts, hnew]

/-- A word that names no command is read on its own, and then the words behind it. -/
theorem readWords_cons {g : Grammar} {p q : Progress} {word : String}
    (hname : (p.mayName && g.commands.contains word) = false) (htake : p.take g word = .ok q)
    (rest : List String) : readWords g p (word :: rest) = readWords g q rest := by
  rw [readWords, hname, htake]
  rfl

/-- An option that lacks its value holds the next word, unless this looks like an option too. -/
theorem take_value (g : Grammar) (given : Given) (name : String) (check : Check) {word : String}
    (hword : word.toList.head? ≠ some '-') :
    take g ⟨given, .lacking name check, 0, false⟩ word =
      .ok ⟨given, .ready name check word, 0, false⟩ := by
  unfold take
  -- What looks like an option starts with a dash, so only the last case is left.
  split
  · rename_i honly
    cases honly
  · split
    · rename_i hdashes
      exact absurd (by rw [hdashes]; rfl) hword
    · rename_i hlong
      exact absurd (by rw [hlong]; rfl) hword
    · rename_i hletters
      exact absurd (by rw [hletters]; rfl) hword
    · rfl

/-- After the two dashes a word is the next positional argument, however it looks. -/
theorem take_argument {g : Grammar} {p q : Progress} {argument : Positional}
    (honly : p.onlyPositional = true) (hsettle : p.settle = .ok q)
    (hargument : g.positionals[p.position]? = some argument) (word : String) :
    take g p word =
      .ok { q with
        held := .ready argument.name argument.check word, position := q.position + 1 } := by
  rw [take, if_pos honly, takeWord, honly, hargument]
  split
  · rename_i hfalse
    cases hfalse
  · rw [hsettle]
    rfl

/-- A number of times and an argument are read after whatever switches were given. -/
theorem readWords_times {g : Grammar} {argument : Positional} {given : Given}
    (hcommands : g.commands = []) (hargument : g.positionals[0]? = some argument)
    (htimes : take g ⟨given, .nothing, 0, false⟩ "--times" =
      .ok ⟨given, .lacking "times" .word32, 0, false⟩)
    (hnew : given.has "times" = false) (times : UInt32) (text : String) :
    readWords g ⟨given, .nothing, 0, false⟩ ["--times", toString times.toNat, "--", text] =
      .ok (⟨("times", toString times.toNat) :: given,
        .ready argument.name argument.check text, 1, true⟩, none) := by
  have hname (p : Progress) (word : String) :
      (p.mayName && g.commands.contains word) = false := by
    rw [hcommands]
    exact Bool.and_false _
  have hvalue := take_value g given "times" .word32 (head?_toString_ne times.toNat)
  have hdashes : take g ⟨given, .ready "times" .word32 (toString times.toNat), 0, false⟩ "--" =
      .ok ⟨given, .ready "times" .word32 (toString times.toNat), 0, true⟩ := rfl
  have hlast := take_argument rfl (settle_ready (accepts_word32 times) hnew 0 true) hargument text
  rw [readWords_cons (hname _ _) htimes, readWords_cons (hname _ _) hvalue,
    readWords_cons (hname _ _) hdashes, readWords_cons (hname _ _) hlast]
  rfl

/-- A seed before the name of a command is held when the name comes. -/
theorem readWords_seed (seed : UInt64) {name : String}
    (hname : programGrammar.commands.contains name = true) (rest : List String) :
    readWords programGrammar {} ("--seed" :: toString seed.toNat :: name :: rest) =
      .ok (⟨[], .ready "seed" .word64 (toString seed.toNat), 0, false⟩, some (name, rest)) := by
  have hoption : take programGrammar {} "--seed" = .ok ⟨[], .lacking "seed" .word64, 0, false⟩ :=
    rfl
  have hvalue := take_value programGrammar [] "seed" .word64 (head?_toString_ne seed.toNat)
  rw [readWords_cons rfl hoption, readWords_cons rfl hvalue, readWords, hname]
  rfl

end Progress

/-! ## Reading an invocation -/

/-- **The environment is in order**: its seed, if it names one, is a number, and its path to a table
file is not empty. -/
structure Environment.InOrder (environment : Environment) : Prop where
  seed : ∀ text ∈ environment.seed, ∃ n, word64? text = some n
  tables : environment.tables ≠ some ""

namespace Environment.InOrder

variable {environment : Environment}

theorem fits_seed (h : environment.InOrder) (given : Given) :
    environmentFits given "seed" .word64 environment.seed = true := by
  rw [environmentFits, Bool.or_eq_true]
  right
  cases hseed : environment.seed with
  | none => rfl
  | some text =>
      obtain ⟨n, hn⟩ := h.seed text hseed
      simp [Check.accepts, hn]

theorem fits_tables (h : environment.InOrder) (given : Given) :
    environmentFits given "tables" .path environment.tables = true := by
  rw [environmentFits, Bool.or_eq_true]
  right
  cases htables : environment.tables with
  | none => rfl
  | some path =>
      have hpath : path ≠ "" := fun hempty => h.tables (by rw [htables, hempty])
      simp [Check.accepts, hpath]

/-- An environment in order stands in the way of nothing. -/
theorem finish_eq (h : environment.InOrder) {g : Grammar} {p q : Progress}
    (hsettle : p.settle = .ok q) (hcomplete : q.complete g = true) :
    finish g environment p = .ok q.given := by
  rw [finish, hsettle]
  show (if _ then _ else _) = _
  rw [h.fits_seed, h.fits_tables, hcomplete]
  rfl

end Environment.InOrder

/-- A seed before the name of a command is the seed of the invocation, if no option after the name
says otherwise. -/
theorem invocationOf?_seed {environment : Environment} {name : String} {after : Given}
    {command : Command} (hcommand : commandOf? name after = some command)
    (hseed : after.lookup "seed" = none) (htables : after.lookup "tables" = none)
    (hlevel : after.lookup "log-level" = none) (seed : UInt64) :
    invocationOf? environment name [("seed", toString seed.toNat)] after =
      some ⟨some seed, environment.tables, .warn, command⟩ := by
  rw [invocationOf?, hcommand]
  simp only [hseed, htables, hlevel, Option.none_or]
  show some (Invocation.mk (word64? (toString seed.toNat)) environment.tables .warn command) = _
  rw [word64?_toString]

/-- The words for a command on a seed, with its switches, a number of times and an argument. -/
def seededWords (seed : UInt64) (name : String) (switches : List String) (times : UInt32)
    (argument : String) : List String :=
  "--seed" :: toString seed.toNat :: name ::
    (switches ++ ["--times", toString times.toNat, "--", argument])

/-- **Words on a seed are read as their command asks**, once its switches can be read. -/
theorem read_seededWords {environment : Environment} (henvironment : environment.InOrder)
    {name key : String} {options : List OptionSpec} {switches : List String} (given : Given)
    (hname : programGrammar.commands.contains name = true) (hhelp : name ≠ helpCommand)
    (hcommand : commands.lookup name = some (options, [⟨key, true, .text⟩]))
    (hswitches : ∀ rest,
      Progress.readWords (commandGrammar name options [⟨key, true, .text⟩]) {} (switches ++ rest) =
        Progress.readWords (commandGrammar name options [⟨key, true, .text⟩])
          ⟨given, .nothing, 0, false⟩ rest)
    (htimes : Progress.take (commandGrammar name options [⟨key, true, .text⟩])
        ⟨given, .nothing, 0, false⟩ "--times" = .ok ⟨given, .lacking "times" .word32, 0, false⟩)
    (hnew : given.has "times" = false) (seed : UInt64) (times : UInt32) (argument : String)
    (hkey : Given.has (("times", toString times.toNat) :: given) key = false)
    {invocation : Invocation}
    (hinvocation : invocationOf? environment name [("seed", toString seed.toNat)]
      ((key, argument) :: ("times", toString times.toNat) :: given) = some invocation) :
    Invocation.read (seededWords seed name switches times argument) environment =
      .ok invocation := by
  have hprogram := Progress.readWords_seed seed hname
    (switches ++ ["--times", toString times.toNat, "--", argument])
  have hown := hswitches ["--times", toString times.toNat, "--", argument]
  rw [Progress.readWords_times rfl rfl htimes hnew times argument] at hown
  have hseed : Progress.settle ⟨[], .ready "seed" .word64 (toString seed.toNat), 0, false⟩ =
      .ok ⟨[("seed", toString seed.toNat)], .nothing, 0, false⟩ :=
    Progress.settle_ready (accepts_word64 seed) rfl 0 false
  have hargument : Progress.settle ⟨("times", toString times.toNat) :: given,
        .ready key .text argument, 1, true⟩ =
      .ok ⟨(key, argument) :: ("times", toString times.toNat) :: given, .nothing, 1, true⟩ :=
    Progress.settle_ready rfl hkey 1 true
  have hcomplete : Progress.complete (commandGrammar name options [⟨key, true, .text⟩])
      ⟨(key, argument) :: ("times", toString times.toNat) :: given, .nothing, 1, true⟩ = true := by
    simp [Progress.complete, commandGrammar, Given.has]
  have hbefore := henvironment.finish_eq (g := programGrammar) hseed rfl
  have hafter := henvironment.finish_eq hargument hcomplete
  rw [Invocation.read, seededWords, hprogram]
  simp only [bind, Except.bind, if_neg hhelp, hcommand, hown, hafter, hbefore, hinvocation]

/-- The words for the switches of a roll. -/
def switchWords (verbose json : Bool) : List String :=
  (if verbose then ["--verbose"] else []) ++ if json then ["--json"] else []

/-- The words for rolling a text on a seed. -/
def rollWords (seed : UInt64) (text : String) (times : UInt32) (verbose json : Bool) :
    List String :=
  seededWords seed "roll" (switchWords verbose json) times text

/-- The words for picking from a table on a seed. -/
def pickWords (seed : UInt64) (name : String) (times : UInt32) : List String :=
  seededWords seed "pick" [] times name

/-- The names of the switches that were given, the latest first. -/
def givenSwitches (verbose json : Bool) : Given :=
  (if json then [("json", "json")] else []) ++ if verbose then [("verbose", "verbose")] else []

/-- **The words for rolls ask for rolls**, of this text, so many, and in the way the switches say. -/
theorem read_rollWords {environment : Environment} (h : environment.InOrder) (seed : UInt64)
    (text : String) (times : UInt32) (verbose json : Bool) :
    Invocation.read (rollWords seed text times verbose json) environment =
      .ok ⟨some seed, environment.tables, .warn, .roll text verbose times json⟩ := by
  refine read_seededWords h (givenSwitches verbose json) rfl (by decide) rfl ?_ ?_ ?_ seed times
    text ?_ ?_
  -- With the switches settled the reading is computed; the text and the numeral stay as they are.
  · intro rest
    cases verbose <;> cases json <;> rfl
  · cases verbose <;> cases json <;> rfl
  · cases verbose <;> cases json <;> rfl
  · cases verbose <;> cases json <;> rfl
  · apply invocationOf?_seed
    · have hcommand : commandOf? "roll" (("formula", text) :: ("times", toString times.toNat) ::
          givenSwitches verbose json) =
            some (.roll text verbose ((word32? (toString times.toNat)).getD 1) json) := by
        cases verbose <;> cases json <;> rfl
      rw [hcommand, word32?_toString, Option.getD_some]
    all_goals cases verbose <;> cases json <;> rfl

/-- **The words for picks ask for picks**, from the table of this name, and so many. -/
theorem read_pickWords {environment : Environment} (h : environment.InOrder) (seed : UInt64)
    (name : String) (times : UInt32) :
    Invocation.read (pickWords seed name times) environment =
      .ok ⟨some seed, environment.tables, .warn, .pick name times⟩ := by
  refine read_seededWords h [] rfl (by decide) rfl (fun _ => rfl) rfl rfl seed times name rfl ?_
  apply invocationOf?_seed
  · have hcommand : commandOf? "pick" [("table", name), ("times", toString times.toNat)] =
        some (.pick name ((word32? (toString times.toNat)).getD 1)) := rfl
    rw [hcommand, word32?_toString, Option.getD_some]
  all_goals rfl

end Tabletop.CommandLine
