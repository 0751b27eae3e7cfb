import Tabletop.Text.Numeral
import Tabletop.CommandLine.Log

/-!
# Tabletop.CommandLine.Arguments — reading words by a grammar

A grammar lists the options of a command, its positional arguments and the commands under it. Words
are read from left to right.

* A *long* option is `--name`, with its value in the next word or after an equals sign; a *short*
  one is a letter after a dash. Letters can be strung together, and the rest of the string is the
  value of the first letter that takes one, with or without an equals sign.
* A word that names a command ends the reading: what follows is that command's business.
* After the word `--` every word is positional. A lone dash is positional too.
* An option may be given once. A word that looks like an option is never the value of another one.

A value is *held* until the next word shows that nothing more belongs to it, and checked only
then. So a request for help or for the version is answered only if everything before it was in
order.
-/

namespace Tabletop.CommandLine

/-- What a value must look like. -/
inductive Check where
  /-- Anything. -/
  | text
  /-- A path, which is not empty. -/
  | path
  /-- A number below `2 ^ 32`, with an optional sign. -/
  | word32
  /-- A number below `2 ^ 64`, with an optional plus sign. -/
  | word64
  /-- A level of the log. -/
  | level
  deriving DecidableEq, Repr

/-- A number below `2 ^ 32`; a zero may have a minus sign. -/
def word32? (text : String) : Option UInt32 :=
  match Numeral.integer? text.toList with
  | some n => if 0 ≤ n ∧ n < UInt32.size then some (UInt32.ofNat n.toNat) else none
  | none => none

/-- A number below `2 ^ 64`. -/
def word64? (text : String) : Option UInt64 :=
  match Numeral.natural? text.toList with
  | some n => if n < UInt64.size then some (UInt64.ofNat n) else none
  | none => none

/-- The text passes the check. -/
def Check.accepts : Check → String → Bool
  | text, _ => true
  | path, value => !value.isEmpty
  | word32, value => (word32? value).isSome
  | word64, value => (word64? value).isSome
  | level, value => (Level.parse? value).isSome

/-- What an option does. -/
inductive Role where
  /-- It is on when given. -/
  | switch
  /-- It takes a value. -/
  | value (check : Check)
  /-- It asks for help. -/
  | help
  /-- It asks for the version. -/
  | version
  deriving DecidableEq, Repr

/-- An option of a command. -/
structure OptionSpec where
  /-- Its long name. -/
  name : String
  /-- Its letter, if it has one. -/
  letter : Option Char
  /-- What it does. -/
  role : Role
  deriving DecidableEq, Repr

/-- A positional argument of a command. -/
structure Positional where
  /-- Its name. -/
  name : String
  /-- It must be given. -/
  required : Bool
  /-- What it must look like. -/
  check : Check
  deriving DecidableEq, Repr

/-- What may be said to a command. -/
structure Grammar where
  /-- What the command calls itself. -/
  title : String
  /-- Its options. -/
  options : List OptionSpec
  /-- Its positional arguments, in order. -/
  positionals : List Positional
  /-- The commands under it. -/
  commands : List String
  deriving Repr

/-- Why there is nothing to run. -/
inductive Stop where
  /-- The words do not follow the grammar. -/
  | misuse
  /-- The version was asked for, of the program or of one command. -/
  | version (title : String)
  /-- Help was asked for. -/
  | help (title : String)
  deriving DecidableEq, Repr

/-- Names and values that were given, latest first. A switch has its own name as its value. -/
abbrev Given : Type := List (String × String)

/-- A name was given. -/
def Given.has (given : Given) (name : String) : Bool := given.any fun entry => entry.1 == name

/-- A value for which no further word has come yet. -/
inductive Held where
  /-- None. -/
  | nothing
  /-- An option that still lacks its value. -/
  | lacking (name : String) (check : Check)
  /-- An option or positional argument with its value. -/
  | ready (name : String) (check : Check) (text : String)
  deriving DecidableEq, Repr

/-- Where the reading stands. -/
structure Progress where
  /-- What was given and checked. -/
  given : Given := []
  /-- What is held. -/
  held : Held := .nothing
  /-- How many positional arguments have come. -/
  position : Nat := 0
  /-- Every further word is positional. -/
  onlyPositional : Bool := false
  deriving DecidableEq, Repr

namespace Progress

/-- Record a name with its value, once. -/
def record (p : Progress) (name text : String) : Except Stop Progress :=
  if p.given.has name then .error .misuse else .ok { p with given := (name, text) :: p.given }

/-- Record a name with its value, if the value passes its check. -/
def recordChecked (p : Progress) (name : String) (check : Check) (text : String) :
    Except Stop Progress :=
  if check.accepts text then p.record name text else .error .misuse

/-- **Check and record what is held.** -/
def settle (p : Progress) : Except Stop Progress :=
  match p.held with
  | .nothing => .ok p
  | .lacking _ _ => .error .misuse
  | .ready name check text => { p with held := .nothing }.recordChecked name check text

/-- An option is given without a value attached. -/
def takeOption (p : Progress) (title : String) (spec : OptionSpec) : Except Stop Progress := do
  let p ← p.settle
  match spec.role with
  | .switch => p.record spec.name spec.name
  | .value check => .ok { p with held := .lacking spec.name check }
  | .help => .error (.help title)
  | .version => .error (.version title)

/-- An option is given with a value attached. -/
def takeAttached (p : Progress) (spec : OptionSpec) (text : String) : Except Stop Progress :=
  match spec.role with
  | .value check => do (← p.settle).recordChecked spec.name check text
  | _ => .error .misuse

/-- A word that is no option: the value that an option lacks, or a positional argument. -/
def takeWord (g : Grammar) (p : Progress) (word : String) : Except Stop Progress :=
  match p.held, p.onlyPositional with
  | .lacking name check, false => .ok { p with held := .ready name check word }
  | _, _ =>
    match g.positionals[p.position]? with
    | none => .error .misuse
    | some argument => do
      let p ← p.settle
      .ok { p with
        held := .ready argument.name argument.check word, position := p.position + 1 }

/-- A long option without its dashes. -/
def takeLong (g : Grammar) (p : Progress) (cs : List Char) : Except Stop Progress :=
  let name := String.ofList (cs.takeWhile (· != '='))
  match g.options.find? fun spec => spec.name == name, cs.dropWhile (· != '=') with
  | none, _ => .error .misuse
  | some spec, [] => p.takeOption g.title spec
  | some spec, _ :: value => p.takeAttached spec (String.ofList value)

/-- The value in the rest of a string of letters, after an equals sign or not. -/
def attachedValue : List Char → String
  | '=' :: value => String.ofList value
  | value => String.ofList value

/-- A string of letters without its dash. -/
def takeLetters (g : Grammar) (p : Progress) : List Char → Except Stop Progress
  | [] => .ok p
  | c :: rest =>
    match g.options.find? fun spec => spec.letter == some c with
    | none => .error .misuse
    | some spec =>
      match spec.role, rest with
      | .value _, _ :: _ => p.takeAttached spec (attachedValue rest)
      | _, _ => do takeLetters g (← p.takeOption g.title spec) rest

/-- **Read one word.** -/
def take (g : Grammar) (p : Progress) (word : String) : Except Stop Progress :=
  if p.onlyPositional then takeWord g p word
  else
    match word.toList with
    | ['-', '-'] => .ok { p with onlyPositional := true }
    | '-' :: '-' :: long => takeLong g p long
    | '-' :: c :: letters => takeLetters g p (c :: letters)
    | _ => takeWord g p word

/-- A command may be named here. -/
def mayName (p : Progress) : Bool :=
  match p.held with
  | .lacking _ _ => false
  | _ => !p.onlyPositional

/-- **Read words** up to the name of a command; the name and the words after it are left. -/
def readWords (g : Grammar) (p : Progress) :
    List String → Except Stop (Progress × Option (String × List String))
  | [] => .ok (p, none)
  | word :: rest =>
    if p.mayName && g.commands.contains word then .ok (p, some (word, rest))
    else do readWords g (← p.take g word) rest

/-- Every required argument was given. -/
def complete (g : Grammar) (p : Progress) : Bool :=
  g.positionals.all fun argument => !argument.required || p.given.has argument.name

end Progress

end Tabletop.CommandLine
