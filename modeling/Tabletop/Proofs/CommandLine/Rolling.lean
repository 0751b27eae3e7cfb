import Tabletop.Proofs.CommandLine.Output
import Tabletop.Proofs.CommandLine.Words
import Tabletop.Proofs.Json.Indented
import Tabletop.Proofs.Json.Serialized
import Tabletop.Proofs.Random.Repetition

/-!
# Tabletop.Proofs.CommandLine.Rolling — the ways of showing rolls tell of the same rolls

The rolls of a formula are shown as values, with the formula, or as one JSON array. The array is
made by reading the text once and rolling over and over; the other two read the text anew for every
roll, and stop at an apology. Reading a text draws nothing, so a text with a formula in it never
stops the loop, and the loop is the plain repetition of one roll: from the same source all three
come to the same rolls and leave the same source. A text without a formula is answered by a single
apology, however many rolls were asked for, and there is no array of no rolls.

All this is told by what the program puts out: every roll can be read off its line, and all of them
off the array.
-/

namespace Tabletop.CommandLine

variable {σ : Type} [Source σ]

/-! ## One answer -/

/-- What is told of a throw of a formula's dice: what happened, and the answer. -/
def tellThrow (f : Formula) (verbose : Bool) (faces : List UInt32) : List Event × Answer :=
  (diceEvents f.sides faces ++ [.rolledFormula (f.rollOf faces)],
    Answer.ofRoll verbose (f.rollOf faces))

/-- A text with a formula is answered by a throw of its dice. -/
theorem answerText_of_ok {text : String} {f : Formula} (h : Formula.parse text = .ok f)
    (verbose : Bool) :
    answerText (σ := σ) text verbose =
      fun s => (tellThrow f verbose (f.throwDice s).1, (f.throwDice s).2) := by
  funext s
  simp only [answerText, h]
  rfl

/-- A text without a formula is answered by an apology, which draws nothing. -/
theorem answerText_of_error {text : String} {e : Formula.NotFound}
    (h : Formula.parse text = .error e) (verbose : Bool) (s : σ) :
    answerText text verbose s = (([.unreadable text], .unreadable), s) := by
  simp only [answerText, h]

/-! ## Repeated answers -/

/-- An answer that is no apology does not stop the loop. -/
theorem answerRepeatedly_succ {text : String} {verbose : Bool} {s : σ}
    (h : (answerText text verbose s).1.2 ≠ .unreadable) (n : ℕ)
    (told : List (List Event × Answer)) :
    answerRepeatedly text verbose (n + 1) told s =
      answerRepeatedly text verbose n ((answerText text verbose s).1 :: told)
        (answerText text verbose s).2 := by
  simp only [answerRepeatedly]

/-- **A text with a formula is answered as often as asked**: the loop repeats one answer. -/
theorem answerRepeatedly_of_ok {text : String} {f : Formula} (h : Formula.parse text = .ok f)
    (verbose : Bool) (n : ℕ) (told : List (List Event × Answer)) (s : σ) :
    answerRepeatedly text verbose n told s =
      (told.reverse ++ (Draw.times n (answerText text verbose) s).1,
        (Draw.times n (answerText text verbose) s).2) := by
  -- The induction needs every source and every list of earlier answers: each round changes both.
  induction n generalizing told s with
  | zero => simp [answerRepeatedly, Draw.times_zero]
  | succ n ih =>
      have hgoes : (answerText text verbose s).1.2 ≠ .unreadable := by
        rw [answerText_of_ok h]
        exact Answer.ofRoll_ne_unreadable verbose _
      rw [answerRepeatedly_succ hgoes, ih, Draw.times_succ, List.reverse_cons, List.append_assoc,
        List.singleton_append]

/-- **A text without a formula is answered once**, whatever was asked for. -/
theorem answerRepeatedly_of_error {text : String} {e : Formula.NotFound}
    (h : Formula.parse text = .error e) (verbose : Bool) (n : ℕ) (s : σ) :
    answerRepeatedly text verbose (n + 1) [] s = ([([.unreadable text], .unreadable)], s) := by
  simp only [answerRepeatedly, answerText_of_error h]
  rfl

/-! ## One command -/

/-- **What each mode shows of rolls.** -/
def rollLines (colors : Bool) : RollMode → List FormulaRoll → List String
  | .silent, rolls => rolls.map fun roll => valueLine roll.value
  | .verbose, rolls => rolls.map (verboseLine colors)
  | .json, rolls => [Serial.renderIndented rolls]

/-- Rolling over and over is throwing over and over and evaluating each throw. -/
theorem times_roll (f : Formula) (n : ℕ) (s : σ) :
    Draw.times n f.roll s =
      ((Draw.times n f.throwDice s).1.map f.rollOf, (Draw.times n f.throwDice s).2) :=
  Draw.times_map f.rollOf n f.throwDice s

/-- There is always something to carry out. -/
theorem exists_repetitions_eq (times : UInt32) : ∃ n, repetitions times = n + 1 := by
  have hpos : 0 < repetitions times := by
    have hmax := Dice.bound_le_max times 1
    rw [UInt32.le_iff_toNat_le] at hmax
    exact hmax
  exact Nat.exists_eq_succ_of_ne_zero (Nat.pos_iff_ne_zero.mp hpos)

/-- What is asked for at least once is carried out as often as asked. -/
theorem repetitions_eq_toNat {times : UInt32} (h : 1 ≤ times) : repetitions times = times.toNat :=
  congrArg UInt32.toNat (Dice.max_bound_of_le h)

/-- The answers to a text with a formula are its rolls, a line for each. -/
theorem answerCommand_of_ok {text : String} {f : Formula} (h : Formula.parse text = .ok f)
    (colors verbose : Bool) (times : UInt32) (s : σ) :
    (answerCommand colors text verbose times s).1.lines =
        (Draw.times (repetitions times) f.roll s).1.map
          (fun roll => answerLine colors (Answer.ofRoll verbose roll)) ∧
      (answerCommand colors text verbose times s).1.failure = none ∧
      (answerCommand colors text verbose times s).2 =
        (Draw.times (repetitions times) f.roll s).2 := by
  have htold := Draw.times_map (tellThrow f verbose) (repetitions times) f.throwDice s
  rw [← answerText_of_ok h] at htold
  simp only [answerCommand, answerRepeatedly_of_ok h, htold, times_roll, Outcome.shown,
    List.reverse_nil, List.nil_append, List.map_map]
  exact ⟨rfl, trivial, trivial⟩

/-- **Every mode shows the same rolls and leaves the same source**: those of rolling the formula
over and over. -/
theorem rollCommand_of_ok {text : String} {f : Formula} (h : Formula.parse text = .ok f)
    (colors : Bool) (mode : RollMode) (times : UInt32) (s : σ) :
    (rollCommand colors text mode times s).1.lines =
        rollLines colors mode (Draw.times (repetitions times) f.roll s).1 ∧
      (rollCommand colors text mode times s).1.failure = none ∧
      (rollCommand colors text mode times s).2 = (Draw.times (repetitions times) f.roll s).2 := by
  cases mode with
  | silent => exact answerCommand_of_ok h colors false times s
  | verbose => exact answerCommand_of_ok h colors true times s
  | json =>
      simp only [rollCommand, jsonCommand, h, times_roll, Outcome.shown]
      exact ⟨rfl, trivial, trivial⟩

/-- Without a formula there is one apology outside JSON. -/
theorem answerCommand_of_error {text : String} {e : Formula.NotFound}
    (h : Formula.parse text = .error e) (colors verbose : Bool) (times : UInt32) (s : σ) :
    answerCommand colors text verbose times s =
      (.shown [.unreadable text] [Style.yellow.paint colors Answer.apology], s) := by
  obtain ⟨n, hn⟩ := exists_repetitions_eq times
  simp only [answerCommand, hn, answerRepeatedly_of_error h]
  rfl

/-- **Without a formula nothing is drawn**: there is one apology, or for JSON a failure. -/
theorem rollCommand_of_error {text : String} {e : Formula.NotFound}
    (h : Formula.parse text = .error e) (colors : Bool) (mode : RollMode) (times : UInt32)
    (s : σ) :
    rollCommand colors text mode times s =
      (if mode = .json then .failed e.message
        else .shown [.unreadable text] [Style.yellow.paint colors Answer.apology], s) := by
  cases mode with
  | silent => exact answerCommand_of_error h colors false times s
  | verbose => exact answerCommand_of_error h colors true times s
  | json =>
      simp only [rollCommand, jsonCommand, h]
      rfl

/-! ## Whole runs -/

/-- The report of rolling a text so many times, by the switches for the formula and for JSON; all
else is as in an invocation. -/
def Invocation.rollReport (invocation : Invocation) (colors : Colors)
    (files : String → FileContents) (fresh : ChaCha.Stream) (text : String) (times : UInt32)
    (verbose json : Bool) : Report :=
  Invocation.run { invocation with command := .roll text verbose times json } colors files fresh

/-- **Reports that tell of rolls**, by the switches for the formula and for JSON. Without switches
the values are shown, each in a line of its own; with the first switch alone the lines tell of the
formula too; with the second the output reads as the list of the rolls. Every run ends well. -/
structure TellRolls (colors : Bool) (reports : Bool → Bool → Report)
    (rolls : List FormulaRoll) : Prop where
  silent : ∃ lines, (reports false false).Shows lines ∧ List.Forall₂ TellsValue lines rolls
  verbose : ∃ lines, (reports true false).Shows lines ∧
    List.Forall₂ (TellsFormula colors) lines rolls
  json (verbose : Bool) : (reports verbose true).ending = .done ∧
    (reports verbose true).ending.code = 0 ∧ Serial.parse? (reports verbose true).output = some rolls

/-- **Reports of a text without a formula**, by the same switches: one apology and a good end, or
for JSON nothing shown and a failure. -/
structure TellApology (colors : Bool) (reports : Bool → Bool → Report) : Prop where
  answer (verbose : Bool) : ∃ line, (reports verbose false).Shows [line] ∧
    unstyled line = "Sorry, couldn't parse your dice formula" ∧
    (colors = false → unstyled line = line)
  json (verbose : Bool) : (reports verbose true).FailsWith (Formula.NotFound.message {})

/-- **The ways of showing rolls agree.** Reports of rolling a text from a source, by the number of
rolls and the switches, tell of the same rolls: if the text has a mark, it holds a formula, and these
are its rolls from the source, as many as asked for and one at least; if fewer rolls are asked for,
these are the first of them. A text without a mark is answered by an apology. -/
def ModesAgree (colors : Bool) (source : ChaCha.Stream) (text : String) (times : UInt32)
    (reports : UInt32 → Bool → Bool → Report) : Prop :=
  if 'd' ∈ text.toList ∨ 'D' ∈ text.toList then
    ∃ f rolls, Formula.parse text = .ok f ∧
      rolls = (Draw.times (max times 1).toNat f.roll source).1 ∧
      rolls.length = (max times 1).toNat ∧ (∀ roll ∈ rolls, roll.formula = f) ∧
      TellRolls colors (reports times) rolls ∧
      ∀ fewer, 1 ≤ fewer → fewer ≤ max times 1 →
        TellRolls colors (reports fewer) (rolls.take fewer.toNat)
  else TellApology colors (reports times)

/-- Every roll of a repeated one is of the same formula. -/
theorem formula_of_mem_times {f : Formula} {n : ℕ} {s : σ} {roll : FormulaRoll}
    (h : roll ∈ (Draw.times n f.roll s).1) : roll.formula = f := by
  rw [times_roll] at h
  obtain ⟨faces, -, rfl⟩ := List.mem_map.mp h
  rfl

/-- Rolls of a formula that was read are of a formula in its normal form. -/
theorem normal_of_mem_times {text : String} {f : Formula} (h : Formula.parse text = .ok f) {n : ℕ}
    {s : σ} {roll : FormulaRoll} (hroll : roll ∈ (Draw.times n f.roll s).1) :
    roll.formula.Normal := by
  rw [formula_of_mem_times hroll]
  exact Formula.normal_of_parse h

/-- Rolls of a formula that was read are kept by JSON. -/
theorem kept_times {text : String} {f : Formula} (h : Formula.parse text = .ok f) (n : ℕ) (s : σ) :
    Serial.Kept (Draw.times n f.roll s).1 :=
  Serial.kept_list fun _ hroll => FormulaRoll.kept (normal_of_mem_times h hroll)

section

variable (invocation : Invocation) (colors : Colors) (files : String → FileContents)
  (fresh : ChaCha.Stream)

/-- What the command comes to is reported. -/
theorem rollReport_of_command {text : String} {times : UInt32} {verbose json : Bool}
    {outcome : Outcome}
    (h : (rollCommand colors.output text (.ofSwitches verbose json) times
      (invocation.source fresh).1).1 = outcome) :
    (invocation.rollReport colors files fresh text times verbose json).ending =
        .ofOutcome outcome ∧
      (invocation.rollReport colors files fresh text times verbose json).lines = outcome.lines :=
  ⟨congrArg Ending.ofOutcome h, congrArg Outcome.lines h⟩

/-- A text with a formula is reported as the rolls of that formula, in the mode asked for. -/
theorem rollReport_of_ok {text : String} {f : Formula} (h : Formula.parse text = .ok f)
    (times : UInt32) (verbose json : Bool) :
    (invocation.rollReport colors files fresh text times verbose json).ending = .done ∧
      (invocation.rollReport colors files fresh text times verbose json).lines =
        rollLines colors.output (.ofSwitches verbose json)
          (Draw.times (repetitions times) f.roll (invocation.source fresh).1).1 := by
  have hcommand := rollCommand_of_ok h colors.output (.ofSwitches verbose json) times
    (invocation.source fresh).1
  exact ⟨Ending.ofOutcome_eq_done_iff.mpr hcommand.2.1, hcommand.1⟩

/-- Each way of reporting rolls tells of them. -/
theorem tellRolls_of_ok {text : String} {f : Formula} (h : Formula.parse text = .ok f)
    (times : UInt32) :
    TellRolls colors.output (invocation.rollReport colors files fresh text times)
      (Draw.times (repetitions times) f.roll (invocation.source fresh).1).1 where
  silent := by
    obtain ⟨hdone, hlines⟩ :=
      rollReport_of_ok invocation colors files fresh h times false false
    refine ⟨_, Report.shows_of_lines hdone hlines, ?_⟩
    exact List.forall₂_map_left_iff.mpr
      (List.forall₂_same.mpr fun roll _ => tellsValue_valueLine roll)
  verbose := by
    obtain ⟨hdone, hlines⟩ :=
      rollReport_of_ok invocation colors files fresh h times true false
    refine ⟨_, Report.shows_of_lines hdone hlines, ?_⟩
    exact List.forall₂_map_left_iff.mpr (List.forall₂_same.mpr fun roll hroll =>
      tellsFormula_verboseLine colors.output (normal_of_mem_times h hroll))
  json verbose := by
    obtain ⟨hdone, hlines⟩ :=
      rollReport_of_ok invocation colors files fresh h times verbose true
    refine ⟨hdone, (Report.shows_of_lines hdone hlines).code, ?_⟩
    -- The line break behind the array is a blank.
    rw [Report.output_of_line hlines]
    exact (kept_times h _ _).parse?_renderIndented (Json.isBlank_newLine 0)

/-- A text without a formula is reported as such. -/
theorem tellApology_of_error {text : String} (h : Formula.parse text = .error {})
    (times : UInt32) :
    TellApology colors.output (invocation.rollReport colors files fresh text times) where
  answer verbose := by
    have hmode : RollMode.ofSwitches verbose false ≠ .json := by cases verbose <;> decide
    have hcommand := rollCommand_of_error h colors.output (.ofSwitches verbose false) times
      (invocation.source fresh).1
    rw [if_neg hmode] at hcommand
    obtain ⟨hdone, hlines⟩ :=
      rollReport_of_command invocation colors files fresh (congrArg Prod.fst hcommand)
    refine ⟨_, Report.shows_of_lines hdone hlines, Style.unstyled_paint _ _ (by decide), ?_⟩
    intro hcolors
    rw [hcolors, Style.unstyled_paint _ _ (by decide), Style.paint_false]
  json verbose := by
    have hmode : RollMode.ofSwitches verbose true = .json := rfl
    have hcommand := rollCommand_of_error h colors.output (.ofSwitches verbose true) times
      (invocation.source fresh).1
    rw [if_pos hmode] at hcommand
    obtain ⟨hfailed, hlines⟩ :=
      rollReport_of_command invocation colors files fresh (congrArg Prod.fst hcommand)
    exact Report.failsWith_of_lines hfailed hlines

/-- **The reports of an invocation agree**, whatever else it asks for. -/
theorem modesAgree_rollReport (text : String) (times : UInt32) :
    ModesAgree colors.output (invocation.source fresh).1 text times
      (invocation.rollReport colors files fresh text) := by
  unfold ModesAgree
  split
  · rename_i hmark
    cases hparse : Formula.parse text with
    | error e =>
        have hnone := Formula.parse_eq_error_iff.mp hparse
        exact absurd hmark (not_or.mpr hnone)
    | ok f =>
        refine ⟨f, _, rfl, rfl, Draw.length_times _ _ _, fun _ => formula_of_mem_times,
          tellRolls_of_ok invocation colors files fresh hparse times, ?_⟩
        intro fewer hone hfewer
        -- The first rolls of a repetition are the rolls of a shorter one from the same source.
        have htell := tellRolls_of_ok invocation colors files fresh hparse fewer
        rw [repetitions_eq_toNat hone] at htell
        rw [Draw.take_fst_times (UInt32.le_iff_toNat_le.mp hfewer)]
        exact htell
  · rename_i hnone
    exact tellApology_of_error invocation colors files fresh
      (Formula.parse_eq_error_iff.mpr (not_or.mp hnone)) times

end

/-- The words for rolls are reported as an invocation that asks for them on this seed. -/
theorem run_rollWords {environment : Environment} (h : environment.InOrder) (colors : Colors)
    (files : String → FileContents) (fresh : ChaCha.Stream) (seed : UInt64) (text : String)
    (times : UInt32) (verbose json : Bool) :
    run (rollWords seed text times verbose json) environment colors files fresh =
      Invocation.rollReport ⟨some seed, environment.tables, .warn, .roll text verbose times json⟩
        colors files fresh text times verbose json :=
  run_of_ok (read_rollWords h seed text times verbose json) colors files fresh

/-- **The ways of showing rolls tell of the same rolls**, for every text and number of rolls. The
rolls of an invocation come from its source, whatever else it asks for; those of a command line that
names a seed come from the stream of that seed. -/
theorem roll_modes_agree (colors : Colors) (files : String → FileContents)
    (fresh : ChaCha.Stream) (text : String) (times : UInt32) :
    (∀ invocation : Invocation,
      ModesAgree colors.output (invocation.source fresh).1 text times
        (invocation.rollReport colors files fresh text)) ∧
      ∀ (environment : Environment) (seed : UInt64), environment.InOrder →
        ModesAgree colors.output (ChaCha.Stream.ofSeed seed) text times
          fun times verbose json =>
            run (rollWords seed text times verbose json) environment colors files fresh := by
  constructor
  · intro invocation
    exact modesAgree_rollReport invocation colors files fresh text times
  · intro environment seed henvironment
    simp only [run_rollWords henvironment]
    exact modesAgree_rollReport ⟨some seed, environment.tables, .warn, .tables⟩ colors files fresh
      text times

/-- Three rolls on a seed, of which two are asked for, and a text without a formula that is to be
rolled three times; the seed of the environment is of no account. -/
theorem roll_modes_agree_fewer :
    let environment : Environment := { seed := some "8" }
    let reports (text : String) (times : UInt32) (verbose json : Bool) : Report :=
      run (rollWords 7 text times verbose json) environment ⟨true, false⟩
        (fun _ => .unavailable .missing) (ChaCha.Stream.ofSeed 0)
    environment.InOrder ∧
      (∃ rolls, rolls.length = 3 ∧ TellRolls true (reports "hit for 2d6+01" 3) rolls ∧
        TellRolls true (reports "hit for 2d6+01" 2) (rolls.take 2)) ∧
      (reports "hit for 2d6+01" 2 false false).output = "4\n6\n" ∧
      (reports "hit for 2d6+01" 2 true false).output =
        "\x1b[1m2d6+1\x1b[0m:\x1b[32m4\x1b[0m\n\x1b[1m2d6+1\x1b[0m:\x1b[32m6\x1b[0m\n" ∧
      TellApology true (reports "hit me" 3) := by
  intro environment reports
  have henvironment : environment.InOrder := by
    refine ⟨?_, by decide⟩
    rintro text ⟨⟩
    exact ⟨8, by decide⟩
  refine ⟨henvironment, ?_, by decide +kernel, by decide +kernel, ?_⟩
  · have hrolls := (roll_modes_agree ⟨true, false⟩ (fun _ => .unavailable .missing)
      (ChaCha.Stream.ofSeed 0) "hit for 2d6+01" 3).2 environment 7 henvironment
    rw [ModesAgree, if_pos (by decide)] at hrolls
    obtain ⟨f, rolls, -, -, hlength, -, htell, hfewer⟩ := hrolls
    exact ⟨rolls, hlength, htell, hfewer 2 (by decide) (by decide)⟩
  · have hnone := (roll_modes_agree ⟨true, false⟩ (fun _ => .unavailable .missing)
      (ChaCha.Stream.ofSeed 0) "hit me" 3).2 environment 7 henvironment
    rw [ModesAgree, if_neg (by decide)] at hnone
    exact hnone

end Tabletop.CommandLine
