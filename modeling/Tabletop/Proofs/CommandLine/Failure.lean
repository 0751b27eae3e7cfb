import Mathlib.Data.Set.List
import Tabletop.Proofs.CommandLine.Rolling
import Tabletop.Proofs.Table.Listing
import Tabletop.Proofs.Text.Blank

/-!
# Tabletop.Proofs.CommandLine.Failure — a run that fails has shown nothing

Every command but one finds out whether it fails before it shows anything. Picking from a table is
the exception: it rolls on the table over and over, every roll may fail, and what was shown before
stays shown. But whether a roll fails is settled by the tables and the name alone. So either the
first roll fails, and nothing was shown, or none does, and all entries asked for are shown.
-/

namespace Tabletop.CommandLine

variable {σ : Type} [Source σ]

/-! ## Rolling on a table over and over -/

/-- A failing roll ends the rolling at once. -/
theorem rollTable_of_error {tables : TableSet} {name : String} {e : TableError} {s : σ}
    (h : tables.roll name s = (.error e, s)) (n : ℕ) (shown : List String) :
    rollTable tables name (n + 1) shown s = ((shown.reverse, some e), s) := by
  simp only [rollTable, h]

/-- A roll that yields an entry shows it, and the rolling goes on. -/
theorem rollTable_succ_of_ok {tables : TableSet} {name entry : String} {s left : σ}
    (h : tables.roll name s = (.ok entry, left)) (n : ℕ) (shown : List String) :
    rollTable tables name (n + 1) shown s =
      rollTable tables name n (Text.trim entry :: shown) left := by
  simp only [rollTable, h]

/-- **Rolls that yield entries are all shown**, without the blanks around them. -/
theorem rollTable_of_ok {tables : TableSet} {name : String} {n : ℕ} {s : σ} {entries : List String}
    (h : (Draw.times n (tables.roll name) s).1 = entries.map .ok) (shown : List String) :
    rollTable tables name n shown s =
      ((shown.reverse ++ entries.map Text.trim, none), (Draw.times n (tables.roll name) s).2) := by
  induction n generalizing s entries shown with
  | zero =>
      have hnil : entries = [] := List.map_eq_nil_iff.mp h.symm
      simp [rollTable, Draw.times_zero, hnil]
  | succ n ih =>
      rw [Draw.times_succ] at h ⊢
      obtain ⟨entry, rest, rfl, hfirst, hrest⟩ := List.map_eq_cons_iff.mp h.symm
      have hroll : tables.roll name s = (.ok entry, (tables.roll name s).2) :=
        Prod.ext hfirst.symm rfl
      rw [rollTable_succ_of_ok hroll, ih hrest.symm, List.reverse_cons, List.append_assoc,
        List.singleton_append, List.map_cons]

/-- Rolls that never fail are the rolls of some entries. -/
theorem exists_entries_of_yields {tables : TableSet} {name : String}
    (h : ∀ s : σ, ∃ entry, (tables.roll name s).1 = .ok entry) (n : ℕ) (s : σ) :
    ∃ entries : List String, (Draw.times n (tables.roll name) s).1 = entries.map .ok := by
  have hall : ∀ result ∈ (Draw.times n (tables.roll name) s).1,
      result ∈ Set.range (Except.ok : String → Except TableError String) :=
    (Draw.times_keeps (fun _ => True)
      (fun s _ => ⟨(h s).imp fun _ hentry => hentry.symm, trivial⟩) trivial n).1
  have hrange : (Draw.times n (tables.roll name) s).1 ∈
      Set.range (List.map (Except.ok : String → Except TableError String)) := by
    rw [Set.range_list_map]
    exact hall
  obtain ⟨entries, hentries⟩ := hrange
  exact ⟨entries, hentries.symm⟩

/-! ## Commands -/

/-- A command that failed has shown nothing. -/
def Outcome.AllOrNothing (outcome : Outcome) : Prop :=
  outcome.failure = none ∨ outcome.lines = []

theorem allOrNothing_failed (message : String) : (Outcome.failed message).AllOrNothing := .inr rfl

theorem allOrNothing_shown (events : List Event) (lines : List String) :
    (Outcome.shown events lines).AllOrNothing :=
  .inl rfl

/-- What picking from a table comes to when it ends well: entries drawn one after another, all of
them shown. -/
structure Picks (setting : Setting) (name : String) (times : UInt32) (s : σ)
    (tables : TableSet) (entries : List String) : Prop where
  loaded : ∃ events, loadTables setting = .ok (tables, events)
  drawn : (Draw.times (repetitions times) (tables.roll name) s).1 = entries.map .ok
  lines : (pickCommand setting name times s).1.lines = entries.map Text.trim
  failure : (pickCommand setting name times s).1.failure = none

/-- Entries that were drawn are picked. -/
theorem picks_of_drawn {setting : Setting} {name : String} {times : UInt32} {s : σ}
    {tables : TableSet} {events : List Event} {entries : List String}
    (hload : loadTables setting = .ok (tables, events))
    (hdrawn : (Draw.times (repetitions times) (tables.roll name) s).1 = entries.map .ok) :
    Picks setting name times s tables entries := by
  refine ⟨⟨events, hload⟩, hdrawn, ?_, ?_⟩ <;>
    simp only [pickCommand, hload, rollTable_of_ok hdrawn, List.reverse_nil, List.nil_append,
      Option.map_none]

/-- **Picking shows all entries or none.** -/
theorem pickCommand_fails_or_picks (setting : Setting) (name : String) (times : UInt32) (s : σ) :
    ((∃ message, (pickCommand setting name times s).1.failure = some message) ∧
        (pickCommand setting name times s).1.lines = []) ∨
      ∃ tables entries, Picks setting name times s tables entries := by
  cases hload : loadTables setting with
  | error e =>
      left
      simp only [pickCommand, hload]
      exact ⟨⟨e.message, rfl⟩, rfl⟩
  | ok loaded =>
      obtain ⟨tables, events⟩ := loaded
      -- The tables and the name decide it for the first roll and for every later one.
      rcases tables.roll_fails_or_yields (σ := σ) name with ⟨e, hfails⟩ | hyields
      · left
        obtain ⟨n, hn⟩ := exists_repetitions_eq times
        simp only [pickCommand, hload, hn, rollTable_of_error (hfails s)]
        exact ⟨⟨e.message, rfl⟩, rfl⟩
      · right
        obtain ⟨entries, hdrawn⟩ := exists_entries_of_yields hyields (repetitions times) s
        exact ⟨tables, entries, picks_of_drawn hload hdrawn⟩

/-- **Picking fewer entries picks the first of them.** -/
theorem Picks.take {setting : Setting} {name : String} {times fewer : UInt32} {s : σ}
    {tables : TableSet} {entries : List String} (h : Picks setting name times s tables entries)
    (hfewer : repetitions fewer ≤ repetitions times) :
    Picks setting name fewer s tables (entries.take (repetitions fewer)) := by
  obtain ⟨events, hload⟩ := h.loaded
  refine picks_of_drawn hload ?_
  rw [← Draw.take_fst_times hfewer, h.drawn, List.map_take]

theorem Picks.length {setting : Setting} {name : String} {times : UInt32} {s : σ}
    {tables : TableSet} {entries : List String} (h : Picks setting name times s tables entries) :
    entries.length = repetitions times := by
  have hlength := congrArg List.length h.drawn
  rw [Draw.length_times, List.length_map] at hlength
  exact hlength.symm

/-- **No command fails after it has shown something.** -/
theorem allOrNothing_perform (setting : Setting) (command : Command) (s : σ) :
    (command.perform setting s).1.AllOrNothing := by
  cases command with
  | roll text verbose times json =>
      cases hparse : Formula.parse text with
      | ok f => exact .inl (rollCommand_of_ok hparse setting.colors _ times s).2.1
      | error e =>
          show (rollCommand setting.colors text _ times s).1.AllOrNothing
          rw [rollCommand_of_error hparse]
          split
          · exact allOrNothing_failed _
          · exact allOrNothing_shown _ _
  | dice count sides => exact allOrNothing_shown _ _
  | pool p json => exact allOrNothing_shown _ _
  | fudge count => exact allOrNothing_shown _ _
  | chance threshold scale =>
      show (chanceCommand setting.colors threshold scale s).1.AllOrNothing
      unfold chanceCommand
      split
      · exact allOrNothing_failed _
      · exact allOrNothing_shown _ _
  | flip => exact allOrNothing_shown _ _
  | d66 => exact allOrNothing_shown _ _
  | d666 => exact allOrNothing_shown _ _
  | pick table times =>
      rcases pickCommand_fails_or_picks setting table times s with ⟨-, hnone⟩ | ⟨_, _, hpicks⟩
      · exact .inr hnone
      · exact .inl hpicks.failure
  | tables =>
      show (tablesCommand setting).AllOrNothing
      unfold tablesCommand
      split
      · exact allOrNothing_failed _
      · exact allOrNothing_shown _ _

/-! ## Runs -/

/-- Where there is no command to run, the exit code is not that of a failure. -/
theorem code_ofStop_ne_one (stop : Stop) : (Report.ofStop stop).ending.code ≠ 1 := by
  have hmisused : Ending.misused.code ≠ 1 := by decide
  have hdone : Ending.done.code ≠ 1 := by decide
  cases stop with
  | misuse => exact hmisused
  | version title => exact hdone
  | help title => exact hdone

/-- A run that does not end well shows nothing. -/
theorem output_run_eq_of_ending_ne_done {invocation : Invocation} {colors : Colors}
    {files : String → FileContents} {fresh : ChaCha.Stream}
    (h : (invocation.run colors files fresh).ending ≠ .done) :
    (invocation.run colors files fresh).output = "" := by
  rw [Invocation.ending_run, Ne, Ending.ofOutcome_eq_done_iff] at h
  have hlines : (invocation.run colors files fresh).lines = [] := by
    rw [Invocation.lines_run]
    exact (allOrNothing_perform _ invocation.command _).resolve_left h
  rw [Report.output, hlines]
  rfl

/-- **A run with the exit code of a failure shows nothing.** -/
theorem output_run_eq_of_code_eq_one {words : List String} {environment : Environment}
    {colors : Colors} {files : String → FileContents} {fresh : ChaCha.Stream}
    (h : (run words environment colors files fresh).ending.code = 1) :
    (run words environment colors files fresh).output = "" := by
  cases hread : Invocation.read words environment with
  | error stop =>
      rw [run_of_error hread] at h
      exact absurd h (code_ofStop_ne_one stop)
  | ok invocation =>
      rw [run_of_ok hread] at h ⊢
      apply output_run_eq_of_ending_ne_done
      intro hdone
      rw [hdone] at h
      exact absurd h (by decide)

/-- A run that fails shows nothing. -/
theorem failsWith_of_ending {invocation : Invocation} {colors : Colors}
    {files : String → FileContents} {fresh : ChaCha.Stream} {message : String}
    (h : (invocation.run colors files fresh).ending = .failed message) :
    (invocation.run colors files fresh).FailsWith message where
  failed := h
  code := by rw [h, Ending.code]
  output := by
    apply output_run_eq_of_ending_ne_done
    rw [h]
    exact Ending.noConfusion

/-- The report of picking from a table so many times; all else is as in an invocation. -/
def Invocation.pickReport (invocation : Invocation) (colors : Colors)
    (files : String → FileContents) (fresh : ChaCha.Stream) (name : String) (times : UInt32) :
    Report :=
  Invocation.run { invocation with command := .pick name times } colors files fresh

/-- **Picking shows all entries or none.** Reports of picking from a table of this name, by the
number of entries: either the run fails and shows nothing; or it shows as many entries as were asked
for, at least one, each without the blanks around it. These are the entries that rolling on the table
over and over draws from the source; and if fewer are asked for, the first of them are shown. -/
def PicksAllOrNothing (loaded : Except TableError TableSet) (source : ChaCha.Stream)
    (name : String) (times : UInt32) (reports : UInt32 → Report) : Prop :=
  (∃ message, (reports times).FailsWith message) ∨
    ∃ tables, ∃ entries : List String,
      loaded = .ok tables ∧
      (Draw.times (max times 1).toNat (tables.roll name) source).1 = entries.map .ok ∧
      entries.length = (max times 1).toNat ∧
      (∀ entry ∈ entries, Text.TrimmedFrom (Text.trim entry).toList entry.toList) ∧
      (reports times).Shows (entries.map Text.trim) ∧
      ∀ fewer, 1 ≤ fewer → fewer ≤ max times 1 →
        (reports fewer).Shows ((entries.take fewer.toNat).map Text.trim)

/-- Entries that are picked are shown. -/
theorem Picks.shows {invocation : Invocation} {colors : Colors} {files : String → FileContents}
    {fresh : ChaCha.Stream} {name : String} {times : UInt32} {tables : TableSet}
    {entries : List String}
    (h : Picks ⟨colors.output, invocation.tables, files⟩ name times (invocation.source fresh).1
      tables entries) :
    (invocation.pickReport colors files fresh name times).Shows (entries.map Text.trim) := by
  have hdone : (invocation.pickReport colors files fresh name times).ending = .done :=
    Ending.ofOutcome_eq_done_iff.mpr h.failure
  have hlines : (invocation.pickReport colors files fresh name times).lines =
      entries.map Text.trim := h.lines
  exact Report.shows_of_lines hdone hlines

/-- **Picking as an invocation asks shows all or nothing**, whatever else it asks for. -/
theorem picksAllOrNothing_pickReport (invocation : Invocation) (colors : Colors)
    (files : String → FileContents) (fresh : ChaCha.Stream) (name : String) (times : UInt32) :
    PicksAllOrNothing ((loadTables ⟨colors.output, invocation.tables, files⟩).map Prod.fst)
      (invocation.source fresh).1 name times
      (invocation.pickReport colors files fresh name) := by
  rcases pickCommand_fails_or_picks ⟨colors.output, invocation.tables, files⟩ name times
      (invocation.source fresh).1 with ⟨⟨message, hmessage⟩, -⟩ | ⟨tables, entries, hpicks⟩
  · left
    have hending : (invocation.pickReport colors files fresh name times).ending =
        .failed message := Ending.ofOutcome_eq_failed_iff.mpr hmessage
    exact ⟨message, failsWith_of_ending hending⟩
  · right
    obtain ⟨events, hload⟩ := hpicks.loaded
    have htables : (loadTables ⟨colors.output, invocation.tables, files⟩).map Prod.fst =
        .ok tables := by
      rw [hload]
      rfl
    refine ⟨tables, entries, htables, hpicks.drawn, hpicks.length, ?_, hpicks.shows, ?_⟩
    · intro entry _
      rw [Text.toList_trim]
      exact Text.trimmedFrom_trimChars entry.toList
    · intro fewer hone hfewer
      have hrepetitions := repetitions_eq_toNat hone
      have htake := hpicks.take (hrepetitions.trans_le (UInt32.le_iff_toNat_le.mp hfewer))
      rw [hrepetitions] at htake
      exact htake.shows

/-- The words for picks are reported as an invocation that asks for them on this seed. -/
theorem run_pickWords {environment : Environment} (h : environment.InOrder) (colors : Colors)
    (files : String → FileContents) (fresh : ChaCha.Stream) (seed : UInt64) (name : String)
    (times : UInt32) :
    run (pickWords seed name times) environment colors files fresh =
      Invocation.pickReport ⟨some seed, environment.tables, .warn, .pick name times⟩ colors files
        fresh name times :=
  run_of_ok (read_pickWords h seed name times) colors files fresh

/-- **A run shows all or nothing.** Whatever the words, the environment and the files, a run with
the exit code of a failure shows nothing; and picking from a table shows all entries or none. The
entries of an invocation come from its source, whatever else it asks for; those of a command line
that names a seed come from the stream of that seed. -/
theorem run_shows_all_or_nothing (environment : Environment) (colors : Colors)
    (files : String → FileContents) (fresh : ChaCha.Stream) :
    (∀ words, (run words environment colors files fresh).ending.code = 1 →
        (run words environment colors files fresh).output = "") ∧
      (∀ (invocation : Invocation) (name : String) (times : UInt32),
        PicksAllOrNothing ((loadTables ⟨colors.output, invocation.tables, files⟩).map Prod.fst)
          (invocation.source fresh).1 name times
          (invocation.pickReport colors files fresh name)) ∧
      ∀ (seed : UInt64) (name : String) (times : UInt32), environment.InOrder →
        PicksAllOrNothing ((loadTables ⟨colors.output, environment.tables, files⟩).map Prod.fst)
          (ChaCha.Stream.ofSeed seed) name times
          fun times => run (pickWords seed name times) environment colors files fresh := by
  refine ⟨fun words => output_run_eq_of_code_eq_one, ?_, ?_⟩
  · intro invocation name times
    exact picksAllOrNothing_pickReport invocation colors files fresh name times
  · intro seed name times henvironment
    simp only [run_pickWords henvironment]
    exact picksAllOrNothing_pickReport ⟨some seed, environment.tables, .warn, .tables⟩ colors
      files fresh name times

/-- A table that there is not, and three cards on a seed of which two are asked for. -/
theorem run_shows_all_or_nothing_cards :
    let files : String → FileContents := fun _ => .unavailable .missing
    let fresh := ChaCha.Stream.ofSeed 0
    let unknown := run ["pick", "dragon-hoard", "-n", "3"] {} ⟨false, false⟩ files fresh
    let cards (times : UInt32) := run (pickWords 8 "card" times) {} ⟨false, false⟩ files fresh
    (unknown.ending.code = 1 ∧ unknown.output = "") ∧
      Environment.InOrder {} ∧
      (∃ entries : List String, entries.length = 3 ∧ (cards 3).Shows (entries.map Text.trim) ∧
        (cards 2).Shows ((entries.take 2).map Text.trim)) ∧
      (cards 2).output = "9♠\nK♣\n" := by
  intro files fresh unknown cards
  have hall := run_shows_all_or_nothing {} ⟨false, false⟩ files fresh
  have hcode : unknown.ending.code = 1 := by decide +kernel
  have henvironment : Environment.InOrder {} := ⟨by simp, by decide⟩
  have hdone : (cards 3).ending = .done := by decide +kernel
  refine ⟨⟨hcode, hall.1 _ hcode⟩, henvironment, ?_, by decide +kernel⟩
  rcases hall.2.2 8 "card" 3 henvironment with
    ⟨message, hfails⟩ | ⟨tables, entries, -, -, hlength, -, hshows, hfewer⟩
  · exact absurd (hdone.symm.trans hfails.failed) Ending.noConfusion
  · exact ⟨entries, hlength, hshows, hfewer 2 (by decide) (by decide)⟩

end Tabletop.CommandLine
