import Tabletop.Proofs.CommandLine.Failure
import Tabletop.Table.Disk

/-!
# Tabletop.Proofs.CommandLine.Files — what a run reads of the files

A run looks at one path at most, the one that its words or the environment name for the table file,
and only if its command uses tables. So what is gathered from that path is all that a run needs, and
whatever else is on the disk makes no difference. Where the path leads to no file, a command that
uses tables fails and shows nothing.

No path leads on from a file. So a table path with parts behind those that lead to a file fails in
the same way, even if these parts go nowhere.
-/

namespace Tabletop

/-! ## Paths on a disk -/

/-- **No path leads on from a file.** The induction follows the walk. -/
theorem Place.walk_append_of_file {place : Place} {above : List Place} {parts : List String}
    {bytes : ByteArray} (h : place.walk above parts = .ok (.file bytes)) (part : String)
    (rest : List String) : place.walk above (parts ++ part :: rest) = .error .notDirectory := by
  induction place, above, parts using walk.induct with
  | case1 place above =>
      rw [walk_nil] at h
      rw [Except.ok.inj h, List.nil_append, walk_file]
  | case2 file above first parts => exact absurd h (by simp [walk_file])
  | case3 entries above first parts hstay ih =>
      rw [walk_stay hstay] at h
      rw [List.cons_append, walk_stay hstay, ih h]
  | case4 entries parts _ ih =>
      rw [walk_top] at h
      rw [List.cons_append, walk_top, ih h]
  | case5 entries parts parent above _ ih =>
      rw [walk_up] at h
      rw [List.cons_append, walk_up, ih h]
  -- A walk that fails leads to no file.
  | case6 entries above first parts hstay hup hlong =>
      rw [walk_down hstay hup, if_pos hlong] at h
      exact absurd h (by simp)
  | case7 entries above first parts hstay hup hlong hlookup =>
      rw [walk_down hstay hup, if_neg hlong, hlookup] at h
      exact absurd h (by simp)
  | case8 entries above first parts hstay hup hlong next hlookup ih =>
      rw [walk_down hstay hup, if_neg hlong, hlookup] at h
      rw [List.cons_append, walk_down hstay hup, if_neg hlong, hlookup]
      exact ih h

/-- A path with parts behind those that lead to a file leads to nothing that can be read. -/
theorem Disk.contents_beyond_file {disk : Disk} {path : String} (hpath : path ≠ "")
    (hlength : path.utf8ByteSize ≤ longestPath) {parts rest : List String} {part : String}
    (hroute : disk.route path = parts ++ part :: rest) {bytes : ByteArray}
    (hfile : Place.walk (.directory disk.entries) [] parts = .ok (.file bytes)) :
    disk.contents path = .unavailable .notDirectory := by
  rw [contents, if_neg hpath, if_neg (Nat.not_lt.mpr hlength), hroute,
    Place.walk_append_of_file hfile]

namespace CommandLine

/-! ## One path -/

/-- The commands that use tables. -/
def Command.usesTables : Command → Bool
  | .pick _ _ => true
  | .tables => true
  | _ => false

section Commands

variable {σ : Type} [Source σ] {setting other : Setting} {command : Command}

/-- Settings that agree on the table file load the same tables. -/
theorem loadTables_eq_of_agree (htables : setting.tables = other.tables)
    (hfiles : ∀ path ∈ setting.tables, setting.files path = other.files path) :
    loadTables setting = loadTables other := by
  unfold loadTables
  rw [← htables]
  cases hpath : setting.tables with
  | none => rfl
  | some path => simp only [hfiles path hpath]

/-- **A command looks at no file but the table file**, and only if it uses tables. -/
theorem perform_eq_of_agree (hcolors : setting.colors = other.colors)
    (hagree : command.usesTables → setting.tables = other.tables ∧
      ∀ path ∈ setting.tables, setting.files path = other.files path) :
    command.perform (σ := σ) setting = command.perform other := by
  cases command with
  | pick name times =>
      obtain ⟨htables, hfiles⟩ := hagree rfl
      funext s
      simp only [Command.perform, pickCommand, loadTables_eq_of_agree htables hfiles]
  | tables =>
      obtain ⟨htables, hfiles⟩ := hagree rfl
      simp only [Command.perform, tablesCommand, loadTables_eq_of_agree htables hfiles]
  | _ => simp only [Command.perform, hcolors]

/-- **A command that uses tables fails if its table file cannot be read.** -/
theorem failure_perform_of_unavailable (huses : command.usesTables) {path : String}
    (htables : setting.tables = some path) {fault : FileFault}
    (hfile : setting.files path = .unavailable fault) (s : σ) :
    (command.perform setting s).1.failure = some (TableError.unreadable path fault).message := by
  have hload : loadTables setting = .error (.unreadable path fault) := by
    unfold loadTables
    simp only [htables, CustomTables.readRaw, hfile, FileContents.text]
    rfl
  cases command with
  | pick name times => simp only [Command.perform, pickCommand, hload, Outcome.failed]
  | tables => simp only [Command.perform, tablesCommand, hload, Outcome.failed]
  | _ => exact absurd huses Bool.false_ne_true

end Commands

/-! ## Runs -/

section

variable {words : List String} {environment : Environment} {colors : Colors}
  {files other : String → FileContents} {fresh : ChaCha.Stream}

theorem Invocation.run_eq_of_agree {invocation : Invocation}
    (h : invocation.command.usesTables → ∀ path ∈ invocation.tables, files path = other path) :
    invocation.run colors files fresh = invocation.run colors other fresh := by
  have hperform : invocation.command.perform (σ := ChaCha.Stream)
        ⟨colors.output, invocation.tables, files⟩ =
      invocation.command.perform ⟨colors.output, invocation.tables, other⟩ :=
    perform_eq_of_agree rfl fun huses => ⟨rfl, h huses⟩
  simp only [Invocation.run, hperform]

/-- **A run looks at one path at most.** -/
theorem run_eq_of_agree (h : ∀ path ∈ tablePath? words environment, files path = other path) :
    run words environment colors files fresh = run words environment colors other fresh := by
  cases hread : Invocation.read words environment with
  | error stop => rw [run_of_error hread, run_of_error hread]
  | ok invocation =>
      rw [run_of_ok hread, run_of_ok hread]
      apply Invocation.run_eq_of_agree
      intro _ path hpath
      apply h
      rw [tablePath?, hread]
      exact hpath

/-- **What is gathered for a run is all that it needs.** -/
theorem run_only {path : String} (h : tablePath? words environment = some path) :
    run words environment colors (.only path (files path)) fresh =
      run words environment colors files fresh := by
  apply run_eq_of_agree
  intro looked hlooked
  rw [h] at hlooked
  rw [← Option.some.inj hlooked]
  exact if_pos rfl

/-- **Without a table file there is nothing to show** for a command that uses tables. -/
theorem run_failsWith_of_unavailable {invocation : Invocation}
    (hread : Invocation.read words environment = .ok invocation)
    (huses : invocation.command.usesTables) {path : String}
    (htables : invocation.tables = some path) {fault : FileFault}
    (hfile : files path = .unavailable fault) :
    (run words environment colors files fresh).FailsWith
      (TableError.unreadable path fault).message := by
  rw [run_of_ok hread]
  apply failsWith_of_ending
  rw [Invocation.ending_run]
  exact Ending.ofOutcome_eq_failed_iff.mpr
    (failure_perform_of_unavailable huses htables hfile (invocation.source fresh).1)

/-- **A table path that leads on from a file fails**, wherever on the disk the file is. -/
theorem run_beyond_file {disk : Disk} {invocation : Invocation}
    (hread : Invocation.read words environment = .ok invocation)
    (huses : invocation.command.usesTables) {path : String}
    (htables : invocation.tables = some path) (hpath : path ≠ "")
    (hlength : path.utf8ByteSize ≤ Disk.longestPath) {parts rest : List String} {part : String}
    (hroute : disk.route path = parts ++ part :: rest) {bytes : ByteArray}
    (hfile : Place.walk (.directory disk.entries) [] parts = .ok (.file bytes)) :
    (run words environment colors disk.contents fresh).FailsWith
      (TableError.unreadable path .notDirectory).message :=
  run_failsWith_of_unavailable hread huses htables
    (Disk.contents_beyond_file hpath hlength hroute hfile)

end

end CommandLine

end Tabletop
