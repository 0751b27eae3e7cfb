import Tabletop.Proofs.Dice.Basic
import Tabletop.Proofs.Formula.Reading
import Tabletop.Proofs.Random.Cost
import Tabletop.Proofs.Table.Listing
import Tabletop.Proofs.Table.Parts

/-!
# Tabletop.Proofs.Failing — a failed draw costs no randomness

Four operations draw and may fail: an integer from a range, a pick from a collection, the answer to
a text and a roll on a table. Each of them looks for what could make it fail before it draws, so the
source has no part in failing, and failing has no effect on the source. When they succeed they read
a word at least: a formula has a die to throw, and a table an entry to pick.
-/

namespace Tabletop

open Draw (FailsFor Reads)

variable {σ : Type} [Source σ]

/-! ## Formulas -/

namespace Dice

theorem reads_rollDie (sides : UInt32) (s : σ) : Reads s (rollDie sides s).2 :=
  Draw.reads_below64 _ s

end Dice

namespace Formula

/-- **Rolling a formula reads**, since a throw has one die at least. -/
theorem reads_roll (f : Formula) (s : σ) : Reads s (f.roll s).2 := by
  have hcount := UInt32.le_iff_toNat_le.mp (Dice.one_le_clampCount f.count)
  obtain ⟨n, hn⟩ : ∃ n, (Dice.clampCount f.count).toNat = n + 1 :=
    Nat.exists_eq_succ_of_ne_zero (Nat.pos_iff_ne_zero.mp hcount)
  show Reads s (Draw.times (Dice.clampCount f.count).toNat (Dice.rollDie f.sides) s).2
  rw [hn]
  exact Draw.reads_times (Dice.reads_rollDie f.sides) n s

/-- **Answering a text fails if the text has no mark.** -/
theorem failsFor_answer (text : String) (verbose : Bool) :
    FailsFor (Answer.ofText text verbose : Draw σ Answer) (fun answer => answer = .unreadable)
      ('d' ∉ text.toList ∧ 'D' ∉ text.toList) := by
  apply Draw.failsFor_of_cases
  · intro hnone s
    unfold Answer.ofText
    rw [parse_eq_error_iff.mpr hnone]
    exact ⟨rfl, rfl⟩
  · intro hmark s
    unfold Answer.ofText
    cases hparse : parse text with
    | error e => exact absurd (parse_eq_error_iff.mp hparse) hmark
    | ok f => exact ⟨Answer.ofRoll_ne_unreadable verbose _, f.reads_roll s⟩

end Formula

/-! ## Tables -/

namespace Builtin

/-- **Rolling on a built-in table reads**, since it has a part to pick from. -/
theorem reads_draw (table : Builtin) (s : σ) : Reads s (table.draw s).2 := by
  rw [(table.drawsParts s).left]
  unfold Draw.placeEach
  cases hparts : table.parts with
  | nil => exact absurd hparts table.parts_ne_nil
  | cons part rest =>
      apply Draw.reads_mapM
      intro list t
      exact Draw.reads_below32 list.length t

/-- A name means no built-in table if its normal form is neither a name nor an alias. -/
theorem named?_eq_none_iff {name : String} :
    named? name = none ↔ ∀ table : Builtin,
      Table.normalName name ≠ table.name ∧ (Table.normalName name, table) ∉ aliases := by
  rw [Option.eq_none_iff_forall_ne_some]
  apply forall_congr'
  intro table
  rw [Ne, named?_eq_some_iff, not_or]

end Builtin

namespace TableSet

open Table (normalName)

/-- **Nothing matches a name**: its normal form is the name of no custom table, and neither the name
nor an alias of a built-in one. -/
def Unmatched (tables : TableSet) (name : String) : Prop :=
  normalName name ∉ tables.customNames ∧ ∀ table : Builtin,
    normalName name ≠ table.name ∧ (normalName name, table) ∉ Builtin.aliases

theorem unmatched_iff {tables : TableSet} {name : String} :
    tables.Unmatched name ↔ tables.custom.get? name = none ∧ Builtin.named? name = none := by
  unfold Unmatched customNames
  rw [← CustomTables.get?_isNone_iff, Option.isNone_iff_eq_none, Builtin.named?_eq_none_iff]

theorem roll_of_unmatched {tables : TableSet} {name : String} (h : tables.Unmatched name) (s : σ) :
    tables.roll name s = (.error (.unknown name), s) := by
  obtain ⟨hget, hname⟩ := unmatched_iff.mp h
  exact roll_of_named?_eq_none hget hname s

/-- **A name that finds entries or means a built-in table yields an entry** and reads. -/
theorem roll_reads {tables : TableSet} {name : String} (hempty : tables.custom.get? name ≠ some [])
    (hmatched : ¬tables.Unmatched name) (s : σ) :
    (∃ entry, (tables.roll name s).1 = .ok entry) ∧ Reads s (tables.roll name s).2 := by
  cases hget : tables.custom.get? name with
  | some entries =>
      have hne : entries ≠ [] := by
        rintro rfl
        exact hempty hget
      obtain ⟨entry, -, hpick⟩ := Draw.fst_pick_of_ne_nil hne s
      rw [roll_of_pick hget hpick]
      exact ⟨⟨entry, rfl⟩, Draw.reads_pick hne s⟩
  | none =>
      cases hname : Builtin.named? name with
      | some table =>
          rw [roll_of_named? hget hname]
          exact ⟨⟨_, rfl⟩, table.reads_draw s⟩
      | none => exact absurd (unmatched_iff.mpr ⟨hget, hname⟩) hmatched

/-- **Rolling on a name fails if the name finds an empty custom table or matches nothing.** -/
theorem failsFor_roll (tables : TableSet) (name : String) :
    FailsFor (tables.roll name : Draw σ (Except TableError String)) (fun r => ∃ e, r = .error e)
      (tables.custom.get? name = some [] ∨ tables.Unmatched name) := by
  apply Draw.failsFor_of_cases
  · rintro (hempty | hunmatched) s
    · rw [roll_of_get?_nil hempty]
      exact ⟨⟨_, rfl⟩, rfl⟩
    · rw [roll_of_unmatched hunmatched]
      exact ⟨⟨_, rfl⟩, rfl⟩
  · intro hreason s
    rw [not_or] at hreason
    obtain ⟨⟨entry, hentry⟩, hreads⟩ := roll_reads hreason.1 hreason.2 s
    refine ⟨?_, hreads⟩
    rintro ⟨e, he⟩
    rw [hentry] at he
    cases he

/-- The two errors of rolling tell the two reasons apart. -/
theorem roll_error_iff (tables : TableSet) (name : String) (s : σ) :
    ((tables.roll name s).1 = .error (.empty (normalName name)) ↔
        tables.custom.get? name = some []) ∧
      ((tables.roll name s).1 = .error (.unknown name) ↔ tables.Unmatched name) := by
  have hfails := (tables.failsFor_roll (σ := σ) name).failed_iff s
  constructor
  · constructor
    · intro herror
      rcases hfails.mp ⟨_, herror⟩ with hempty | hunmatched
      · exact hempty
      · rw [roll_of_unmatched hunmatched] at herror
        cases herror
    · intro hempty
      rw [roll_of_get?_nil hempty]
  · constructor
    · intro herror
      rcases hfails.mp ⟨_, herror⟩ with hempty | hunmatched
      · rw [roll_of_get?_nil hempty] at herror
        cases herror
      · exact hunmatched
    · intro hunmatched
      rw [roll_of_unmatched hunmatched]

end TableSet

/-! ## All of them -/

/-- **A failed draw costs no randomness, and failure does not depend on it.** From every source, an
integer from a range fails exactly if the range is upside down, a pick exactly if the collection is
empty, of whatever kind, the answer to a text exactly if the text has neither a small nor a capital
`d`, and a roll on a table exactly if the name finds a custom table without entries, whatever else
has that name, or matches nothing at all; the two errors of a roll tell these two apart. What fails
leaves the source as it was, and what does not fail reads a word at least; a script that is read from
stands further on in the same words. -/
theorem failing_costs_nothing (σ : Type) [Source σ] :
    (∀ min max : Int64, FailsFor (Draw.integer min max : Draw σ (Except Draw.EmptyRange Int64))
        (fun r => ∃ e, r = .error e) (max < min)) ∧
      (∀ (γ α : Type) [Pickable γ α] (c : γ), FailsFor (Draw.pickFrom c : Draw σ (Option α))
        (fun r => r = none) (Pickable.candidates c = [])) ∧
      (∀ α : Type, Draw.PickFailsIfEmpty σ α) ∧
      (∀ (text : String) (verbose : Bool), FailsFor (Answer.ofText text verbose : Draw σ Answer)
        (fun answer => answer = .unreadable) ('d' ∉ text.toList ∧ 'D' ∉ text.toList)) ∧
      (∀ (tables : TableSet) (name : String),
        FailsFor (tables.roll name : Draw σ (Except TableError String))
            (fun r => ∃ e, r = .error e)
            (tables.custom.get? name = some [] ∨ tables.Unmatched name) ∧
          ∀ s : σ, ((tables.roll name s).1 = .error (.empty (Table.normalName name)) ↔
              tables.custom.get? name = some []) ∧
            ((tables.roll name s).1 = .error (.unknown name) ↔ tables.Unmatched name)) ∧
      ∀ s t : Script, Reads s t → t.words = s.words ∧ s.position < t.position := by
  refine ⟨Draw.failsFor_integer, ?_, Draw.pickFailsIfEmpty, Formula.failsFor_answer, ?_,
    fun _ _ => Draw.position_lt_of_reads⟩
  · intro γ α _ c
    exact Draw.failsFor_pickFrom c
  · intro tables name
    exact ⟨tables.failsFor_roll name, tables.roll_error_iff name⟩

/-- A script that an answer was picked with stands further on, and one that no answer could be picked
with stands where it was. -/
theorem failing_costs_nothing_answers :
    let s := Script.ofWord 0
    let picked := Draw.pickFrom ["Yes", "No"] s
    let missed := Draw.pickFrom ([] : List String) s
    (picked.1 ≠ none ∧ Reads s picked.2 ∧ s.position < picked.2.position) ∧
      missed.1 = none ∧ missed.2 = s := by
  intro s picked missed
  obtain ⟨-, -, hkinds, -, -, hscript⟩ := failing_costs_nothing Script
  have hpicked : picked.1 ≠ none := by decide
  have hmissed : missed.1 = none := by decide
  have hreads := ((hkinds String).list ["Yes", "No"]).costs s hpicked
  exact ⟨⟨hpicked, hreads, (hscript _ _ hreads).2⟩, hmissed,
    ((hkinds String).list []).free s hmissed⟩

end Tabletop
