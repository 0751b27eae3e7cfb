import Tabletop.Proofs.Table.Listing

/-!
# Tabletop.Proofs.Table.Shadowing — how far a custom table hides a built-in one

A custom table hides the built-in table of its name: the listing shows the custom one instead, and
every spelling of the name rolls on it. The aliases of the built-in table are not spellings of its
name. Rolling looks for a custom table under the alias itself and, where there is none, goes on to
the catalogue, which knows the alias; so the hidden table is still rolled on there, although no row
tells of it.
-/

namespace Tabletop.TableSet

open Table (normalName)

/-- A built-in table whose name a custom table has is not listed. -/
theorem rowOfBuiltin_notMem_list {tables : TableSet} {table : Builtin}
    (h : table.name ∈ tables.customNames) : rowOfBuiltin table ∉ tables.list := by
  rw [list_eq, List.mem_append]
  rintro (hrow | hrow)
  · obtain ⟨other, hother, heq⟩ := List.mem_map.mp hrow
    have hname : other.name = table.name := congrArg Row.name heq
    have hunhidden := of_decide_eq_true (List.mem_filter.mp hother).2
    exact hunhidden (hname ▸ h)
  · obtain ⟨entry, -, heq⟩ := List.mem_map.mp hrow
    exact Origin.noConfusion (congrArg Row.origin heq)

/-- **A hidden table is hidden under its name and not under its aliases.** Let a custom table have
the name of a built-in one, and let a name mean the built-in one. If the name is a spelling of that
name, rolling on it draws from the custom table, or reports that it is empty. If no custom table is
found under the name itself, then it is an alias, and rolling on it is rolling on the built-in
table, which is not listed. -/
theorem roll_hidden {tables : TableSet} (h : tables.Loaded) {table : Builtin}
    {entries : List String} (hcustom : (table.name, entries) ∈ tables.custom.tables.entries)
    {name : String} (hname : Builtin.named? name = some table) {σ : Type} [Source σ] (s : σ) :
    rowOfBuiltin table ∉ tables.list ∧
      (normalName name = table.name →
        if entries = [] then tables.roll name s = (.error (.empty table.name), s)
        else ∃ entry ∈ entries, (tables.roll name s).1 = .ok entry) ∧
      (tables.custom.get? name = none →
        (normalName name, table) ∈ Builtin.aliases ∧
          tables.roll name s = (.ok (table.draw s).1, (table.draw s).2)) := by
  have hget : tables.custom.get? table.name = some entries := h.normalNames.get?_eq_some hcustom
  refine ⟨rowOfBuiltin_notMem_list (List.mem_map.mpr ⟨_, hcustom, rfl⟩), ?_, ?_⟩
  · intro hspelling
    have hsame : tables.custom.get? name = some entries := by
      rw [← hget, CustomTables.get?, CustomTables.get?, hspelling, Builtin.normalName_name]
    split
    · rename_i hnil
      rw [hnil] at hsame
      rw [roll_of_get?_nil hsame, hspelling]
    · rename_i hne
      exact roll_of_get? hsame hne s
  · intro hnone
    refine ⟨?_, roll_of_named? hnone hname s⟩
    rcases Builtin.named?_eq_some_iff.mp hname with hspelling | halias
    · -- A spelling of the name would find the custom table.
      rw [CustomTables.get?, hspelling] at hnone
      rw [CustomTables.get?, Builtin.normalName_name] at hget
      exact absurd (hnone.symm.trans hget) (by simp)
    · exact halias

/-! ## The eight ball -/

/-- One custom table, which has the name of the eight ball. -/
def ownEightBall : TableSet :=
  withCustom ⟨Dictionary.ofList [("magic-eight-ball", ["Only this"])]⟩

theorem loaded_ownEightBall : ownEightBall.Loaded := by
  have htext : CustomTables.ofText?
      "\x7b\"tables\":\x7b\"Magic Eight_Ball\":[\"Only this\"]\x7d\x7d" =
        some ownEightBall.custom := by
    decide +kernel
  exact .withCustom htext

/-- A spelling of the name of a hidden table, and an alias of it that no custom table has. -/
theorem roll_hidden_eightBall :
    ownEightBall.Loaded ∧
      (Builtin.magicEightBall.name, ["Only this"]) ∈ ownEightBall.custom.tables.entries ∧
      Builtin.named? "Magic Eight_Ball" = some .magicEightBall ∧
      (∃ entry ∈ ["Only this"],
        (ownEightBall.roll "Magic Eight_Ball" (Script.ofWord 0)).1 = .ok entry) ∧
      Builtin.named? "8 Ball" = some .magicEightBall ∧
      ownEightBall.custom.get? "8 Ball" = none ∧
      ownEightBall.roll "8 Ball" (Script.ofWord 0) =
        (.ok (Builtin.magicEightBall.draw (Script.ofWord 0)).1,
          (Builtin.magicEightBall.draw (Script.ofWord 0)).2) := by
  have hcustom : (Builtin.magicEightBall.name, ["Only this"]) ∈
      ownEightBall.custom.tables.entries := by decide +kernel
  have hspelling : Builtin.named? "Magic Eight_Ball" = some .magicEightBall := by decide +kernel
  have halias : Builtin.named? "8 Ball" = some .magicEightBall := by decide +kernel
  have hnone : ownEightBall.custom.get? "8 Ball" = none := by decide +kernel
  obtain ⟨-, hdrawn, -⟩ :=
    roll_hidden loaded_ownEightBall hcustom hspelling (Script.ofWord 0)
  obtain ⟨-, -, hbuiltin⟩ := roll_hidden loaded_ownEightBall hcustom halias (Script.ofWord 0)
  exact ⟨loaded_ownEightBall, hcustom, hspelling, hdrawn (by decide +kernel), halias, hnone,
    (hbuiltin hnone).2⟩

/-- **An alias rolls on a hidden table.** The eight ball answers under its alias, although the only
eight ball that is listed is the custom one. -/
theorem hidden_eightBall_answers :
    ownEightBall.Loaded ∧
      (Builtin.magicEightBall.name, ["Only this"]) ∈ ownEightBall.custom.tables.entries ∧
      Builtin.named? "8ball" = some .magicEightBall ∧
      ownEightBall.custom.get? "8ball" = none ∧
      (ownEightBall.roll "8ball" (Script.ofWord 0)).1 = .ok "It is certain" ∧
      ¬∃ entry ∈ ["Only this"],
        (ownEightBall.roll "8ball" (Script.ofWord 0)).1 = .ok entry := by
  have hroll : (ownEightBall.roll "8ball" (Script.ofWord 0)).1 = .ok "It is certain" := by
    decide +kernel
  refine ⟨loaded_ownEightBall, by decide +kernel, by decide +kernel, by decide +kernel, hroll, ?_⟩
  rintro ⟨entry, hentry, hentryRoll⟩
  rw [List.mem_singleton.mp hentry, hroll] at hentryRoll
  exact absurd (Except.ok.inj hentryRoll) (by decide)

end Tabletop.TableSet
