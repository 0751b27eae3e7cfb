import Tabletop.Proofs.Random.Script
import Tabletop.Proofs.Table.Keys
import Tabletop.Table.Set

/-!
# Tabletop.Proofs.Table.Listing — the listing tells what rolling does

The listing and the rolling both find out what a name means, each in its own way: the listing leaves
out a built-in table if a custom one is found under its name, and rolling looks at the custom tables
first and falls through to the names and aliases of the built-in ones. That the two agree rests on
all names being in normal form: a custom table is then found under the name that it is listed with,
and the name of a built-in table that is listed leads past the custom tables to that table and no
other.
-/

namespace Tabletop.TableSet

open Table (normalName)

variable {σ : Type} [Source σ]

/-! ## What a name leads to -/

/-- A name that finds a custom table without entries leads to an error and draws nothing. -/
theorem roll_of_get?_nil {tables : TableSet} {name : String}
    (h : tables.custom.get? name = some []) (s : σ) :
    tables.roll name s = (.error (.empty (normalName name)), s) := by
  simp only [roll, h, Draw.pick_nil]

/-- A name that finds a custom table leads to the entry that is picked. -/
theorem roll_of_pick {tables : TableSet} {name : String} {entries : List String}
    (h : tables.custom.get? name = some entries) {s : σ} {entry : String}
    (hpick : (Draw.pick entries s).1 = some entry) :
    tables.roll name s = (.ok entry, (Draw.pick entries s).2) := by
  simp only [roll, h, hpick]

/-- **A name that finds a custom table leads to one of its entries.** -/
theorem roll_of_get? {tables : TableSet} {name : String} {entries : List String}
    (h : tables.custom.get? name = some entries) (hne : entries ≠ []) (s : σ) :
    ∃ entry ∈ entries, (tables.roll name s).1 = .ok entry := by
  obtain ⟨entry, hentry, hpick⟩ := Draw.fst_pick_of_ne_nil hne s
  exact ⟨entry, hentry, congrArg Prod.fst (roll_of_pick h hpick)⟩

/-- **A name that finds no custom table but means a built-in one leads to that one.** -/
theorem roll_of_named? {tables : TableSet} {name : String} {table : Builtin}
    (h : tables.custom.get? name = none) (hname : Builtin.named? name = some table) (s : σ) :
    tables.roll name s = (.ok (table.draw s).1, (table.draw s).2) := by
  simp only [roll, h, hname]

/-- A name that finds no custom table and means no built-in one is unknown and draws nothing. -/
theorem roll_of_named?_eq_none {tables : TableSet} {name : String}
    (h : tables.custom.get? name = none) (hname : Builtin.named? name = none) (s : σ) :
    tables.roll name s = (.error (.unknown name), s) := by
  simp only [roll, h, hname]

/-- **The source has no part in whether rolling fails.** Rolling on a name fails from every source,
in the same way and without drawing, or it yields an entry from every source. -/
theorem roll_fails_or_yields (tables : TableSet) (name : String) :
    (∃ e, ∀ s : σ, tables.roll name s = (.error e, s)) ∨
      ∀ s : σ, ∃ entry, (tables.roll name s).1 = .ok entry := by
  cases hget : tables.custom.get? name with
  | some entries =>
      by_cases hnil : entries = []
      · subst hnil
        exact .inl ⟨_, roll_of_get?_nil hget⟩
      · right
        intro s
        obtain ⟨entry, -, hroll⟩ := roll_of_get? hget hnil s
        exact ⟨entry, hroll⟩
  | none =>
      cases hname : Builtin.named? name with
      | some table => exact .inr fun s => ⟨_, congrArg Prod.fst (roll_of_named? hget hname s)⟩
      | none => exact .inl ⟨_, roll_of_named?_eq_none hget hname⟩

/-! ## The tables at hand -/

/-- The built-in tables alone, or under the tables of a text. -/
inductive Loaded : TableSet → Prop
  | builtin : Loaded builtin
  | withCustom {text : String} {custom : CustomTables} :
      CustomTables.ofText? text = some custom → Loaded (withCustom custom)

/-- Whatever was loaded, the custom tables have names in normal form. -/
theorem Loaded.normalNames {tables : TableSet} (h : tables.Loaded) : tables.custom.NormalNames := by
  cases h with
  | builtin => exact CustomTables.normalNames_none
  | withCustom h => exact CustomTables.normalNames_of_ofText? h

/-- The names of the custom tables. -/
def customNames (tables : TableSet) : List String := tables.custom.tables.entries.map Prod.fst

/-- The built-in tables whose name no custom table has. -/
def unhidden (tables : TableSet) : List Builtin :=
  Builtin.all.filter fun table => table.name ∉ tables.customNames

theorem get?_name_isNone_iff (tables : TableSet) (table : Builtin) :
    (tables.custom.get? table.name).isNone ↔ table.name ∉ tables.customNames := by
  rw [CustomTables.get?_isNone_iff, Builtin.normalName_name, customNames]

/-! ## The rows -/

/-- **The listing is the built-in tables that are not hidden, then the custom ones.** -/
theorem list_eq (tables : TableSet) :
    tables.list = tables.unhidden.map rowOfBuiltin ++
      tables.custom.tables.entries.map rowOfCustom := by
  have hunhidden : (Builtin.all.filter fun table => (tables.custom.get? table.name).isNone) =
      tables.unhidden := by
    refine List.filter_congr fun table _ => ?_
    rw [Bool.eq_iff_iff, get?_name_isNone_iff, decide_eq_true_iff]
  rw [list, hunhidden]

theorem map_name_list (tables : TableSet) :
    tables.list.map Row.name = tables.unhidden.map Builtin.name ++ tables.customNames := by
  rw [list_eq, List.map_append, List.map_map, List.map_map]
  rfl

/-- The names of the custom tables are in byte order. -/
theorem customNames_sorted (tables : TableSet) :
    tables.customNames.Pairwise fun a b => Text.bytes a < Text.bytes b :=
  tables.custom.tables.names_sorted

/-- **No two rows have the same name.** -/
theorem nodup_names (tables : TableSet) : (tables.list.map Row.name).Nodup := by
  rw [map_name_list, List.nodup_append]
  refine ⟨?_, ?_, ?_⟩
  · have hall : (Builtin.all.map Builtin.name).Nodup := by decide
    exact hall.sublist (List.filter_sublist.map Builtin.name)
  · exact tables.custom.tables.nodup_keys
  · -- A name on both sides would hide the built-in table that has it.
    intro name hname other hother
    rintro rfl
    obtain ⟨table, htable, rfl⟩ := List.mem_map.mp hname
    exact of_decide_eq_true (List.mem_filter.mp htable).2 hother

/-- What a row says of its table is what rolling on its name does, from every source. -/
def Row.Tells (tables : TableSet) (row : Row) : Prop :=
  ∀ (σ : Type) [Source σ] (s : σ),
    match row.origin with
    | .custom => ∃ entries, (row.name, entries) ∈ tables.custom.tables.entries ∧
        entries.length = row.combinations ∧
        if row.combinations = 0 then tables.roll row.name s = (.error (.empty row.name), s)
        else ∃ entry ∈ entries, (tables.roll row.name s).1 = .ok entry
    | .builtin => ∃ table, row = rowOfBuiltin table ∧
        tables.roll row.name s = (.ok (table.draw s).1, (table.draw s).2)

/-- A custom table is rolled on under the name that it is listed with. -/
theorem Loaded.rowOfCustom_tells {tables : TableSet} (h : tables.Loaded)
    {entry : String × List String} (hentry : entry ∈ tables.custom.tables.entries) :
    (rowOfCustom entry).Tells tables := by
  intro σ _ s
  have hget : tables.custom.get? entry.1 = some entry.2 := h.normalNames.get?_eq_some hentry
  refine ⟨entry.2, hentry, rfl, ?_⟩
  split
  · rename_i hzero
    rw [List.length_eq_zero_iff.mp hzero] at hget
    show tables.roll entry.1 s = (.error (.empty entry.1), s)
    rw [roll_of_get?_nil hget, h.normalNames entry hentry]
  · rename_i hpos
    exact roll_of_get? hget (fun hnil => hpos (List.length_eq_zero_iff.mpr hnil)) s

/-- A built-in table that is not hidden is rolled on under its name. -/
theorem rowOfBuiltin_tells {tables : TableSet} {table : Builtin} (h : table ∈ tables.unhidden) :
    (rowOfBuiltin table).Tells tables := by
  intro σ _ s
  have hget : tables.custom.get? table.name = none := by
    rw [← Option.isNone_iff_eq_none, get?_name_isNone_iff]
    exact of_decide_eq_true (List.mem_filter.mp h).2
  -- The name is its own normal form, and no alias of another table.
  have hname : Builtin.named? table.name = some table :=
    Builtin.named?_eq_some_iff.mpr (.inl (Builtin.normalName_name table))
  exact ⟨table, rfl, roll_of_named? hget hname s⟩

/-- **Every row tells the truth**, under a name in normal form. -/
theorem Loaded.row_tells {tables : TableSet} (h : tables.Loaded) {row : Row}
    (hrow : row ∈ tables.list) : normalName row.name = row.name ∧ row.Tells tables := by
  rw [list_eq] at hrow
  rcases List.mem_append.mp hrow with hbuiltin | hcustom
  · obtain ⟨table, htable, rfl⟩ := List.mem_map.mp hbuiltin
    exact ⟨Builtin.normalName_name table, rowOfBuiltin_tells htable⟩
  · obtain ⟨entry, hentry, rfl⟩ := List.mem_map.mp hcustom
    exact ⟨h.normalNames entry hentry, h.rowOfCustom_tells hentry⟩

/-- **The listing tells the truth about rolling.** For the built-in tables, alone or under those of
a text, the listing is the built-in tables whose name no custom table has, in the order of the
catalogue, and then the custom tables in the order of their names. The names are pairwise different
and in normal form, and rolling on the name of a row does what the row says. -/
theorem list_tells {tables : TableSet} (h : tables.Loaded) :
    tables.list =
        (Builtin.all.filter fun table => table.name ∉ tables.customNames).map rowOfBuiltin ++
          tables.custom.tables.entries.map rowOfCustom ∧
      (tables.customNames.Pairwise fun a b => Text.bytes a < Text.bytes b) ∧
      (tables.list.map Row.name).Nodup ∧
      ∀ row ∈ tables.list, normalName row.name = row.name ∧ row.Tells tables := by
  refine ⟨tables.list_eq, tables.customNames_sorted, tables.nodup_names, ?_⟩
  intro row hrow
  exact h.row_tells hrow

/-- A custom table that hides a built-in one, one that takes the alias of another, and one without
entries. -/
theorem list_tells_hidden :
    let custom : CustomTables := ⟨Dictionary.ofList
      [("8ball", ["Yes", "No"]), ("card", ["Joker"]), ("void", [])]⟩
    let tables := withCustom custom
    tables.Loaded ∧ tables.list.length = 14 ∧
      ⟨"void", "", 0, .custom⟩ ∈ tables.list ∧
      tables.roll "void" (Script.ofWord 0) = (.error (.empty "void"), Script.ofWord 0) ∧
      ⟨"8ball", "", 2, .custom⟩ ∈ tables.list ∧
      ∃ entry ∈ ["Yes", "No"], (tables.roll "8ball" (Script.ofWord 0)).1 = .ok entry := by
  intro custom tables
  have htext : CustomTables.ofText?
      "\x7b\"tables\":\x7b\"Card\":[\"Joker\"],\"void\":[],\"8BALL\":[\"Yes\",\"No\"]\x7d\x7d" =
        some custom := by
    decide +kernel
  have hloaded : tables.Loaded := .withCustom htext
  obtain ⟨-, -, -, htells⟩ := list_tells hloaded
  have hvoid : ⟨"void", "", 0, .custom⟩ ∈ tables.list := by decide +kernel
  have hball : ⟨"8ball", "", 2, .custom⟩ ∈ tables.list := by decide +kernel
  refine ⟨hloaded, by decide +kernel, hvoid, ?_, hball, ?_⟩
  · obtain ⟨entries, -, -, hroll⟩ := (htells _ hvoid).2 Script (Script.ofWord 0)
    exact hroll
  · obtain ⟨entries, hentries, -, hroll⟩ := (htells _ hball).2 Script (Script.ofWord 0)
    have hget : custom.tables.get? "8ball" = some ["Yes", "No"] := by decide +kernel
    obtain rfl := Option.some.inj (hget.symm.trans (Dictionary.get?_eq_some_iff.mpr hentries))
    exact hroll

end Tabletop.TableSet
