import Tabletop.Proofs.Table.Listing
import Tabletop.Table.File

/-!
# Tabletop.Proofs.Table.Provenance — where custom tables come from decides how they are found

A name is looked up in its normal form, so a table is found under the name that it is listed with
only if that name is in normal form. No tables at all, the tables of a text and those of a file have
such names. A JSON value that is merely decoded as tables has its names as written: they are in
normal form exactly if reading the text as tables would have changed nothing. A table under any
other name is listed, but what its name leads to is another table or none.
-/

namespace Tabletop.CustomTables

open Table (normalName)

/-- **The ways to come by custom tables**: none at all, the tables of a text, those of a file, and
those that a text is decoded as. -/
inductive Entrance where
  | absent
  | written (text : String)
  | file (path : String) (contents : FileContents)
  | decoded (text : String)

/-- The tables that come in, if any do. -/
def Entrance.tables? : Entrance → Option CustomTables
  | .absent => some none
  | .written text => ofText? text
  | .file path contents => (read path contents).toOption
  | .decoded text => Serial.parse? text

/-- **The tables of a file are those of its text.** -/
theorem read_eq_ok_iff {path : String} {contents : FileContents} {custom : CustomTables} :
    read path contents = .ok custom ↔
      ∃ text, contents.text = .ok text ∧ ofText? text = some custom := by
  unfold read readRaw
  cases contents.text with
  | error fault => simp [Except.map]
  | ok text =>
      cases hparse : (Serial.parse? text : Option CustomTables) with
      | none => simp [ofText?, hparse, Except.map]
      | some raw => simp [ofText?, hparse, Except.map]

/-- Tables that were not merely decoded are the tables of some text, or none. -/
theorem Entrance.loaded {entrance : Entrance} {custom : CustomTables}
    (h : entrance.tables? = some custom)
    (htext : ∀ text, entrance = .decoded text → ofText? text = some custom) :
    (TableSet.withCustom custom).Loaded := by
  cases entrance with
  | absent =>
      obtain rfl := Option.some.inj h
      exact .builtin
  | written text => exact .withCustom h
  | file path contents =>
      cases hread : read path contents with
      | error e =>
          rw [Entrance.tables?, hread] at h
          exact absurd h (Option.some_ne_none custom).symm
      | ok found =>
          rw [Entrance.tables?, hread] at h
          obtain rfl := Option.some.inj h
          obtain ⟨text, -, hfound⟩ := read_eq_ok_iff.mp hread
          exact .withCustom hfound
  | decoded text => exact .withCustom (htext text rfl)

/-- Names are in normal form exactly if normalizing them changes nothing. -/
theorem normalNames_iff_normalized_eq (custom : CustomTables) :
    custom.NormalNames ↔ custom.normalized = custom := by
  constructor
  · exact NormalNames.normalized_eq
  · intro h
    rw [← h]
    exact normalNames_normalized custom

/-- **Decoded tables have names in normal form exactly if they are the tables of their text.** -/
theorem normalNames_iff_of_parse? {text : String} {raw : CustomTables}
    (h : Serial.parse? text = some raw) : raw.NormalNames ↔ ofText? text = some raw := by
  rw [normalNames_iff_normalized_eq, ofText?, h, Option.map_some, Option.some_inj]

end Tabletop.CustomTables

namespace Tabletop.TableSet

open Table (normalName)

variable {σ : Type} [Source σ]

/-- **Every custom table is found as it is listed**: its name is in normal form, looking the name up
finds its entries, and rolling on a name of the listing does what its row says. -/
structure FoundAsListed (tables : TableSet) : Prop where
  normalNames : tables.custom.NormalNames
  get? : ∀ entry ∈ tables.custom.tables.entries, tables.custom.get? entry.1 = some entry.2
  tells : ∀ row ∈ tables.list, row.Tells tables

theorem Loaded.foundAsListed {tables : TableSet} (h : tables.Loaded) : tables.FoundAsListed where
  normalNames := h.normalNames
  get? _ hentry := h.normalNames.get?_eq_some hentry
  tells _ hrow := (h.row_tells hrow).2

/-- A name whose normal form is no key and means no built-in table is unknown. -/
theorem roll_of_unknown {tables : TableSet} {name : String}
    (hcustom : normalName name ∉ tables.customNames) (hname : Builtin.named? name = none) (s : σ) :
    tables.roll name s = (.error (.unknown name), s) := by
  have hget : tables.custom.get? name = none := by
    rw [← Option.isNone_iff_eq_none, CustomTables.get?_isNone_iff]
    exact hcustom
  exact roll_of_named?_eq_none hget hname s

theorem rowOfCustom_mem_list {tables : TableSet} {entry : String × List String}
    (h : entry ∈ tables.custom.tables.entries) : rowOfCustom entry ∈ tables.list := by
  rw [list_eq]
  exact List.mem_append_right _ (List.mem_map_of_mem h)

/-- **Custom tables are found as they are listed, if their text is not merely decoded.** Whatever
way tables come by, each of them is found under its name with its entries and rolling does what
every row of the listing says, exactly if the text of tables that were decoded has the same tables
when it is read. However they came, every table is listed under its name as written, and rolling on
that name fails if its normal form is the name of no table and it means no built-in one. -/
theorem found_as_listed_iff {entrance : CustomTables.Entrance} {custom : CustomTables}
    (h : entrance.tables? = some custom) :
    ((withCustom custom).FoundAsListed ↔
        ∀ text, entrance = .decoded text → CustomTables.ofText? text = some custom) ∧
      ∀ entry ∈ custom.tables.entries, rowOfCustom entry ∈ (withCustom custom).list ∧
        (normalName entry.1 ∉ (withCustom custom).customNames → Builtin.named? entry.1 = none →
          ∀ (σ : Type) [Source σ] (s : σ),
            (withCustom custom).roll entry.1 s = (.error (.unknown entry.1), s)) := by
  refine ⟨⟨?_, ?_⟩, ?_⟩
  · rintro hfound text rfl
    exact (CustomTables.normalNames_iff_of_parse? h).mp hfound.normalNames
  · intro htext
    exact (CustomTables.Entrance.loaded h htext).foundAsListed
  · intro entry hentry
    refine ⟨rowOfCustom_mem_list hentry, ?_⟩
    intro hcustom hname σ _ s
    exact roll_of_unknown hcustom hname s

/-! ## A capital letter -/

/-- A JSON text of one table, whose name is not in normal form. -/
def capitalText : String := "\x7b\"tables\":\x7b\"Weather\":[\"Rain\"]\x7d\x7d"

/-- The table as it is decoded. -/
def decodedWeather : CustomTables := ⟨Dictionary.ofList [("Weather", ["Rain"])]⟩

/-- The table as it is read. -/
def readWeather : CustomTables := ⟨Dictionary.ofList [("weather", ["Rain"])]⟩

theorem parse?_capitalText : Serial.parse? capitalText = some decodedWeather := by decide +kernel

theorem ofText?_capitalText : CustomTables.ofText? capitalText = some readWeather := by
  decide +kernel

theorem capital_mem_decodedWeather : ("Weather", ["Rain"]) ∈ decodedWeather.tables.entries := by
  decide +kernel

/-- The table is found as it is listed when the text is read, and not when it is decoded. -/
theorem found_as_listed_iff_capital :
    (CustomTables.Entrance.written capitalText).tables? = some readWeather ∧
      (withCustom readWeather).FoundAsListed ∧
      (CustomTables.Entrance.decoded capitalText).tables? = some decodedWeather ∧
      ¬ (withCustom decodedWeather).FoundAsListed ∧
      (withCustom decodedWeather).roll "Weather" (Script.ofWord 0) =
        (.error (.unknown "Weather"), Script.ofWord 0) := by
  have hread : (CustomTables.Entrance.written capitalText).tables? = some readWeather :=
    ofText?_capitalText
  have hdecoded : (CustomTables.Entrance.decoded capitalText).tables? = some decodedWeather :=
    parse?_capitalText
  obtain ⟨hreadFound, -⟩ := found_as_listed_iff hread
  obtain ⟨hdecodedFound, hunknown⟩ := found_as_listed_iff hdecoded
  refine ⟨hread, hreadFound.mpr nofun, hdecoded, ?_, ?_⟩
  · intro hfound
    have hsame := hdecodedFound.mp hfound _ rfl
    rw [ofText?_capitalText] at hsame
    exact absurd hsame (by decide +kernel)
  · exact (hunknown _ capital_mem_decodedWeather).2 (by decide +kernel) (by decide +kernel) _ _

/-- **A decoded table may be listed and not found.** Its key is not in normal form, nothing is found
under it, and rolling on the name that it is listed with fails. -/
theorem decodedWeather_not_found :
    Serial.parse? capitalText = some decodedWeather ∧
      ("Weather", ["Rain"]) ∈ decodedWeather.tables.entries ∧
      normalName "Weather" ≠ "Weather" ∧ decodedWeather.get? "Weather" = none ∧
      rowOfCustom ("Weather", ["Rain"]) ∈ (withCustom decodedWeather).list ∧
      (withCustom decodedWeather).roll "Weather" (Script.ofWord 0) =
        (.error (.unknown "Weather"), Script.ofWord 0) := by
  have hcustom : normalName "Weather" ∉ (withCustom decodedWeather).customNames := by
    decide +kernel
  have hname : Builtin.named? "Weather" = none := by decide +kernel
  exact ⟨parse?_capitalText, capital_mem_decodedWeather, by decide +kernel, by decide +kernel,
    rowOfCustom_mem_list capital_mem_decodedWeather, roll_of_unknown hcustom hname _⟩

end Tabletop.TableSet
