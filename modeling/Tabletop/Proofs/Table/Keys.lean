import Tabletop.Proofs.Json.Serialized
import Tabletop.Proofs.Table.Gathering
import Tabletop.Proofs.Table.Name

/-!
# Tabletop.Proofs.Table.Keys — custom tables under names in normal form

When a table file is read, every name is brought to normal form, so the names of the tables are
their own normal forms. For such tables a name is found where it stands, no name is found twice, and
bringing the names to normal form once more changes nothing. These are also the names that the tables
are saved under: when the saved text is read, nothing is renamed and nothing is joined.
-/

namespace Tabletop.CustomTables

open Table (normalName normalName_normalName)

/-- Every table has a name in normal form. -/
def NormalNames (custom : CustomTables) : Prop :=
  ∀ entry ∈ custom.tables.entries, normalName entry.1 = entry.1

theorem normalNames_none : none.NormalNames := by
  intro entry hentry
  exact absurd hentry List.not_mem_nil

theorem exists_of_gathered_eq_some {entries : List (String × List String)} {normal : String}
    {list : List String} (h : gathered entries normal = .some list) :
    ∃ entry ∈ entries, normalName entry.1 = normal := by
  unfold gathered at h
  split at h
  · exact absurd h (by simp)
  · rename_i entry more hfilter
    have hmem : entry ∈ entries.filter fun entry => normalName entry.1 = normal := by
      rw [hfilter]
      exact List.mem_cons_self
    obtain ⟨hentry, hname⟩ := List.mem_filter.mp hmem
    exact ⟨entry, hentry, of_decide_eq_true hname⟩

/-- **Tables are read under names in normal form.** -/
theorem normalNames_normalized (custom : CustomTables) : custom.normalized.NormalNames := by
  intro entry hentry
  have hget : custom.normalized.tables.get? entry.1 = .some entry.2 :=
    Dictionary.get?_eq_some_iff.mpr hentry
  rw [normalized, get?_foldl_absorb] at hget
  obtain ⟨spelling, -, hname⟩ := exists_of_gathered_eq_some hget
  rw [← hname, normalName_normalName]

theorem normalNames_of_ofText? {text : String} {custom : CustomTables}
    (h : ofText? text = .some custom) : custom.NormalNames := by
  obtain ⟨raw, -, rfl⟩ := Option.map_eq_some_iff.mp h
  exact normalNames_normalized raw

/-- **A table is found under its own name.** -/
theorem NormalNames.get?_eq_some {custom : CustomTables} (h : custom.NormalNames) {name : String}
    {list : List String} (hmem : (name, list) ∈ custom.tables.entries) :
    custom.get? name = .some list := by
  rw [get?, h (name, list) hmem]
  exact Dictionary.get?_eq_some_iff.mpr hmem

/-- A name finds a table if its normal form is the name of one. -/
theorem get?_isNone_iff (custom : CustomTables) (name : String) :
    (custom.get? name).isNone ↔ normalName name ∉ custom.tables.entries.map Prod.fst := by
  rw [Option.isNone_iff_eq_none, get?, Option.eq_none_iff_forall_ne_some]
  constructor
  · intro hnone hmem
    obtain ⟨entry, hentry, hname⟩ := List.mem_map.mp hmem
    exact hnone entry.2 (hname ▸ Dictionary.get?_eq_some_iff.mpr hentry)
  · intro hname list hlist
    exact hname (List.mem_map.mpr ⟨_, Dictionary.get?_eq_some_iff.mp hlist, rfl⟩)

/-- Names in normal form agree only if they are equal, so each list is gathered by itself. -/
theorem NormalNames.gathered_eq {custom : CustomTables} (h : custom.NormalNames) (name : String) :
    gathered custom.tables.entries name = custom.tables.get? name := by
  have hfilter : (custom.tables.entries.filter fun entry => normalName entry.1 = name) =
      custom.tables.entries.filter fun entry => entry.1 == name := by
    refine List.filter_congr fun entry hentry => ?_
    rw [h entry hentry]
    rfl
  rw [gathered, hfilter, Dictionary.filter_entries]
  cases custom.tables.get? name with
  | none => rfl
  | some list => simp

/-- **Tables under names in normal form stay as they are** when the names are normalized. -/
theorem NormalNames.normalized_eq {custom : CustomTables} (h : custom.NormalNames) :
    custom.normalized = custom := by
  obtain ⟨tables⟩ := custom
  have htables : tables.entries.foldl absorb Dictionary.empty = tables := by
    refine Dictionary.ext_get? fun name => ?_
    rw [get?_foldl_absorb]
    exact h.gathered_eq name
  rw [normalized, htables]

/-! ## Saved tables -/

/-- **Saved tables are read as they were.** The text of tables that were read from a text holds the
same tables: the same names in the same order, each with the same entries in the same order. -/
theorem ofText?_render {text : String} {custom : CustomTables} (h : ofText? text = some custom) :
    ofText? (Serial.render custom) = some custom := by
  rw [ofText?, Serial.parse?_render, Option.map_some, (normalNames_of_ofText? h).normalized_eq]

/-- Two spellings with a sigma at the end, joined and saved under the name with the final sigma. -/
theorem ofText?_render_joined :
    let joined : CustomTables := ⟨Dictionary.ofList [("σας", ["a\"b", "c\\\n"])]⟩
    ofText? "\x7b\"tables\":\x7b\"ΣΑΣ \":[\"c\\\\\\n\"],\" σας\":[\"a\\u0022b\"]\x7d\x7d" =
        some joined ∧
      ofText? (Serial.render joined) = some joined := by
  intro joined
  have htext : ofText?
      "\x7b\"tables\":\x7b\"ΣΑΣ \":[\"c\\\\\\n\"],\" σας\":[\"a\\u0022b\"]\x7d\x7d" =
        some joined := by
    decide +kernel
  exact ⟨htext, ofText?_render htext⟩

end Tabletop.CustomTables
