import Tabletop.Proofs.Dictionary
import Tabletop.Proofs.Text.Lowercase
import Tabletop.Table.Catalogue

/-!
# Tabletop.Proofs.Table.Name — names in normal form

A name in normal form is trimmed, is lower case throughout and has neither a space nor an underscore.
Trimming, lowering and putting dashes lead to such a name, because each step keeps what the steps
before it have brought about; and each of the three leaves such a name as it is. So the normal form
of a name is its own normal form, and the names in normal form are those that stay as they are.

The built-in tables have names and aliases in normal form, all different. So a name means a built-in
table exactly when its normal form is the name of the table or one of its aliases.
-/

namespace Tabletop.Table

open Text (Lowered Trimmed)

/-! ## The normal form -/

theorem dashed_cases (c : Char) : dashed c = '-' ∨ dashed c = c := by
  unfold dashed
  split
  · exact .inl rfl
  · exact .inr rfl

/-- A dash is put where a space or an underscore was, and nowhere else. -/
theorem dashed_eq_self_iff {c : Char} : dashed c = c ↔ c ≠ ' ' ∧ c ≠ '_' := by
  constructor
  · intro hself
    constructor
    · rintro rfl
      exact absurd hself (by decide)
    · rintro rfl
      exact absurd hself (by decide)
  · rintro ⟨hspace, hunderscore⟩
    exact if_neg (by simp [hspace, hunderscore])

theorem dashed_dashed (c : Char) : dashed (dashed c) = dashed c := by
  rcases dashed_cases c with hdash | hself
  · rw [hdash]
    rfl
  · rw [hself, hself]

theorem lowered_dashed {c : Char} (h : Lowered c) : Lowered (dashed c) := by
  rcases dashed_cases c with hdash | hself
  · rw [hdash]
    decide
  · rwa [hself]

theorem isBlank_dashed {c : Char} (h : Text.isBlank c = false) :
    Text.isBlank (dashed c) = false := by
  rcases dashed_cases c with hdash | hself
  · rw [hdash]
    decide
  · rwa [hself]

theorem Trimmed.map_dashed {cs : List Char} (h : Trimmed cs) : Trimmed (cs.map dashed) where
  first c hc := by
    rw [List.head?_map] at hc
    obtain ⟨d, hd, rfl⟩ := Option.map_eq_some_iff.mp hc
    exact isBlank_dashed (h.first d hd)
  last c hc := by
    rw [List.getLast?_map] at hc
    obtain ⟨d, hd, rfl⟩ := Option.map_eq_some_iff.mp hc
    exact isBlank_dashed (h.last d hd)

/-- **What a normal form is**, said without the steps that lead to it. -/
structure NormalForm (cs : List Char) : Prop where
  /-- No blank stands at either end. -/
  trimmed : Trimmed cs
  /-- Every character is its own lower case. -/
  lowered : ∀ c ∈ cs, Lowered c
  /-- There is no space. -/
  space_notMem : ' ' ∉ cs
  /-- There is no underscore. -/
  underscore_notMem : '_' ∉ cs

/-- **The three steps lead to a normal form**: each of the later ones keeps what the earlier ones
have brought about. -/
theorem normalForm_normalChars (cs : List Char) : NormalForm (normalChars cs) := by
  have hdashed : ∀ c ∈ normalChars cs, c ≠ ' ' ∧ c ≠ '_' := by
    intro c hc
    obtain ⟨d, -, rfl⟩ := List.mem_map.mp hc
    exact dashed_eq_self_iff.mp (dashed_dashed d)
  refine ⟨?_, ?_, fun h => (hdashed _ h).1 rfl, fun h => (hdashed _ h).2 rfl⟩
  · exact Trimmed.map_dashed ((Text.trimmed_trimChars cs).lowerChars [])
  · intro c hc
    obtain ⟨d, hd, rfl⟩ := List.mem_map.mp hc
    exact lowered_dashed (Text.lowered_of_mem_lowerChars hd)

/-- **A normal form stays as it is**, since none of the three steps finds anything to change. -/
theorem NormalForm.normalChars_eq {cs : List Char} (h : NormalForm cs) : normalChars cs = cs := by
  have hdashed : ∀ c ∈ cs, dashed c = c := by
    intro c hc
    refine dashed_eq_self_iff.mpr ⟨?_, ?_⟩
    · rintro rfl
      exact h.space_notMem hc
    · rintro rfl
      exact h.underscore_notMem hc
  rw [normalChars, h.trimmed.trimChars_eq, Text.lowerChars_eq_self h.lowered,
    List.map_congr_left hdashed, List.map_id']

/-- **The normal form of a name is in normal form.** -/
@[simp] theorem normalName_normalName (name : String) :
    normalName (normalName name) = normalName name := by
  rw [normalName, toList_normalName, (normalForm_normalChars name.toList).normalChars_eq,
    normalName]

/-- A name is its own normal form exactly if it is in normal form. -/
theorem normalName_eq_self_iff {name : String} :
    normalName name = name ↔ NormalForm name.toList := by
  constructor
  · intro h
    rw [← h, toList_normalName]
    exact normalForm_normalChars name.toList
  · intro h
    rw [normalName, h.normalChars_eq, String.ofList_toList]

/-- **Bringing a name to normal form is done once and for all.** Doing it again changes nothing; the
normal form has no space, no underscore and no blank at its ends; and the names that stay as they
are are those that are in normal form already. -/
theorem normalName_settled (name : String) :
    normalName (normalName name) = normalName name ∧
      (' ' ∉ (normalName name).toList ∧ '_' ∉ (normalName name).toList ∧
        Trimmed (normalName name).toList) ∧
      (normalName name = name ↔ NormalForm name.toList) := by
  have hform : NormalForm (normalName name).toList := by
    rw [toList_normalName]
    exact normalForm_normalChars name.toList
  refine ⟨normalName_normalName name, ⟨?_, ?_, ?_⟩, normalName_eq_self_iff⟩
  · exact hform.space_notMem
  · exact hform.underscore_notMem
  · exact hform.trimmed

end Tabletop.Table

namespace Tabletop.Builtin

open Table (normalName)

/-! ## The names of the built-in tables -/

theorem normalName_name (table : Builtin) : normalName table.name = table.name := by
  cases table <;> decide +kernel

/-- No alias is the name of a table. -/
theorem lookup_aliases_name (table : Builtin) : aliases.lookup table.name = none := by
  cases table <;> decide

/-- No alias stands for two tables. -/
theorem lookup_aliases_of_mem : ∀ entry ∈ aliases, aliases.lookup entry.1 = some entry.2 := by
  decide

theorem find?_name (table : Builtin) :
    (all.find? fun other => other.name == table.name) = some table := by
  cases table <;> decide

/-- **A name means a built-in table** exactly if its normal form is the name of the table or one of
its aliases. -/
theorem named?_eq_some_iff {name : String} {table : Builtin} :
    named? name = some table ↔
      normalName name = table.name ∨ (normalName name, table) ∈ aliases := by
  unfold named?
  constructor
  · intro h
    cases halias : aliases.lookup (normalName name) with
    | some other =>
        simp only [halias, Option.some.injEq] at h
        exact .inr (h ▸ Dictionary.mem_of_lookup halias)
    | none =>
        simp only [halias] at h
        have hfound := List.find?_some h
        exact .inl (beq_iff_eq.mp hfound).symm
  · rintro (hname | halias)
    · simp only [hname, lookup_aliases_name, find?_name]
    · simp only [lookup_aliases_of_mem _ halias]

end Tabletop.Builtin
