import Tabletop.Json.Writer
import Tabletop.Proofs.Json.Grammar

/-!
# Tabletop.Proofs.Json.RoundTrip — what was written is read back

A value can be written as it is when its strings and keys have texts and its numbers are well
formed; all other values only come from reading. Its compact text is then put together from strings,
numbers, words and punctuation, so it has the tokens of the value, and these are read as the value.

Written strings and numbers are spelled as the grammar has them, in one way out of many: a character
has an escape where it needs one, and a number is a whole one without leading zeros.
-/

namespace Tabletop.Json

/-! ## Strings -/

theorem hexDigit?_digitChar : ∀ n < 16, hexDigit? (Nat.digitChar n) = some n := by decide

/-- **A character that is written inside a string spells itself.** -/
theorem spellsPiece_escapeChar (c : Char) : SpellsPiece (escapeChar c) (.char c) := by
  by_cases hnamed : c ∈ ['"', '\\', '\x08', '\t', '\n', '\x0c', '\r']
  · -- These have an escape of one letter.
    simp only [List.mem_cons, List.not_mem_nil, or_false] at hnamed
    rcases hnamed with rfl | rfl | rfl | rfl | rfl | rfl | rfl <;> exact .letter rfl
  · simp only [List.mem_cons, List.not_mem_nil, or_false, not_or] at hnamed
    simp only [escapeChar, hnamed, if_false]
    split
    · rename_i hcontrol
      have hhigh := hexDigit?_digitChar (c.toNat / 16) (by omega)
      have hlow := hexDigit?_digitChar (c.toNat % 16) (by omega)
      have hunit : Piece.ofUnit (((0 * 16 + 0) * 16 + c.toNat / 16) * 16 + c.toNat % 16) =
          .char c := by
        rw [Nat.zero_mul, Nat.zero_add, Nat.div_add_mod', Piece.ofUnit,
          if_neg (by omega), if_neg (by omega), Char.ofNat_toNat]
      rw [← hunit]
      exact .unit rfl rfl hhigh hlow
    · rename_i hcontrol
      exact .plain hnamed.1 hnamed.2.1 (Nat.not_lt.mp hcontrol)

theorem spellsPieces_flatMap_escapeChar (cs : List Char) :
    SpellsPieces (cs.flatMap escapeChar) (cs.map Piece.char) := by
  induction cs with
  | nil => exact .nil
  | cons c cs ih =>
      rw [List.flatMap_cons]
      exact .cons (spellsPiece_escapeChar c) ih

theorem text?_map_char (cs : List Char) : Piece.text? (cs.map Piece.char) = some cs := by
  induction cs with
  | nil => rfl
  | cons c cs ih => rw [List.map_cons, Piece.text?, ih, Option.map_some]

/-- **A text between its quotes spells the text.** -/
theorem spells_writeString (text : String) :
    Spells (writeString (some text)) (string (some text)) := by
  have hspells := Spells.string (spellsPieces_flatMap_escapeChar text.toList)
  rwa [text?_map_char, Option.map_some, String.ofList_toList] at hspells

theorem lexes_writeString (text : String) :
    Lexes (writeString (some text)) [.scalar (string (some text))] :=
  (spells_writeString text).lexes

/-! ## Values -/

/-- The values that a compact text can tell: each string and key has a text, and each number is well
formed. -/
inductive Writable : Json → Prop
  | null : Writable null
  | bool (value : Bool) : Writable (bool value)
  | number {literal : List Char} : IsNumber literal → Writable (number literal)
  | string (text : String) : Writable (string (some text))
  | array {items : List Json} : (∀ item ∈ items, Writable item) → Writable (array items)
  | object {entries : List (Option String × Json)} :
      (∀ entry ∈ entries, ∃ key, entry.1 = some key) →
      (∀ entry ∈ entries, Writable entry.2) → Writable (object entries)

/-- Items are read one after another, with the commas between them. -/
theorem lexes_compactItems {items : List Json}
    (h : ∀ item ∈ items, Lexes (compact item) (tokens item)) :
    Lexes (compactItems items) (itemTokens items) := by
  induction items with
  | nil => exact lexes_nil
  | cons item rest ih =>
      obtain ⟨hitem, hrest⟩ := List.forall_mem_cons.mp h
      cases rest with
      | nil => exact hitem
      | cons more rest => exact hitem.join rfl (ih hrest)

/-- A key and a value are read with the colon between them. -/
theorem lexes_entry {key : Option String} {value : Json} (hkey : ∃ text, key = some text)
    (hvalue : Lexes (compact value) (tokens value)) :
    Lexes (writeString key ++ ':' :: compact value)
      (.scalar (.string key) :: .colon :: tokens value) := by
  obtain ⟨text, rfl⟩ := hkey
  exact (lexes_writeString text).join rfl hvalue

theorem lexes_compactEntries {entries : List (Option String × Json)}
    (hkeys : ∀ entry ∈ entries, ∃ key, entry.1 = some key)
    (hvalues : ∀ entry ∈ entries, Lexes (compact entry.2) (tokens entry.2)) :
    Lexes (compactEntries entries) (entryTokens entries) := by
  induction entries with
  | nil => exact lexes_nil
  | cons entry rest ih =>
      obtain ⟨hkey, hrestKeys⟩ := List.forall_mem_cons.mp hkeys
      obtain ⟨hvalue, hrestValues⟩ := List.forall_mem_cons.mp hvalues
      have hentry := lexes_entry hkey hvalue
      cases rest with
      | nil => exact hentry
      | cons more rest => exact hentry.join rfl (ih hrestKeys hrestValues)

/-- **A compact text has the tokens of its value.** The induction is over the value. -/
theorem Writable.lexes {value : Json} (h : value.Writable) :
    Lexes (compact value) (tokens value) := by
  induction h with
  | null => exact lexes_null
  | bool value => exact lexes_writeBool value
  | number h => exact lexes_number h
  | string text => exact lexes_writeString text
  | array _ ih => exact lexes_nil.join rfl ((lexes_compactItems ih).join rfl lexes_nil)
  | object hkeys _ ih =>
      exact lexes_nil.join rfl ((lexes_compactEntries hkeys ih).join rfl lexes_nil)

/-- **A value is read back from its compact text.** -/
theorem Writable.parse?_render {value : Json} (h : value.Writable) :
    parse? value.render = some value := by
  rw [parse?, render, String.toList_ofList, h.lexes.tokens?_eq, Option.bind_some, ofTokens?_tokens]

/-! ## Writable values -/

/-- Only zero starts with a zero, after which no digit may come. -/
theorem spellsWhole_digits (n : Nat) : SpellsWhole (Numeral.digits n) := by
  by_cases hn : n = 0
  · subst hn
    exact .zero
  · obtain ⟨c, rest, hdigits, hc, hrest⟩ := Numeral.exists_digits_eq_cons n
    have hzero : c ≠ '0' := fun h => Numeral.head?_digits_ne_zero hn (by rw [hdigits, h]; rfl)
    rw [hdigits]
    exact .digits hc hzero hrest

/-- **A whole number is spelled by its numeral**, with a minus sign where it has one. -/
theorem spellsNumber_signed (n : Int) : SpellsNumber (Numeral.signed n) := by
  have hwhole := spellsWhole_digits n.natAbs
  unfold Numeral.signed
  split
  · rw [← List.append_nil (Numeral.digits n.natAbs)]
    exact .minus hwhole .missing .missing
  · rw [← List.append_nil (Numeral.digits n.natAbs)]
    exact .plain hwhole .missing .missing

theorem writable_ofInt (n : Int) : (ofInt n).Writable := .number (spellsNumber_signed n).isNumber

theorem writable_ofNat (n : Nat) : (ofNat n).Writable := writable_ofInt n

theorem writable_ofText (text : String) : (ofText text).Writable := .string text

/-- An object of writable values is writable. -/
theorem writable_ofEntries {entries : List (String × Json)}
    (h : ∀ entry ∈ entries, entry.2.Writable) : (ofEntries entries).Writable := by
  refine .object ?_ ?_
  · intro entry hentry
    obtain ⟨given, -, rfl⟩ := List.mem_map.mp hentry
    exact ⟨given.1, rfl⟩
  · intro entry hentry
    obtain ⟨given, hgiven, rfl⟩ := List.mem_map.mp hentry
    exact h given hgiven

end Tabletop.Json
