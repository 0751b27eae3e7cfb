import Tabletop.Proofs.Json.Record

/-!
# Tabletop.Proofs.Json.Indented — indented texts are read back too

The indented text of a value has the same strings, numbers, words and punctuation as the compact
one, with new lines and blanks between them, which leave no tokens. So both texts have the tokens of
the value, and both are read as the value.
-/

namespace Tabletop

namespace Json

/-! ## Indented texts -/

theorem isBlank_newLine (blanks : Nat) : ∀ c ∈ newLine blanks, isBlank c = true := by
  intro c hc
  rcases List.mem_cons.mp hc with rfl | hspace
  · rfl
  · rw [List.eq_of_mem_replicate hspace]
    rfl

/-- A new line in front changes nothing. -/
theorem Lexes.after_newLine {cs : List Char} {tokens : List Token} (hcs : Lexes cs tokens)
    (blanks : Nat) : Lexes (newLine blanks ++ cs) tokens :=
  hcs.after_blanks (isBlank_newLine blanks)

/-- Items are read one after another, with the commas between them. -/
theorem lexes_indentedItems {items : List Json}
    (h : ∀ item ∈ items, ∀ blanks, Lexes (indented blanks item) (tokens item)) (blanks : Nat) :
    Lexes (indentedItems blanks items) (itemTokens items) := by
  induction items with
  | nil => exact lexes_nil
  | cons item rest ih =>
      obtain ⟨hitem, hrest⟩ := List.forall_mem_cons.mp h
      have hfirst := (hitem blanks).after_newLine blanks
      cases rest with
      | nil => exact hfirst
      | cons more rest => exact hfirst.join rfl (ih hrest)

/-- A key and a value are read with the colon and a blank between them. -/
theorem lexes_indentedEntry {key : Option String} {value : Json} (hkey : ∃ text, key = some text)
    {blanks : Nat} (hvalue : Lexes (indented blanks value) (tokens value)) :
    Lexes (newLine blanks ++ writeString key ++ ':' :: ' ' :: indented blanks value)
      (.scalar (.string key) :: .colon :: tokens value) := by
  obtain ⟨text, rfl⟩ := hkey
  have hblank : Lexes ([' '] ++ indented blanks value) (tokens value) :=
    hvalue.after_blanks fun b hb => by rw [List.mem_singleton.mp hb]; rfl
  exact ((lexes_writeString text).after_newLine blanks).join rfl hblank

theorem lexes_indentedEntries {entries : List (Option String × Json)}
    (hkeys : ∀ entry ∈ entries, ∃ key, entry.1 = some key)
    (hvalues : ∀ entry ∈ entries, ∀ blanks, Lexes (indented blanks entry.2) (tokens entry.2))
    (blanks : Nat) : Lexes (indentedEntries blanks entries) (entryTokens entries) := by
  induction entries with
  | nil => exact lexes_nil
  | cons entry rest ih =>
      obtain ⟨hkey, hrestKeys⟩ := List.forall_mem_cons.mp hkeys
      obtain ⟨hvalue, hrestValues⟩ := List.forall_mem_cons.mp hvalues
      have hentry := lexes_indentedEntry hkey (hvalue blanks)
      cases rest with
      | nil => exact hentry
      | cons more rest => exact hentry.join rfl (ih hrestKeys hrestValues)

/-- Contents between brackets are read with the brackets, whatever blanks stand before the closing
one. -/
theorem Lexes.enclosed {cs : List Char} {tokens : List Token} (hcs : Lexes cs tokens)
    {opening closing : Char} {first last : Token} (hfirst : punctuation? opening = some first)
    (hlast : punctuation? closing = some last) (blanks : Nat) :
    Lexes (opening :: cs ++ newLine blanks ++ [closing]) (first :: tokens ++ [last]) := by
  have hinside := hcs.before_blanks (isBlank_newLine blanks)
  have hopened := lexes_nil.join hfirst hinside
  rw [List.nil_append, List.nil_append] at hopened
  exact hopened.join hlast lexes_nil

/-- **An indented text has the tokens of its value**, however far in it stands. The induction is
over the value. -/
theorem Writable.lexes_indented {value : Json} (h : value.Writable) (blanks : Nat) :
    Lexes (indented blanks value) (tokens value) := by
  induction h generalizing blanks with
  | null => exact lexes_null
  | bool value => exact lexes_writeBool value
  | number h => exact lexes_number h
  | string text => exact lexes_writeString text
  | @array items _ ih =>
      cases items with
      | nil => exact lexes_nil.join rfl (lexes_nil.join rfl lexes_nil)
      | cons item rest => exact (lexes_indentedItems ih (blanks + 2)).enclosed rfl rfl blanks
  | @object entries hkeys _ ih =>
      cases entries with
      | nil => exact lexes_nil.join rfl (lexes_nil.join rfl lexes_nil)
      | cons entry rest =>
          exact (lexes_indentedEntries hkeys ih (blanks + 2)).enclosed rfl rfl blanks

/-- **A value is read back from its indented text**, also when blanks follow it. -/
theorem Writable.parse?_renderIndented {value : Json} (h : value.Writable) {after : String}
    (hafter : ∀ c ∈ after.toList, isBlank c = true) :
    parse? (value.renderIndented ++ after) = some value := by
  have hlexes := (h.lexes_indented 0).before_blanks hafter
  rw [parse?, String.toList_append, renderIndented, String.toList_ofList, hlexes.tokens?_eq,
    Option.bind_some, ofTokens?_tokens]

end Json

/-! ## Values of the library -/

namespace Serial

variable {α : Type} [Serial α]

/-- **A kept value comes back from its indented text**, also when blanks follow it. -/
theorem Kept.parse?_renderIndented {a : α} (h : Kept a) {after : String}
    (hafter : ∀ c ∈ after.toList, Json.isBlank c = true) :
    parse? (renderIndented a ++ after) = some a := by
  rw [parse?, renderIndented, h.writable.parse?_renderIndented hafter, Option.bind_some,
    h.decode?_encode]

end Serial

end Tabletop
