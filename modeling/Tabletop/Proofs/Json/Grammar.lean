import Tabletop.Proofs.Json.Lexer
import Tabletop.Proofs.Text.Numeral

/-!
# Tabletop.Proofs.Json.Grammar — every text of the grammar is read

The grammar says which characters spell a value, whoever wrote them: blanks may stand around every
value and key, a character of a string may be written as itself or in any of its escapes, and a
number may have a fraction and an exponent. A string whose escapes name a half of a surrogate pair
alone is spelled like any other; it only denotes no text.

The lexer reads what the grammar spells as the tokens of the value, so the reader gives the value.
A statement about every text that spells a value is then one about the value alone.
-/

namespace Tabletop.Json

/-! ## Numbers -/

/-- One digit or more. -/
def IsDigits (cs : List Char) : Prop := cs ≠ [] ∧ ∀ c ∈ cs, c.isDigit = true

/-- The whole part of a number: a zero, or digits of which the first is none. -/
inductive SpellsWhole : List Char → Prop
  | zero : SpellsWhole ['0']
  | digits {c : Char} {cs : List Char} : c.isDigit = true → c ≠ '0' →
      (∀ d ∈ cs, d.isDigit = true) → SpellsWhole (c :: cs)

/-- The fraction of a number, which may be missing. -/
inductive SpellsFraction : List Char → Prop
  | missing : SpellsFraction []
  | digits {cs : List Char} : IsDigits cs → SpellsFraction ('.' :: cs)

/-- The exponent of a number, which may be missing. -/
inductive SpellsExponent : List Char → Prop
  | missing : SpellsExponent []
  | digits {letter : Char} {cs : List Char} : letter = 'e' ∨ letter = 'E' → IsDigits cs →
      SpellsExponent (letter :: cs)
  | signed {letter sign : Char} {cs : List Char} : letter = 'e' ∨ letter = 'E' →
      sign = '+' ∨ sign = '-' → IsDigits cs → SpellsExponent (letter :: sign :: cs)

/-- A number: its whole part, fraction and exponent, after a minus sign or without one. -/
inductive SpellsNumber : List Char → Prop
  | plain {whole fraction exponent : List Char} : SpellsWhole whole → SpellsFraction fraction →
      SpellsExponent exponent → SpellsNumber (whole ++ (fraction ++ exponent))
  | minus {whole fraction exponent : List Char} : SpellsWhole whole → SpellsFraction fraction →
      SpellsExponent exponent → SpellsNumber ('-' :: (whole ++ (fraction ++ exponent)))

/-- Digits go on with a part that digits go on with. -/
theorem foldlM_digits {part : NumberPart}
    (hpart : ∀ c : Char, c.isDigit = true → part.next? c = some part) {cs : List Char}
    (h : ∀ c ∈ cs, c.isDigit = true) : cs.foldlM NumberPart.next? part = some part := by
  induction cs with
  | nil => rfl
  | cons c cs ih =>
      obtain ⟨hc, hcs⟩ := List.forall_mem_cons.mp h
      rw [List.foldlM_cons, hpart c hc]
      exact ih hcs

/-- One digit or more lead on to a part that digits go on with. -/
theorem IsDigits.foldlM_next? {cs : List Char} (h : IsDigits cs) {before part : NumberPart}
    (hfirst : ∀ c : Char, c.isDigit = true → before.next? c = some part)
    (hpart : ∀ c : Char, c.isDigit = true → part.next? c = some part) :
    cs.foldlM NumberPart.next? before = some part := by
  obtain ⟨hne, hdigits⟩ := h
  cases cs with
  | nil => exact absurd rfl hne
  | cons c cs =>
      obtain ⟨hc, hcs⟩ := List.forall_mem_cons.mp hdigits
      rw [List.foldlM_cons, hfirst c hc]
      exact foldlM_digits hpart hcs

/-- A number may end after these characters when it stands at a part. -/
def Completes (part : NumberPart) (cs : List Char) : Prop :=
  ∃ last, cs.foldlM NumberPart.next? part = some last ∧ last.isEnd = true

theorem completes_append {part middle : NumberPart} {cs ds : List Char}
    (hcs : cs.foldlM NumberPart.next? part = some middle) (hds : Completes middle ds) :
    Completes part (cs ++ ds) := by
  obtain ⟨last, hlast, hend⟩ := hds
  refine ⟨last, ?_, hend⟩
  rw [List.foldlM_append, hcs]
  exact hlast

/-- The letter and the sign of an exponent lead on to its digits. -/
theorem next?_letter {c : Char} (h : c.isDigit = true) :
    NumberPart.letter.next? c = some .exponent := by
  have hplus : c ≠ '+' := Numeral.ne_of_isDigit h rfl
  have hminus : c ≠ '-' := Numeral.ne_of_isDigit h rfl
  simp [NumberPart.next?, hplus, hminus, h]

theorem next?_exponentSign {c : Char} (h : c.isDigit = true) :
    NumberPart.exponentSign.next? c = some .exponent := by simp [NumberPart.next?, h]

theorem next?_exponent {c : Char} (h : c.isDigit = true) :
    NumberPart.exponent.next? c = some .exponent := by simp [NumberPart.next?, h]

/-- **An exponent completes a number** that stands where its letter may come. -/
theorem SpellsExponent.completes {cs : List Char} (h : SpellsExponent cs) {part : NumberPart}
    (hend : part.isEnd = true)
    (hpart : ∀ c : Char, c = 'e' ∨ c = 'E' → part.next? c = some .letter) :
    Completes part cs := by
  cases h with
  | missing => exact ⟨part, rfl, hend⟩
  | @digits letter ds hletter hdigits =>
      refine ⟨.exponent, ?_, rfl⟩
      rw [List.foldlM_cons, hpart letter hletter]
      exact hdigits.foldlM_next? (fun _ => next?_letter) fun _ => next?_exponent
  | @signed letter sign ds hletter hsign hdigits =>
      have hnext : NumberPart.letter.next? sign = some .exponentSign := by
        rcases hsign with rfl | rfl <;> rfl
      refine ⟨.exponent, ?_, rfl⟩
      rw [List.foldlM_cons, hpart letter hletter]
      show (sign :: ds).foldlM NumberPart.next? .letter = some .exponent
      rw [List.foldlM_cons, hnext]
      exact hdigits.foldlM_next? (fun _ => next?_exponentSign) fun _ => next?_exponent

/-- **So do a fraction and an exponent** after the whole part. -/
theorem SpellsFraction.completes {fraction exponent : List Char} (h : SpellsFraction fraction)
    (hexponent : SpellsExponent exponent) {part : NumberPart}
    (hpart : part = .zero ∨ part = .whole) : Completes part (fraction ++ exponent) := by
  cases h with
  | missing =>
      rcases hpart with rfl | rfl
      · exact hexponent.completes rfl (by rintro c (rfl | rfl) <;> rfl)
      · exact hexponent.completes rfl (by rintro c (rfl | rfl) <;> rfl)
  | @digits ds hdigits =>
      have hpoint : part.next? '.' = some .point := by rcases hpart with rfl | rfl <;> rfl
      have hread : ('.' :: ds).foldlM NumberPart.next? part = some .fraction := by
        rw [List.foldlM_cons, hpoint]
        exact hdigits.foldlM_next? (fun c hc => by simp [NumberPart.next?, hc])
          fun c hc => by simp [NumberPart.next?, hc]
      exact completes_append hread (hexponent.completes rfl (by rintro c (rfl | rfl) <;> rfl))

/-- The whole part of a number starts it, with a character that is no minus sign. -/
theorem SpellsWhole.exists_first {cs : List Char} (h : SpellsWhole cs) :
    ∃ c rest first part, cs = c :: rest ∧ c ≠ '-' ∧ NumberPart.first? c = some first ∧
      rest.foldlM NumberPart.next? first = some part ∧ (part = .zero ∨ part = .whole) := by
  cases h with
  | zero => exact ⟨'0', [], .zero, .zero, rfl, by decide, rfl, rfl, .inl rfl⟩
  | @digits c cs hc hzero hcs =>
      have hminus : c ≠ '-' := Numeral.ne_of_isDigit hc rfl
      refine ⟨c, cs, .whole, .whole, rfl, hminus, ?_, ?_, .inr rfl⟩
      · simp [NumberPart.first?, hminus, hzero, hc]
      · exact foldlM_digits (fun c hc => by simp [NumberPart.next?, hc]) hcs

/-- **A number of the grammar is read as one number.** -/
theorem SpellsNumber.isNumber {cs : List Char} (h : SpellsNumber cs) : IsNumber cs := by
  cases h with
  | plain hwhole hfraction hexponent =>
      obtain ⟨c, rest, first, part, rfl, -, hfirst, hread, hpart⟩ := hwhole.exists_first
      obtain ⟨last, hlast, hend⟩ :=
        completes_append hread (hfraction.completes hexponent hpart)
      exact ⟨c, _, first, last, rfl, hfirst, hlast, hend⟩
  | minus hwhole hfraction hexponent =>
      obtain ⟨c, rest, first, part, rfl, hminus, hfirst, hread, hpart⟩ := hwhole.exists_first
      obtain ⟨last, hlast, hend⟩ :=
        completes_append hread (hfraction.completes hexponent hpart)
      -- After the sign a number starts as it does without one.
      have hnext : NumberPart.sign.next? c = some first := by
        rw [← hfirst]
        simp [NumberPart.next?, NumberPart.first?, hminus]
      refine ⟨'-', _, .sign, last, rfl, rfl, ?_, hend⟩
      rw [List.cons_append, List.foldlM_cons, hnext]
      exact hlast

/-! ## Strings -/

/-- A character, or an escape, inside a string, and what it stands for. -/
inductive SpellsPiece : List Char → Piece → Prop
  | plain {c : Char} : c ≠ '"' → c ≠ '\\' → 0x20 ≤ c.toNat → SpellsPiece [c] (.char c)
  | letter {c e : Char} : escaped? c = some e → SpellsPiece ['\\', c] (.char e)
  | unit {a b c d : Char} {i j k l : Nat} : hexDigit? a = some i → hexDigit? b = some j →
      hexDigit? c = some k → hexDigit? d = some l →
      SpellsPiece ['\\', 'u', a, b, c, d] (.ofUnit (((i * 16 + j) * 16 + k) * 16 + l))

/-- The characters between the quotes of a string, and its pieces. -/
inductive SpellsPieces : List Char → List Piece → Prop
  | nil : SpellsPieces [] []
  | cons {cs ds : List Char} {piece : Piece} {pieces : List Piece} : SpellsPiece cs piece →
      SpellsPieces ds pieces → SpellsPieces (cs ++ ds) (piece :: pieces)

/-- No escape of one letter is that of four digits. -/
theorem ne_u_of_escaped? {c e : Char} (h : escaped? c = some e) : c ≠ 'u' := by
  rintro rfl
  have hnone : escaped? 'u' = none := by decide
  rw [hnone] at h
  exact absurd h (by simp)

/-- **A piece is read as itself.** -/
theorem SpellsPiece.foldlM_readChar {cs : List Char} {piece : Piece} (h : SpellsPiece cs piece)
    (before : List Piece) (tokens : List Token) :
    cs.foldlM readChar (.string before, tokens) = some (.string (piece :: before), tokens) := by
  cases h with
  | plain hquote hslash hcontrol =>
      simp [readChar, hquote, hslash, Nat.not_lt.mpr hcontrol]
  | letter hescape =>
      simp [readChar, ne_u_of_escaped? hescape, hescape]
  | unit ha hb hc hd =>
      simp [readChar, ha, hb, hc, hd]

theorem SpellsPieces.foldlM_readChar {cs : List Char} {pieces : List Piece}
    (h : SpellsPieces cs pieces) (before : List Piece) (tokens : List Token) :
    cs.foldlM readChar (.string before, tokens) =
      some (.string (pieces.reverse ++ before), tokens) := by
  induction h generalizing before with
  | nil => rfl
  | @cons cs ds piece pieces hpiece _ ih =>
      rw [List.foldlM_append, hpiece.foldlM_readChar]
      show ds.foldlM readChar (.string (piece :: before), tokens) = _
      rw [ih, List.reverse_cons, List.append_assoc, List.singleton_append]

/-- **What stands between two quotes is read as one string.** -/
theorem SpellsPieces.lexes {cs : List Char} {pieces : List Piece} (h : SpellsPieces cs pieces) :
    Lexes ('"' :: cs ++ ['"'])
      [.scalar (string ((Piece.text? pieces).map String.ofList))] := by
  intro before
  refine ⟨(.between, stringToken pieces.reverse :: before), ?_, ?_⟩
  · show (cs ++ ['"']).foldlM readChar (.string [], before) = _
    rw [List.foldlM_append, h.foldlM_readChar, List.append_nil]
    rfl
  · rw [stringToken, List.reverse_reverse]
    exact .between _

/-! ## Values -/

mutual

/-- **The grammar of values.** -/
inductive Spells : List Char → Json → Prop
  | surrounded {before cs after : List Char} {value : Json} : before.all isBlank = true →
      after.all isBlank = true → Spells cs value → Spells (before ++ cs ++ after) value
  | null : Spells "null".toList null
  | bool (value : Bool) : Spells (writeBool value) (bool value)
  | number {cs : List Char} : SpellsNumber cs → Spells cs (number cs)
  | string {cs : List Char} {pieces : List Piece} : SpellsPieces cs pieces →
      Spells ('"' :: cs ++ ['"']) (string ((Piece.text? pieces).map String.ofList))
  | emptyArray {blanks : List Char} : blanks.all isBlank = true →
      Spells ('[' :: blanks ++ [']']) (array [])
  | array {cs : List Char} {items : List Json} : SpellsItems cs items →
      Spells ('[' :: cs ++ [']']) (array items)
  | emptyObject {blanks : List Char} : blanks.all isBlank = true →
      Spells ('\x7b' :: blanks ++ ['\x7d']) (object [])
  | object {cs : List Char} {entries : List (Option String × Json)} : SpellsEntries cs entries →
      Spells ('\x7b' :: cs ++ ['\x7d']) (object entries)

/-- One item or more, with commas between them. -/
inductive SpellsItems : List Char → List Json → Prop
  | last {cs : List Char} {item : Json} : Spells cs item → SpellsItems cs [item]
  | more {cs ds : List Char} {item : Json} {items : List Json} : Spells cs item →
      SpellsItems ds items → SpellsItems (cs ++ ',' :: ds) (item :: items)

/-- One entry or more, with commas between them. -/
inductive SpellsEntries : List Char → List (Option String × Json) → Prop
  | last {ks cs : List Char} {key : Option String} {value : Json} : Spells ks (string key) →
      Spells cs value → SpellsEntries (ks ++ ':' :: cs) [(key, value)]
  | more {ks cs ds : List Char} {key : Option String} {value : Json}
      {entries : List (Option String × Json)} : Spells ks (string key) → Spells cs value →
      SpellsEntries ds entries →
      SpellsEntries (ks ++ ':' :: cs ++ ',' :: ds) ((key, value) :: entries)

end

theorem SpellsItems.tokens_cons {cs : List Char} {items : List Json} (h : SpellsItems cs items)
    (item : Json) : itemTokens (item :: items) = tokens item ++ .comma :: itemTokens items := by
  cases h <;> rfl

theorem SpellsEntries.tokens_cons {cs : List Char} {entries : List (Option String × Json)}
    (h : SpellsEntries cs entries) (key : Option String) (value : Json) :
    entryTokens ((key, value) :: entries) =
      .scalar (.string key) :: .colon :: tokens value ++ .comma :: entryTokens entries := by
  cases h <;> rfl

mutual

/-- **What the grammar spells is read as the tokens of the value.** -/
theorem Spells.lexes {cs : List Char} {value : Json} : Spells cs value → Lexes cs (tokens value)
  | .surrounded hbefore hafter h =>
      (h.lexes.after_blanks (List.all_eq_true.mp hbefore)).before_blanks
        (List.all_eq_true.mp hafter)
  | .null => lexes_null
  | .bool value => lexes_writeBool value
  | .number h => lexes_number h.isNumber
  | .string h => h.lexes
  | .emptyArray hblanks => by
      have hinside := lexes_nil.before_blanks (List.all_eq_true.mp hblanks)
      exact lexes_nil.join rfl (hinside.join rfl lexes_nil)
  | .array h => lexes_nil.join rfl (h.lexes.join rfl lexes_nil)
  | .emptyObject hblanks => by
      have hinside := lexes_nil.before_blanks (List.all_eq_true.mp hblanks)
      exact lexes_nil.join rfl (hinside.join rfl lexes_nil)
  | .object h => lexes_nil.join rfl (h.lexes.join rfl lexes_nil)

theorem SpellsItems.lexes {cs : List Char} {items : List Json} :
    SpellsItems cs items → Lexes cs (itemTokens items)
  | .last h => h.lexes
  | .more h hmore => by
      rw [hmore.tokens_cons]
      exact h.lexes.join rfl hmore.lexes

theorem SpellsEntries.lexes {cs : List Char} {entries : List (Option String × Json)} :
    SpellsEntries cs entries → Lexes cs (entryTokens entries)
  | .last hkey h => hkey.lexes.join rfl h.lexes
  | .more hkey h hmore => by
      rw [hmore.tokens_cons]
      exact (hkey.lexes.join rfl h.lexes).join rfl hmore.lexes

end

/-- **A text of the grammar is read as the value that it spells.** -/
theorem Spells.parse?_eq {text : String} {value : Json} (h : Spells text.toList value) :
    parse? text = some value := by
  rw [parse?, h.lexes.tokens?_eq, Option.bind_some, ofTokens?_tokens]

end Tabletop.Json
