import Tabletop.Json.Lexer
import Tabletop.Json.Writer
import Tabletop.Proofs.Json.Reader

/-!
# Tabletop.Proofs.Json.Lexer — what characters are read as tokens

The lexer knows that a number has ended only when it meets what follows. So after a token it either
stands between two tokens or is still inside a number that may end where it is; punctuation and the
end of the text make no difference between the two.

Characters are said to be read as tokens if, read from between two tokens, they leave the lexer at
such a place with these tokens added. Two stretches of characters with punctuation between them are
then read one after the other. A blank is like punctuation that leaves no token: it ends a number
that may end, and between two tokens it is skipped. Numbers and words are read as one token each.
-/

namespace Tabletop.Json

/-! ## Where a token may end -/

/-- The lexer may have ended a token, and then these are the tokens so far, latest first. -/
inductive Ends : Lexed → List Token → Prop
  /-- It stands between two tokens. -/
  | between (tokens : List Token) : Ends (.between, tokens) tokens
  /-- It stands inside a number that may end here. -/
  | number {part : NumberPart} {literal : List Char} {tokens : List Token} :
      part.isEnd = true → Ends (.number part literal, tokens) (numberToken literal :: tokens)

theorem mem_of_punctuation? {c : Char} {token : Token} (h : punctuation? c = some token) :
    c ∈ ['[', ']', '\x7b', '\x7d', ',', ':'] := by
  refine Decidable.byContradiction fun hc => ?_
  simp only [List.mem_cons, List.not_mem_nil, or_false, not_or] at hc
  simp [punctuation?, hc] at h

/-- No number goes on with punctuation. -/
theorem next?_of_punctuation? {c : Char} {token : Token} (h : punctuation? c = some token)
    (part : NumberPart) : part.next? c = none := by
  have hc := mem_of_punctuation? h
  simp only [List.mem_cons, List.not_mem_nil, or_false] at hc
  rcases hc with rfl | rfl | rfl | rfl | rfl | rfl <;> cases part <;> rfl

theorem readBetween_of_punctuation? {c : Char} {token : Token} (h : punctuation? c = some token)
    (tokens : List Token) : readBetween tokens c = some (.between, token :: tokens) := by
  have hc := mem_of_punctuation? h
  have hplain : isBlank c = false ∧ c ≠ '"' := by
    simp only [List.mem_cons, List.not_mem_nil, or_false] at hc
    rcases hc with rfl | rfl | rfl | rfl | rfl | rfl <;> decide
  obtain ⟨hblank, hquote⟩ := hplain
  rw [readBetween, hblank, if_neg Bool.false_ne_true, if_neg hquote]
  simp only [h]

/-- **Punctuation ends a token.** -/
theorem Ends.readChar {lexed : Lexed} {tokens : List Token} (h : Ends lexed tokens) {c : Char}
    {token : Token} (hc : punctuation? c = some token) :
    readChar lexed c = some (.between, token :: tokens) := by
  cases h with
  | between => exact readBetween_of_punctuation? hc tokens
  | number hend =>
      -- The number ends here, and the character is read from between two tokens.
      simp only [Json.readChar, next?_of_punctuation? hc, hend, if_true]
      exact readBetween_of_punctuation? hc _

/-- So does the end of the text. -/
theorem Ends.finish? {lexed : Lexed} {tokens : List Token} (h : Ends lexed tokens) :
    finish? lexed = some tokens := by
  cases h with
  | between => rfl
  | number hend => simp [Json.finish?, hend]

/-! ## Characters and their tokens -/

/-- Characters are read as tokens, whatever was read before them. -/
def Lexes (cs : List Char) (tokens : List Token) : Prop :=
  ∀ before, ∃ lexed, cs.foldlM readChar (.between, before) = some lexed ∧
    Ends lexed (tokens.reverse ++ before)

theorem lexes_nil : Lexes [] [] := fun before => ⟨_, rfl, .between before⟩

/-- **Punctuation joins** what is read before it and what is read after it. -/
theorem Lexes.join {cs ds : List Char} {tokens more : List Token} (hcs : Lexes cs tokens)
    {c : Char} {token : Token} (hc : punctuation? c = some token) (hds : Lexes ds more) :
    Lexes (cs ++ c :: ds) (tokens ++ token :: more) := by
  intro before
  obtain ⟨lexed, hread, hends⟩ := hcs before
  obtain ⟨final, hrest, hfinal⟩ := hds (token :: (tokens.reverse ++ before))
  refine ⟨final, ?_, ?_⟩
  · rw [List.foldlM_append, hread]
    show (c :: ds).foldlM Json.readChar lexed = some final
    rw [List.foldlM_cons, hends.readChar hc]
    exact hrest
  · rw [List.reverse_append, List.reverse_cons, List.append_assoc, List.append_assoc,
      List.singleton_append]
    exact hfinal

theorem Lexes.tokens?_eq {cs : List Char} {tokens : List Token} (h : Lexes cs tokens) :
    tokens? cs = some tokens := by
  obtain ⟨lexed, hread, hends⟩ := h []
  rw [List.append_nil] at hends
  rw [tokens?, hread, Option.bind_some, hends.finish?, Option.map_some, List.reverse_reverse]

/-! ## Blanks -/

theorem mem_of_isBlank {c : Char} (h : isBlank c = true) : c ∈ [' ', '\t', '\n', '\r'] := by
  simpa [isBlank, or_assoc] using h

/-- No number goes on with a blank. -/
theorem next?_of_isBlank {c : Char} (h : isBlank c = true) (part : NumberPart) :
    part.next? c = none := by
  have hc := mem_of_isBlank h
  simp only [List.mem_cons, List.not_mem_nil, or_false] at hc
  rcases hc with rfl | rfl | rfl | rfl <;> cases part <;> rfl

/-- Between two tokens a blank is skipped. -/
theorem readBetween_of_isBlank {c : Char} (h : isBlank c = true) (tokens : List Token) :
    readBetween tokens c = some (.between, tokens) := if_pos h

theorem foldlM_blanks {bs : List Char} (h : ∀ b ∈ bs, isBlank b = true) (tokens : List Token) :
    bs.foldlM readChar (.between, tokens) = some (.between, tokens) := by
  induction bs with
  | nil => rfl
  | cons b bs ih =>
      obtain ⟨hb, hbs⟩ := List.forall_mem_cons.mp h
      have hread : readChar (.between, tokens) b = some (.between, tokens) :=
        readBetween_of_isBlank hb tokens
      rw [List.foldlM_cons, hread]
      exact ih hbs

/-- **A blank ends a token** and leaves none of its own. -/
theorem Ends.readBlank {lexed : Lexed} {tokens : List Token} (h : Ends lexed tokens) {c : Char}
    (hc : isBlank c = true) : Json.readChar lexed c = some (.between, tokens) := by
  cases h with
  | between => exact readBetween_of_isBlank hc tokens
  | number hend =>
      simp only [Json.readChar, next?_of_isBlank hc, hend, if_true]
      exact readBetween_of_isBlank hc _

/-- Blanks after a token leave the lexer where a token may end. -/
theorem Ends.foldlM_blanks {lexed : Lexed} {tokens : List Token} (h : Ends lexed tokens)
    {bs : List Char} (hbs : ∀ b ∈ bs, isBlank b = true) :
    ∃ final, bs.foldlM Json.readChar lexed = some final ∧ Ends final tokens := by
  cases bs with
  | nil => exact ⟨lexed, rfl, h⟩
  | cons b bs =>
      obtain ⟨hb, hrest⟩ := List.forall_mem_cons.mp hbs
      refine ⟨(.between, tokens), ?_, .between tokens⟩
      rw [List.foldlM_cons, h.readBlank hb]
      exact Json.foldlM_blanks hrest tokens

/-- **Blanks in front change nothing.** -/
theorem Lexes.after_blanks {cs : List Char} {tokens : List Token} (hcs : Lexes cs tokens)
    {bs : List Char} (hbs : ∀ b ∈ bs, isBlank b = true) : Lexes (bs ++ cs) tokens := by
  intro before
  obtain ⟨lexed, hread, hends⟩ := hcs before
  refine ⟨lexed, ?_, hends⟩
  rw [List.foldlM_append, foldlM_blanks hbs]
  exact hread

/-- **Blanks behind change nothing.** -/
theorem Lexes.before_blanks {cs : List Char} {tokens : List Token} (hcs : Lexes cs tokens)
    {bs : List Char} (hbs : ∀ b ∈ bs, isBlank b = true) : Lexes (cs ++ bs) tokens := by
  intro before
  obtain ⟨lexed, hread, hends⟩ := hcs before
  obtain ⟨final, hblanks, hfinal⟩ := hends.foldlM_blanks hbs
  refine ⟨final, ?_, hfinal⟩
  rw [List.foldlM_append, hread]
  exact hblanks

/-! ## Words and numbers -/

theorem lexes_null : Lexes "null".toList [.scalar null] := fun _ => ⟨_, rfl, .between _⟩

theorem lexes_writeBool (value : Bool) : Lexes (writeBool value) [.scalar (bool value)] := by
  cases value <;> exact fun _ => ⟨_, rfl, .between _⟩

/-- A literal is well formed if a number may end after it. -/
def IsNumber (literal : List Char) : Prop :=
  ∃ c rest first last, literal = c :: rest ∧ NumberPart.first? c = some first ∧
    rest.foldlM NumberPart.next? first = some last ∧ last.isEnd = true

theorem readBetween_of_first? {c : Char} {first : NumberPart} (h : NumberPart.first? c = some first)
    (tokens : List Token) : readBetween tokens c = some (.number first [c], tokens) := by
  have hother : [' ', '\t', '\n', '\r', '"', '[', ']', '\x7b', '\x7d', ',', ':'].all
      (fun d => (NumberPart.first? d).isNone) = true := by decide
  have hc : ∀ d ∈ [' ', '\t', '\n', '\r', '"', '[', ']', '\x7b', '\x7d', ',', ':'], c ≠ d := by
    rintro d hd rfl
    have hnone := List.all_eq_true.mp hother c hd
    simp [h] at hnone
  simp only [List.forall_mem_cons] at hc
  simp [readBetween, isBlank, punctuation?, hc, h]

/-- The lexer goes through a number as its parts do. -/
theorem foldlM_number {rest : List Char} {first last : NumberPart}
    (h : rest.foldlM NumberPart.next? first = some last) (literal : List Char)
    (tokens : List Token) :
    rest.foldlM readChar (.number first literal, tokens) =
      some (.number last (rest.reverse ++ literal), tokens) := by
  induction rest generalizing first literal with
  | nil =>
      rw [Option.some.inj h]
      rfl
  | cons c rest ih =>
      rw [List.foldlM_cons] at h
      obtain ⟨next, hnext, hrest⟩ := Option.bind_eq_some_iff.mp h
      have hread : readChar (.number first literal, tokens) c =
          some (.number next (c :: literal), tokens) := by
        simp only [readChar, hnext]
      rw [List.foldlM_cons, hread]
      show rest.foldlM readChar (.number next (c :: literal), tokens) = _
      rw [ih hrest, List.reverse_cons, List.append_assoc, List.singleton_append]

theorem lexes_number {literal : List Char} (h : IsNumber literal) :
    Lexes literal [.scalar (number literal)] := by
  obtain ⟨c, rest, first, last, rfl, hfirst, hlast, hend⟩ := h
  intro before
  have htoken : numberToken (rest.reverse ++ [c]) = .scalar (number (c :: rest)) := by
    rw [numberToken, List.reverse_append, List.reverse_reverse]
    rfl
  -- The lexer is left inside the number, at a place where it may end.
  refine ⟨(.number last (rest.reverse ++ [c]), before), ?_, ?_⟩
  · rw [List.foldlM_cons]
    show (readBetween before c).bind (fun lexed => rest.foldlM readChar lexed) = _
    rw [readBetween_of_first? hfirst, Option.bind_some, foldlM_number hlast]
  · show Ends _ (.scalar (number (c :: rest)) :: before)
    rw [← htoken]
    exact .number hend

end Tabletop.Json
