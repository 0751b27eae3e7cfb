import Tabletop.Json.Value

/-!
# Tabletop.Json.Lexer — the tokens of a JSON text

The lexer reads a text one character at a time and keeps only where it stands: between tokens,
inside a string, an escape, a number or a word. What it accepts is strict: four blank characters,
no comments, no leading zeros, no raw control characters inside strings, and no byte order mark.

Two escapes that name the halves of a surrogate pair, the high half first, stand for one
character. A half without its partner leaves the string without a text.
-/

namespace Tabletop.Json

/-- A token: punctuation, or a value without parts. -/
inductive Token where
  | openArray
  | closeArray
  | openObject
  | closeObject
  | comma
  | colon
  | scalar (value : Json)
  deriving Inhabited, Repr

/-! ## Strings -/

/-- What one character or escape inside a string stands for. -/
inductive Piece where
  /-- A character. -/
  | char (c : Char)
  /-- The high half of a surrogate pair. -/
  | high (unit : Nat)
  /-- The low half of a surrogate pair. -/
  | low (unit : Nat)
  deriving Repr

/-- The piece that a four-digit escape stands for. -/
def Piece.ofUnit (unit : Nat) : Piece :=
  if 0xd800 ≤ unit ∧ unit < 0xdc00 then .high unit
  else if 0xdc00 ≤ unit ∧ unit < 0xe000 then .low unit
  else .char (Char.ofNat unit)

/-- The character that the two halves of a pair stand for. -/
def Piece.pair (high low : Nat) : Char :=
  Char.ofNat ((high - 0xd800) * 0x400 + (low - 0xdc00) + 0x10000)

/-- **The text of a string's pieces**; none if a half stands alone. -/
def Piece.text? : List Piece → Option (List Char)
  | [] => some []
  | .char c :: rest => (text? rest).map (c :: ·)
  | .high h :: .low l :: rest => (text? rest).map (pair h l :: ·)
  | .high _ :: _ => none
  | .low _ :: _ => none

/-- The character that a one-letter escape stands for. -/
def escaped? (c : Char) : Option Char :=
  if c = '"' || c = '\\' || c = '/' then some c
  else if c = 'b' then some '\x08'
  else if c = 'f' then some '\x0c'
  else if c = 'n' then some '\n'
  else if c = 'r' then some '\r'
  else if c = 't' then some '\t'
  else none

/-- The value of a hexadecimal digit of either case. -/
def hexDigit? (c : Char) : Option Nat :=
  if '0' ≤ c ∧ c ≤ '9' then some (c.toNat - '0'.toNat)
  else if 'a' ≤ c ∧ c ≤ 'f' then some (c.toNat - 'a'.toNat + 10)
  else if 'A' ≤ c ∧ c ≤ 'F' then some (c.toNat - 'A'.toNat + 10)
  else none

/-! ## Numbers -/

/-- What of a number has been read. -/
inductive NumberPart where
  /-- The minus sign. -/
  | sign
  /-- A leading zero. -/
  | zero
  /-- Digits of the whole part. -/
  | whole
  /-- The decimal point. -/
  | point
  /-- Digits of the fraction. -/
  | fraction
  /-- The letter of the exponent. -/
  | letter
  /-- The sign of the exponent. -/
  | exponentSign
  /-- Digits of the exponent. -/
  | exponent
  deriving DecidableEq, Repr

namespace NumberPart

/-- A number may end here. -/
def isEnd : NumberPart → Bool
  | zero | whole | fraction | exponent => true
  | sign | point | letter | exponentSign => false

/-- The first part of a number that starts with a character. -/
def first? (c : Char) : Option NumberPart :=
  if c = '-' then some sign
  else if c = '0' then some zero
  else if c.isDigit then some whole
  else none

/-- The part that a further character continues the number with. -/
def next? (part : NumberPart) (c : Char) : Option NumberPart :=
  match part with
  | sign => if c = '0' then some zero else if c.isDigit then some whole else none
  | zero => pointOrLetter c
  | whole => if c.isDigit then some whole else pointOrLetter c
  | point => if c.isDigit then some fraction else none
  | fraction =>
    if c.isDigit then some fraction else if c = 'e' || c = 'E' then some letter else none
  | letter =>
    if c = '+' || c = '-' then some exponentSign else if c.isDigit then some exponent else none
  | exponentSign => if c.isDigit then some exponent else none
  | exponent => if c.isDigit then some exponent else none
where
  /-- What may follow the whole part. -/
  pointOrLetter (c : Char) : Option NumberPart :=
    if c = '.' then some point else if c = 'e' || c = 'E' then some letter else none

end NumberPart

/-! ## The lexer -/

/-- Where the lexer stands. What has been read of a token is kept latest first. -/
inductive Place where
  /-- Between two tokens. -/
  | between
  /-- Inside a string. -/
  | string (pieces : List Piece)
  /-- After the backslash of an escape. -/
  | escape (pieces : List Piece)
  /-- Inside the digits of a four-digit escape. -/
  | unit (pieces : List Piece) (digits value : Nat)
  /-- Inside a number. -/
  | number (part : NumberPart) (literal : List Char)
  /-- Inside a word, with the characters still to come. -/
  | word (rest : List Char) (value : Json)
  deriving Repr

/-- A blank character between tokens. -/
def isBlank (c : Char) : Bool := c = ' ' || c = '\t' || c = '\n' || c = '\r'

/-- The token of a punctuation character. -/
def punctuation? (c : Char) : Option Token :=
  if c = '[' then some .openArray
  else if c = ']' then some .closeArray
  else if c = '\x7b' then some .openObject
  else if c = '\x7d' then some .closeObject
  else if c = ',' then some .comma
  else if c = ':' then some .colon
  else none

/-- The rest of the word that starts with a character, and its value. -/
def word? (c : Char) : Option (List Char × Json) :=
  if c = 't' then some ("rue".toList, .bool true)
  else if c = 'f' then some ("alse".toList, .bool false)
  else if c = 'n' then some ("ull".toList, .null)
  else none

/-- Where the lexer stands, and the tokens read so far, latest first. -/
abbrev Lexed : Type := Place × List Token

/-- Read a character between two tokens. -/
def readBetween (tokens : List Token) (c : Char) : Option Lexed :=
  if isBlank c then some (.between, tokens)
  else if c = '"' then some (.string [], tokens)
  else
    match punctuation? c with
    | some token => some (.between, token :: tokens)
    | none =>
      match NumberPart.first? c with
      | some part => some (.number part [c], tokens)
      | none => (word? c).map fun word => (.word word.1 word.2, tokens)

/-- The string token of pieces kept latest first. -/
def stringToken (pieces : List Piece) : Token :=
  .scalar (.string ((Piece.text? pieces.reverse).map String.ofList))

/-- The number token of characters kept latest first. -/
def numberToken (literal : List Char) : Token := .scalar (.number literal.reverse)

/-- **Read one character.** -/
def readChar (lexed : Lexed) (c : Char) : Option Lexed :=
  let tokens := lexed.2
  match lexed.1 with
  | .between => readBetween tokens c
  | .string pieces =>
    if c = '"' then some (.between, stringToken pieces :: tokens)
    else if c = '\\' then some (.escape pieces, tokens)
    else if c.toNat < 0x20 then none
    else some (.string (.char c :: pieces), tokens)
  | .escape pieces =>
    if c = 'u' then some (.unit pieces 0 0, tokens)
    else (escaped? c).map fun e => (.string (.char e :: pieces), tokens)
  | .unit pieces digits value =>
    match hexDigit? c with
    | none => none
    | some d =>
      if digits = 3 then some (.string (Piece.ofUnit (value * 16 + d) :: pieces), tokens)
      else some (.unit pieces (digits + 1) (value * 16 + d), tokens)
  | .number part literal =>
    match part.next? c with
    | some next => some (.number next (c :: literal), tokens)
    | none => if part.isEnd then readBetween (numberToken literal :: tokens) c else none
  | .word rest value =>
    match rest with
    | [] => none
    | r :: rest =>
      if c ≠ r then none
      else if rest.isEmpty then some (.between, .scalar value :: tokens)
      else some (.word rest value, tokens)

/-- The tokens, latest first, when the text ends here; none inside an unfinished token. -/
def finish? (lexed : Lexed) : Option (List Token) :=
  match lexed.1 with
  | .between => some lexed.2
  | .number part literal => if part.isEnd then some (numberToken literal :: lexed.2) else none
  | _ => none

/-- **The tokens of a text.** -/
def tokens? (cs : List Char) : Option (List Token) :=
  ((cs.foldlM readChar (.between, [])).bind finish?).map List.reverse

end Tabletop.Json
