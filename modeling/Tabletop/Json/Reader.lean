import Tabletop.Json.Lexer

/-!
# Tabletop.Json.Reader — reading JSON texts

A value is put together from its tokens with the containers part way through held in a list, the
innermost first. So any depth of nesting can be read, and reading is one pass over the tokens. A
text holds exactly one value; anything after it but blanks makes the text malformed.
-/

namespace Tabletop.Json

/-- A container part way through; what it holds already is kept latest first. -/
inductive Frame where
  /-- An array. -/
  | array (done : List Json)
  /-- An object, of whose entries the one with this key is being read. -/
  | entry (done : List (Option String × Json)) (key : Option String)
  deriving Repr

/-- What has been read, and so what may come next. -/
inductive Reading where
  /-- A value must come. -/
  | value (outer : List Frame)
  /-- An array was opened: a value or its end. -/
  | arrayStart (outer : List Frame)
  /-- An object was opened: a key or its end. -/
  | objectStart (outer : List Frame)
  /-- A comma in an object: a key must come. -/
  | key (done : List (Option String × Json)) (outer : List Frame)
  /-- A key: a colon must come. -/
  | colon (done : List (Option String × Json)) (key : Option String) (outer : List Frame)
  /-- A value was completed: a comma, the end of its container, or the end of the text. -/
  | after (value : Json) (outer : List Frame)
  deriving Repr

/-- Read a token where a value must come. -/
def readValue (outer : List Frame) : Token → Option Reading
  | .scalar value => some (.after value outer)
  | .openArray => some (.arrayStart outer)
  | .openObject => some (.objectStart outer)
  | _ => none

/-- **Read one token.** -/
def readToken (reading : Reading) (token : Token) : Option Reading :=
  match reading with
  | .value outer => readValue outer token
  | .arrayStart outer =>
    match token with
    | .closeArray => some (.after (.array []) outer)
    | token => readValue (.array [] :: outer) token
  | .objectStart outer =>
    match token with
    | .closeObject => some (.after (.object []) outer)
    | .scalar (.string key) => some (.colon [] key outer)
    | _ => none
  | .key done outer =>
    match token with
    | .scalar (.string key) => some (.colon done key outer)
    | _ => none
  | .colon done key outer =>
    match token with
    | .colon => some (.value (.entry done key :: outer))
    | _ => none
  | .after value (.array done :: outer) =>
    match token with
    | .comma => some (.value (.array (value :: done) :: outer))
    | .closeArray => some (.after (.array (value :: done).reverse) outer)
    | _ => none
  | .after value (.entry done key :: outer) =>
    match token with
    | .comma => some (.key ((key, value) :: done) outer)
    | .closeObject => some (.after (.object ((key, value) :: done).reverse) outer)
    | _ => none
  | .after _ [] => none

/-- The value that was read, when the tokens end here. -/
def result? : Reading → Option Json
  | .after value [] => some value
  | _ => none

/-- The value of a sequence of tokens. -/
def ofTokens? (tokens : List Token) : Option Json :=
  (tokens.foldlM readToken (.value [])).bind result?

/-- **The value that a text holds.** -/
def parse? (text : String) : Option Json := (tokens? text.toList).bind ofTokens?

end Tabletop.Json
