import Tabletop.Json.Reader

/-!
# Tabletop.Proofs.Json.Reader — a value is read from its tokens

A value that is no container is one token. A container is its contents between two brackets, with a
comma after each item or entry but the last one. Reading these tokens where a value must come ends
right after the value, whatever containers lie around it; so the tokens of a value are read as that
value and as no other.
-/

namespace Tabletop.Json

mutual

/-- The tokens of a value. -/
def tokens : Json → List Token
  | array items => .openArray :: itemTokens items ++ [.closeArray]
  | object entries => .openObject :: entryTokens entries ++ [.closeObject]
  | null => [.scalar null]
  | bool value => [.scalar (bool value)]
  | number literal => [.scalar (number literal)]
  | string text => [.scalar (string text)]

/-- The tokens of items, with commas between them. -/
def itemTokens : List Json → List Token
  | [] => []
  | [item] => tokens item
  | item :: more :: rest => tokens item ++ .comma :: itemTokens (more :: rest)

/-- The tokens of entries, with commas between them. -/
def entryTokens : List (Option String × Json) → List Token
  | [] => []
  | [(key, value)] => .scalar (string key) :: .colon :: tokens value
  | (key, value) :: more :: rest =>
    .scalar (string key) :: .colon :: tokens value ++ .comma :: entryTokens (more :: rest)

end

/-- A value does not start with the end of an array. -/
theorem tokens_eq_cons (value : Json) : ∃ first rest, tokens value = first :: rest ∧
    ∀ outer,
      readToken (.arrayStart outer) first = readToken (.value (.array [] :: outer)) first := by
  cases value <;> exact ⟨_, _, rfl, fun _ => rfl⟩

/-- So the first item of an array is read as the later ones are. -/
theorem foldlM_arrayStart (item : Json) (rest : List Json) (more : List Token)
    (outer : List Frame) :
    (itemTokens (item :: rest) ++ more).foldlM readToken (.arrayStart outer) =
      (itemTokens (item :: rest) ++ more).foldlM readToken (.value (.array [] :: outer)) := by
  obtain ⟨first, tail, hitem, hfirst⟩ := tokens_eq_cons item
  have hitems : ∃ later, itemTokens (item :: rest) ++ more = first :: later := by
    cases rest with
    | nil => exact ⟨tail ++ more, by rw [itemTokens, hitem, List.cons_append]⟩
    | cons next rest =>
        refine ⟨tail ++ .comma :: itemTokens (next :: rest) ++ more, ?_⟩
        rw [itemTokens, hitem, List.cons_append, List.cons_append]
  obtain ⟨later, hlater⟩ := hitems
  rw [hlater, List.foldlM_cons, List.foldlM_cons, hfirst]

/-- The first entry of an object is read as the later ones are. -/
theorem foldlM_objectStart (entry : Option String × Json) (rest : List (Option String × Json))
    (more : List Token) (outer : List Frame) :
    (entryTokens (entry :: rest) ++ more).foldlM readToken (.objectStart outer) =
      (entryTokens (entry :: rest) ++ more).foldlM readToken (.key [] outer) := by
  cases rest <;> rfl

mutual

/-- **Where a value must come, its tokens are read as the value.** -/
theorem foldlM_tokens : ∀ (value : Json) (outer : List Frame),
    (tokens value).foldlM readToken (.value outer) = some (.after value outer)
  | null, _ => rfl
  | bool _, _ => rfl
  | number _, _ => rfl
  | string _, _ => rfl
  | array [], _ => rfl
  | array (item :: rest), outer => by
      have hitems := foldlM_itemTokens (item :: rest) (List.cons_ne_nil _ _) [] outer
      rw [tokens, List.cons_append, List.foldlM_cons]
      show (itemTokens (item :: rest) ++ [Token.closeArray]).foldlM readToken
        (.arrayStart outer) = _
      rw [foldlM_arrayStart, hitems, List.reverse_nil, List.nil_append]
  | object [], _ => rfl
  | object (entry :: rest), outer => by
      have hentries := foldlM_entryTokens (entry :: rest) (List.cons_ne_nil _ _) [] outer
      rw [tokens, List.cons_append, List.foldlM_cons]
      show (entryTokens (entry :: rest) ++ [Token.closeObject]).foldlM readToken
        (.objectStart outer) = _
      rw [foldlM_objectStart, hentries, List.reverse_nil, List.nil_append]

/-- The items of an array are read one after another, and the end of the array after the last one
puts them together. -/
theorem foldlM_itemTokens : ∀ (items : List Json), items ≠ [] → ∀ (done : List Json)
    (outer : List Frame),
    (itemTokens items ++ [Token.closeArray]).foldlM readToken (.value (.array done :: outer)) =
      some (.after (.array (done.reverse ++ items)) outer)
  | [], h, _, _ => absurd rfl h
  | [item], _, done, outer => by
      rw [itemTokens, List.foldlM_append, foldlM_tokens item]
      simp [readToken]
  | item :: more :: rest, _, done, outer => by
      have hmore := foldlM_itemTokens (more :: rest) (List.cons_ne_nil _ _) (item :: done) outer
      rw [itemTokens, List.append_assoc, List.foldlM_append, foldlM_tokens item]
      show (itemTokens (more :: rest) ++ [Token.closeArray]).foldlM readToken
        (.value (.array (item :: done) :: outer)) = _
      rw [hmore, List.reverse_cons, List.append_assoc, List.singleton_append]

/-- So are the entries of an object, from the key of the first one. -/
theorem foldlM_entryTokens : ∀ (entries : List (Option String × Json)), entries ≠ [] →
    ∀ (done : List (Option String × Json)) (outer : List Frame),
    (entryTokens entries ++ [Token.closeObject]).foldlM readToken (.key done outer) =
      some (.after (.object (done.reverse ++ entries)) outer)
  | [], h, _, _ => absurd rfl h
  | [(key, value)], _, done, outer => by
      show (tokens value ++ [Token.closeObject]).foldlM readToken
        (.value (.entry done key :: outer)) = _
      rw [List.foldlM_append, foldlM_tokens value]
      simp [readToken]
  | (key, value) :: more :: rest, _, done, outer => by
      have hmore :=
        foldlM_entryTokens (more :: rest) (List.cons_ne_nil _ _) ((key, value) :: done) outer
      show ((tokens value ++ .comma :: entryTokens (more :: rest)) ++
        [Token.closeObject]).foldlM readToken (.value (.entry done key :: outer)) = _
      rw [List.append_assoc, List.foldlM_append, foldlM_tokens value]
      show (entryTokens (more :: rest) ++ [Token.closeObject]).foldlM readToken
        (.key ((key, value) :: done) outer) = _
      rw [hmore, List.reverse_cons, List.append_assoc, List.singleton_append]

end

/-- **The tokens of a value are read as the value.** -/
theorem ofTokens?_tokens (value : Json) : ofTokens? (tokens value) = some value := by
  rw [ofTokens?, foldlM_tokens]
  rfl

end Tabletop.Json
