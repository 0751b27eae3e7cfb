import Tabletop.Formula.Json
import Tabletop.Proofs.Dictionary
import Tabletop.Proofs.Formula.Chain
import Tabletop.Proofs.Json.Record

/-!
# Tabletop.Proofs.Formula.Fields — every JSON form of a formula builds it

Six fields can be told in many ways: by an object with its entries in any order, among entries of
other keys, or by an array; with fields left out where they have their defaults; and by any text
that spells the object or the array. All of them are read as the formula that the same six fields
build, the plain throw with the one clause put on it and then the other.

Reading looks fields up by their names. So the order of entries does not matter, other keys are
never asked for, and an array is an object with the names filled in. What is left is one list of
fields in their order, in which each of the last four may be missing.
-/

namespace Tabletop

/-! ## Fields of records -/

namespace Json

/-- A value holds a word: as a string, or as an object with the word as its only key and null in
it. -/
inductive HoldsWord (word : String) : Json → Prop
  | bare : HoldsWord word (ofText word)
  | keyed : HoldsWord word (ofEntries [(word, null)])

/-- The entries for one field: an entry that holds it, or none if it may be left out. -/
inductive Given (name : String) (Holds : Json → Prop) (MayMiss : Prop) : Record → Prop
  | here {value : Json} : Holds value → Given name Holds MayMiss [(name, value)]
  | leftOut : MayMiss → Given name Holds MayMiss []

section Given

variable {name : String} {Holds : Json → Prop} {MayMiss : Prop} {entries : Record}

theorem Given.map_fst_sublist (h : Given name Holds MayMiss entries) :
    (entries.map Prod.fst).Sublist [name] := by
  cases h with
  | here => exact List.Sublist.refl _
  | leftOut => exact List.nil_sublist _

variable {α : Type} [Serial α]

/-- Another field is looked up behind these entries. -/
theorem Given.fieldOr?_append_of_ne (h : Given name Holds MayMiss entries) {other : String}
    (hother : other ≠ name) (rest : Record) (default : α) :
    Record.fieldOr? (entries ++ rest) other default = rest.fieldOr? other default := by
  cases h with
  | here => rw [List.singleton_append, Record.fieldOr?_cons, if_neg hother]
  | leftOut => rfl

/-- **A field is read from its entries**, or has its default if there is none. -/
theorem Given.fieldOr?_append {a default : α} (h : Given name Holds (a = default) entries)
    (hdecode : ∀ value, Holds value → Serial.decode? value = some a) {rest : Record}
    (hrest : rest.fieldOr? name default = some default) :
    Record.fieldOr? (entries ++ rest) name default = some a := by
  cases h with
  | @here value hholds =>
      rw [List.singleton_append, Record.fieldOr?_cons, if_pos rfl, hdecode value hholds]
  | leftOut hmiss => rw [List.nil_append, hrest, hmiss]

/-- Where nothing follows, another field has its default. -/
theorem Given.fieldOr?_of_ne (h : Given name Holds MayMiss entries) {other : String}
    (hother : other ≠ name) (default : α) :
    Record.fieldOr? entries other default = some default := by
  rw [← List.append_nil entries, h.fieldOr?_append_of_ne hother]
  rfl

end Given

/-- **The fields of an object are those of its entries that have their names**, in some order. -/
theorem exists_record?_of_perm {entries fields extra : Record} {names : List String}
    (hperm : entries.Perm (fields ++ extra)) (hnames : (fields.map Prod.fst).Sublist names)
    (hdiffer : names.Nodup) (hextra : ∀ entry ∈ extra, entry.1 ∉ names) :
    ∃ record, (ofEntries entries).record? names = some record ∧ record.Perm fields := by
  have hfields : (fields.filter fun entry => names.contains entry.1) = fields := by
    refine List.filter_eq_self.mpr fun field hfield => ?_
    rw [List.contains_iff_mem]
    exact hnames.subset (List.mem_map.mpr ⟨field, hfield, rfl⟩)
  have hothers : (extra.filter fun entry => names.contains entry.1) = [] := by
    refine List.filter_eq_nil_iff.mpr fun entry hentry hcontains => ?_
    exact hextra entry hentry (List.contains_iff_mem.mp hcontains)
  have hknown : (entries.filter fun entry => names.contains entry.1).Perm fields := by
    have hfiltered := hperm.filter fun entry => names.contains entry.1
    rwa [List.filter_append, hfields, hothers, List.append_nil] at hfiltered
  have hnodup := ((hknown.map Prod.fst).nodup_iff).mpr (hdiffer.sublist hnames)
  refine ⟨_, ?_, hknown⟩
  simp only [ofEntries, record?, keyed?_map, Option.bind_eq_bind, Option.bind_some,
    namesDiffer_of_nodup hnodup, if_true]

end Json

/-! ## Words and numbers -/

/-- The word of a scaling. -/
def Scaling.word : Scaling → String
  | multiply => "Multiply"
  | divide => "Divide"

/-- The word of a sign. -/
def Sign.word : Sign → String
  | plus => "Plus"
  | minus => "Minus"

theorem Scaling.decode?_of_holdsWord {scaling : Scaling} {value : Json}
    (h : value.HoldsWord scaling.word) : Serial.decode? value = some scaling := by
  cases h with
  | bare => cases scaling <;> rfl
  | keyed => cases scaling <;> rfl

theorem Sign.decode?_of_holdsWord {sign : Sign} {value : Json} (h : value.HoldsWord sign.word) :
    Serial.decode? value = some sign := by
  cases h with
  | bare => cases sign <;> rfl
  | keyed => cases sign <;> rfl

namespace Formula

/-! ## The forms of six fields -/

open Json (Given HoldsWord)

/-- The fields in their order, any of the last four left out where it has its default. They may
hold anything; no formula needs to have such fields. -/
inductive InOrder (fields : Formula) : Json.Record → Prop
  | mk {scaling factor sign amount : Json.Record} :
      Given "multiplier_op" (HoldsWord fields.scaling.word) (fields.scaling = .multiply) scaling →
      Given "multiplier" (· = .ofNat fields.factor.toNat) (fields.factor = 1) factor →
      Given "modifier_sign" (HoldsWord fields.sign.word) (fields.sign = .plus) sign →
      Given "modifier" (· = .ofNat fields.amount.toNat) (fields.amount = 0) amount →
      InOrder fields (("count", .ofNat fields.count.toNat) ::
        ("sides", .ofNat fields.sides.toNat) :: (scaling ++ (factor ++ (sign ++ amount))))

/-- **The JSON forms of six fields**: an object that has them among entries of other keys, or an
array of them that is cut where nothing but defaults follows. -/
inductive Told (fields : Formula) : Json → Prop
  | object {entries inOrder extra : Json.Record} : InOrder fields inOrder →
      (∀ entry ∈ extra, entry.1 ∉ fieldNames) → entries.Perm (inOrder ++ extra) →
      Told fields (.ofEntries entries)
  | array {scaling sign : Json} {cut : ℕ} : HoldsWord fields.scaling.word scaling →
      HoldsWord fields.sign.word sign → 2 ≤ cut → (cut ≤ 2 → fields.scaling = .multiply) →
      (cut ≤ 3 → fields.factor = 1) → (cut ≤ 4 → fields.sign = .plus) →
      (cut ≤ 5 → fields.amount = 0) →
      Told fields (.array ([.ofNat fields.count.toNat, .ofNat fields.sides.toNat, scaling,
        .ofNat fields.factor.toNat, sign, .ofNat fields.amount.toNat].take cut))

variable {fields : Formula}

theorem InOrder.map_fst_sublist {record : Json.Record} (h : fields.InOrder record) :
    (record.map Prod.fst).Sublist fieldNames := by
  cases h with
  | mk hscaling hfactor hsign hamount =>
      simp only [List.map_cons, List.map_append]
      exact ((hscaling.map_fst_sublist.append (hfactor.map_fst_sublist.append
        (hsign.map_fst_sublist.append hamount.map_fst_sublist))).cons_cons _).cons_cons _

/-- Filling in all parts at once is putting the two clauses on, whatever they hold. -/
theorem normalized_eq_put_put (fields : Formula) :
    Formula.normalized
        { count := Dice.clampCount fields.count, sides := Dice.clampSides fields.sides,
          scaling := fields.scaling, factor := max fields.factor 1,
          sign := fields.sign, amount := fields.amount } =
      ((dice fields.count fields.sides).put fields.scaleClause).put fields.shiftClause := by
  have hfactor := Dice.bound_le_max fields.factor 1
  have hscale : (dice fields.count fields.sides).scaleBy fields.scaling (max fields.factor 1) =
      (dice fields.count fields.sides).scaleBy fields.scaling fields.factor := by
    rw [scaleBy, Dice.max_bound_of_le hfactor]
    rfl
  rw [normalized_eq_build _ _ _ hfactor, hscale, put_scaleClause, put_shiftClause]

/-- **The fields in their order build what the clauses do.** -/
theorem InOrder.ofRecord?_eq {record : Json.Record} (h : fields.InOrder record) :
    ofRecord? record =
      some (((dice fields.count fields.sides).put fields.scaleClause).put fields.shiftClause) := by
  cases h with
  | @mk scaling factor sign amount hscaling hfactor hsign hamount =>
      have hnumber : ∀ n : UInt32, ∀ value : Json, value = .ofNat n.toNat →
          Serial.decode? value = some n := by
        rintro n value rfl
        exact Serial.decode?_encode n
      -- Each of the last four is read from its own entries: no others have its name.
      have hreadScaling : Json.Record.fieldOr? (scaling ++ (factor ++ (sign ++ amount)))
          "multiplier_op" Scaling.multiply = some fields.scaling := by
        refine hscaling.fieldOr?_append (fun _ => Scaling.decode?_of_holdsWord) ?_
        rw [hfactor.fieldOr?_append_of_ne (by decide), hsign.fieldOr?_append_of_ne (by decide),
          hamount.fieldOr?_of_ne (by decide)]
      have hreadFactor : Json.Record.fieldOr? (scaling ++ (factor ++ (sign ++ amount)))
          "multiplier" 1 = some fields.factor := by
        rw [hscaling.fieldOr?_append_of_ne (by decide)]
        refine hfactor.fieldOr?_append (hnumber _) ?_
        rw [hsign.fieldOr?_append_of_ne (by decide), hamount.fieldOr?_of_ne (by decide)]
      have hreadSign : Json.Record.fieldOr? (scaling ++ (factor ++ (sign ++ amount)))
          "modifier_sign" Sign.plus = some fields.sign := by
        rw [hscaling.fieldOr?_append_of_ne (by decide), hfactor.fieldOr?_append_of_ne (by decide)]
        refine hsign.fieldOr?_append (fun _ => Sign.decode?_of_holdsWord) ?_
        rw [hamount.fieldOr?_of_ne (by decide)]
      have hreadAmount : Json.Record.fieldOr? (scaling ++ (factor ++ (sign ++ amount)))
          "modifier" 0 = some fields.amount := by
        rw [hscaling.fieldOr?_append_of_ne (by decide), hfactor.fieldOr?_append_of_ne (by decide),
          hsign.fieldOr?_append_of_ne (by decide), ← List.append_nil amount]
        exact hamount.fieldOr?_append (hnumber _) rfl
      rw [← normalized_eq_put_put]
      simp [ofRecord?, hreadScaling, hreadFactor, hreadSign, hreadAmount, hnumber _ _ rfl]

/-- Only what the fields look up matters. -/
theorem ofRecord?_eq_of_perm {record other : Json.Record} (h : record.Perm other)
    (hdiffer : (record.map Prod.fst).Nodup) : ofRecord? record = ofRecord? other := by
  have hlookup := Dictionary.lookup_eq_of_perm h hdiffer
  simp only [ofRecord?, Json.Record.field?, Json.Record.fieldOr?, hlookup]

/-- **The fields before a cut are in their order**, and what is cut off has its default. -/
theorem inOrder_zip_take {scaling sign : Json} (hscaling : scaling.HoldsWord fields.scaling.word)
    (hsign : sign.HoldsWord fields.sign.word) {cut : ℕ} (hcut : 2 ≤ cut)
    (hnoScaling : cut ≤ 2 → fields.scaling = .multiply) (hnoFactor : cut ≤ 3 → fields.factor = 1)
    (hnoSign : cut ≤ 4 → fields.sign = .plus) (hnoAmount : cut ≤ 5 → fields.amount = 0) :
    fields.InOrder (fieldNames.zip ([.ofNat fields.count.toNat, .ofNat fields.sides.toNat, scaling,
      .ofNat fields.factor.toNat, sign, .ofNat fields.amount.toNat].take cut)) := by
  obtain rfl | rfl | rfl | rfl | hwhole :
      cut = 2 ∨ cut = 3 ∨ cut = 4 ∨ cut = 5 ∨ 6 ≤ cut := by omega
  · exact InOrder.mk (.leftOut (hnoScaling (by omega))) (.leftOut (hnoFactor (by omega)))
      (.leftOut (hnoSign (by omega))) (.leftOut (hnoAmount (by omega)))
  · exact InOrder.mk (.here hscaling) (.leftOut (hnoFactor (by omega)))
      (.leftOut (hnoSign (by omega))) (.leftOut (hnoAmount (by omega)))
  · exact InOrder.mk (.here hscaling) (.here rfl)
      (.leftOut (hnoSign (by omega))) (.leftOut (hnoAmount (by omega)))
  · exact InOrder.mk (.here hscaling) (.here rfl) (.here hsign) (.leftOut (hnoAmount (by omega)))
  · rw [List.take_of_length_le hwhole]
    exact InOrder.mk (.here hscaling) (.here rfl) (.here hsign) (.here rfl)

/-- **Each form of six fields is a record of them**, in some order. -/
theorem Told.exists_record? {value : Json} (h : fields.Told value) :
    ∃ record inOrder, value.record? fieldNames = some record ∧ record.Perm inOrder ∧
      fields.InOrder inOrder := by
  cases h with
  | @object entries inOrder extra hinOrder hextra hperm =>
      obtain ⟨record, hrecord, hsame⟩ := Json.exists_record?_of_perm hperm
        hinOrder.map_fst_sublist (by decide) hextra
      exact ⟨record, inOrder, hrecord, hsame, hinOrder⟩
  | @array scaling sign cut hscaling hsign hcut hnoScaling hnoFactor hnoSign hnoAmount =>
      have hinOrder := inOrder_zip_take hscaling hsign hcut hnoScaling hnoFactor hnoSign hnoAmount
      refine ⟨_, _, ?_, List.Perm.refl _, hinOrder⟩
      rw [Json.record?]
      exact if_pos (List.length_take_le' cut _)

/-- **Every JSON form of six fields builds them.** -/
theorem Told.decode?_eq {value : Json} (h : fields.Told value) :
    Serial.decode? value =
      some (((dice fields.count fields.sides).put fields.scaleClause).put fields.shiftClause) := by
  obtain ⟨record, inOrder, hrecord, hperm, hinOrder⟩ := h.exists_record?
  have hdiffer : (record.map Prod.fst).Nodup :=
    (hperm.map Prod.fst).nodup_iff.mpr
      (List.Nodup.sublist hinOrder.map_fst_sublist (by decide))
  show (value.record? fieldNames).bind ofRecord? = _
  rw [hrecord, Option.bind_some, ofRecord?_eq_of_perm hperm hdiffer, hinOrder.ofRecord?_eq]

/-- **Every text of a formula builds it.** Let a text spell, with any blanks and escapes, an object
or an array that tells six fields: in any order and among entries of other keys, or cut behind the
last field that differs from its default. It is read as the plain throw with the scaling and then
the shift put on it. -/
theorem parse?_of_told {text : String} {value : Json} (hspells : Json.Spells text.toList value)
    (htold : fields.Told value) :
    Serial.parse? text =
      some (((dice fields.count fields.sides).put fields.scaleClause).put fields.shiftClause) := by
  rw [Serial.parse?, hspells.parse?_eq, Option.bind_some, htold.decode?_eq]

/-- Six fields that no formula has, for it would throw one die at least. -/
def noDice : Formula :=
  { count := 0, sides := 6, scaling := .multiply, factor := 3, sign := .plus, amount := 4 }

/-- The two words are left out. -/
def noDiceFields : Json.Record :=
  [("count", .ofNat 0), ("sides", .ofNat 6), ("multiplier", .ofNat 3), ("modifier", .ofNat 4)]

/-- Nobody asks for a note, so it may hold a number too large to read and half of a pair. -/
def noDiceNote : Json.Record := [("note", .array [.number "1e999".toList, .string none])]

/-- The entries are told backwards, the note among them. -/
def noDiceText : String :=
  "\x7b\"note\":[1e999,\"\\ud800\"],\t\"modifier\" :4,\"multiplier\":3, \"sides\":6,\"count\":0\x7d"

theorem parse?_of_told_backwards :
    Json.Spells noDiceText.toList (.ofEntries (noDiceFields ++ noDiceNote).reverse) ∧
      noDice.Told (.ofEntries (noDiceFields ++ noDiceNote).reverse) ∧
      Serial.parse? noDiceText = some (((dice 0 6).put (.times 3)).put (.plus 4)) := by
  have hlarge : Json.SpellsNumber "1e999".toList :=
    .plain (.digits rfl (by decide) (List.forall_mem_nil _)) .missing
      (.digits (.inl rfl) ⟨by decide, List.all_eq_true.mp rfl⟩)
  have hhalf : Json.SpellsPieces ("\\ud800".toList ++ []) [.ofUnit 0xd800] :=
    .cons (@Json.SpellsPiece.unit 'd' '8' '0' '0' 13 8 0 0 rfl rfl rfl rfl) .nil
  have hnote := Json.Spells.array (.more (.number hlarge) (.last (.string hhalf)))
  have hnumber (n : ℕ) : Json.Spells _ (.ofNat n) := .number (Json.spellsNumber_signed n)
  -- Blanks stand around two of the keys.
  have hmodifier := @Json.Spells.surrounded ['\t'] _ [' '] _ rfl rfl
    (Json.spells_writeString "modifier")
  have hsides := @Json.Spells.surrounded [' '] _ [] _ rfl rfl (Json.spells_writeString "sides")
  have hentries := Json.SpellsEntries.more (Json.spells_writeString "note") hnote
    (.more hmodifier (hnumber 4)
      (.more (Json.spells_writeString "multiplier") (hnumber 3)
        (.more hsides (hnumber 6) (.last (Json.spells_writeString "count") (hnumber 0)))))
  have hspells : Json.Spells noDiceText.toList
      (.ofEntries (noDiceFields ++ noDiceNote).reverse) := by
    rw [noDiceText, String.toList_ofList]
    exact .object hentries
  have hinOrder : noDice.InOrder noDiceFields :=
    .mk (.leftOut rfl) (.here rfl) (.leftOut rfl) (.here rfl)
  have hextra : ∀ entry ∈ noDiceNote, entry.1 ∉ fieldNames := by
    intro entry hentry
    rw [List.mem_singleton.mp hentry]
    decide
  have htold : noDice.Told (.ofEntries (noDiceFields ++ noDiceNote).reverse) :=
    .object hinOrder hextra (List.reverse_perm _)
  exact ⟨hspells, htold, parse?_of_told hspells htold⟩

end Formula

end Tabletop
