import Tabletop.Json.Record
import Tabletop.Proofs.Json.RoundTrip

/-!
# Tabletop.Proofs.Json.Record — values that keep their JSON form

A value is *kept* by its JSON form if the form can be written and stands for the value; it then
comes back from its text. Numbers, texts and lists of kept values are kept. A record is kept if it
is read from its own fields: the fields are found again whatever they are, as long as their names
differ, so for each kind of record only the reader of the fields is left to be looked at.
-/

namespace Tabletop

namespace Serial

variable {α : Type} [Serial α]

/-- The JSON form of a value can be written and stands for the value. -/
structure Kept (a : α) : Prop where
  writable : (encode a).Writable
  decode?_encode : decode? (encode a) = some a

/-- **A kept value comes back from its text.** -/
theorem Kept.parse?_render {a : α} (h : Kept a) : parse? (render a) = some a := by
  rw [parse?, render, h.writable.parse?_render, Option.bind_some, h.decode?_encode]

end Serial

/-- A type all of whose values are kept by their JSON forms. -/
class LawfulSerial (α : Type) [Serial α] : Prop where
  kept (a : α) : Serial.Kept a

namespace Serial

variable {α : Type} [Serial α] [LawfulSerial α]

@[simp] theorem writable_encode (a : α) : (encode a).Writable := (LawfulSerial.kept a).writable

@[simp] theorem decode?_encode (a : α) : decode? (encode a) = some a :=
  (LawfulSerial.kept a).decode?_encode

/-- **Every value of such a type comes back from its text.** -/
theorem parse?_render (a : α) : parse? (render a) = some a := (LawfulSerial.kept a).parse?_render

end Serial

namespace Json

/-! ## Numbers -/

/-- **A numeral with its sign is read as the integer that it was written for.** -/
theorem integer?_ofInt (n : Int) : (ofInt n).integer? = some n := by
  unfold ofInt Numeral.signed
  split
  · rename_i hneg
    -- Only zero has no form with a minus sign.
    obtain ⟨m, hm⟩ : ∃ m, n.natAbs = m + 1 := Nat.exists_eq_succ_of_ne_zero (by omega)
    simp only [integer?, Numeral.plain?_digits, hm, Option.some.injEq]
    omega
  · rename_i hpos
    -- A numeral starts with a digit, so it is not taken for one with a sign.
    obtain ⟨c, rest, hdigits, hdigit, -⟩ := Numeral.exists_digits_eq_cons n.natAbs
    have hplain : Numeral.plain? (c :: rest) = some n.natAbs :=
      hdigits ▸ Numeral.plain?_digits n.natAbs
    have hminus : c ≠ '-' := Numeral.ne_of_isDigit hdigit rfl
    have hvalue : ((n.natAbs : Nat) : Int) = n := Int.natAbs_of_nonneg (Int.not_lt.mp hpos)
    rw [hdigits, integer?, hplain]
    · exact congrArg some hvalue
    · exact fun rest' hcons => hminus (List.cons.inj hcons).1

theorem ofNat_eq_ofInt (n : Nat) : ofNat n = ofInt n := by
  have hsigned : Numeral.signed n = Numeral.digits n := if_neg (by omega)
  rw [ofNat, ofInt, hsigned]

/-- **An integer is read where it lies in the range.** -/
theorem between?_ofInt {n least greatest : Int} (hleast : least ≤ n) (hgreatest : n ≤ greatest) :
    (ofInt n).between? least greatest = some n := by
  rw [between?, integer?_ofInt]
  exact if_pos ⟨hleast, hgreatest⟩

/-! ## Lists -/

/-- **Items that come back one by one come back as a list.** -/
theorem mapM_map_eq_some {α β : Type} {read : β → Option α} {write : α → β} {as : List α}
    (hread : ∀ a ∈ as, read (write a) = some a) : (as.map write).mapM read = some as := by
  induction as with
  | nil => rfl
  | cons a as ih =>
      obtain ⟨ha, has⟩ := List.forall_mem_cons.mp hread
      simp [ha, ih has]

/-! ## Records -/

theorem keyed?_map (fields : Record) :
    keyed? (fields.map fun field => (some field.1, field.2)) = some fields := by
  induction fields with
  | nil => rfl
  | cons field rest ih =>
      rw [List.map_cons, keyed?, ih]
      rfl

theorem namesDiffer_of_nodup {fields : Record} (h : (fields.map Prod.fst).Nodup) :
    namesDiffer fields = true := by
  induction fields with
  | nil => rfl
  | cons field rest ih =>
      obtain ⟨name, value⟩ := field
      rw [List.map_cons, List.nodup_cons] at h
      have hfresh : (rest.any fun field => field.1 == name) = false := by
        refine List.any_eq_false.mpr fun field hfield hname => h.1 ?_
        exact List.mem_map.mpr ⟨field, hfield, beq_iff_eq.mp hname⟩
      rw [namesDiffer, hfresh, ih h.2]
      rfl

/-- **A record is made of the fields it was written with.** -/
theorem record?_ofEntries {fields : Record} {names : List String}
    (hnames : fields.map Prod.fst = names) (hdiffer : names.Nodup) :
    (ofEntries fields).record? names = some fields := by
  subst hnames
  have hall : (fields.filter fun entry => (fields.map Prod.fst).contains entry.1) = fields := by
    refine List.filter_eq_self.mpr fun field hfield => ?_
    rw [List.contains_iff_mem]
    exact List.mem_map.mpr ⟨field, hfield, rfl⟩
  simp only [ofEntries, record?, keyed?_map, Option.bind_eq_bind, Option.bind_some, hall,
    namesDiffer_of_nodup hdiffer, if_true]

section Field

variable {α : Type} [Serial α] (name key : String) (value : Json) (rest : Record)

@[simp] theorem Record.field?_cons :
    Record.field? ((key, value) :: rest) name =
      if name = key then (Serial.decode? value : Option α) else rest.field? name := by
  rw [Record.field?, List.lookup_cons]
  by_cases h : name = key
  · rw [if_pos h, beq_iff_eq.mpr h]
  · rw [if_neg h, beq_false_of_ne h, Record.field?]

@[simp] theorem Record.fieldOr?_cons (default : α) :
    Record.fieldOr? ((key, value) :: rest) name default =
      if name = key then Serial.decode? value else rest.fieldOr? name default := by
  rw [Record.fieldOr?, List.lookup_cons]
  by_cases h : name = key
  · rw [if_pos h, beq_iff_eq.mpr h]
  · rw [if_neg h, beq_false_of_ne h, Record.fieldOr?]

end Field

/-- What a field holds was read from a value. -/
theorem Record.exists_of_field?_eq_some {α : Type} [Serial α] {record : Record} {name : String}
    {a : α} (h : record.field? name = some a) : ∃ value, Serial.decode? value = some a := by
  unfold Record.field? at h
  split at h
  · exact ⟨_, h⟩
  · exact absurd h (by simp)

end Json

namespace Serial

/-- **A record is kept if it is read from its own fields.** -/
theorem kept_of_fields {α : Type} [Serial α] {a : α} {fields : Json.Record} {names : List String}
    {ofRecord? : Json.Record → Option α} (hencode : encode a = Json.ofEntries fields)
    (hdecode : ∀ value : Json,
      (decode? value : Option α) = (value.record? names).bind ofRecord?)
    (hnames : fields.map Prod.fst = names) (hdiffer : names.Nodup)
    (hwritable : ∀ field ∈ fields, field.2.Writable) (hread : ofRecord? fields = some a) :
    Kept a where
  writable := by
    rw [hencode]
    exact Json.writable_ofEntries hwritable
  decode?_encode := by
    rw [hdecode, hencode, Json.record?_ofEntries hnames hdiffer, Option.bind_some, hread]

/-- **A variant that carries a record is kept if it is read from its own fields.** -/
theorem kept_of_variant {α : Type} [Serial α] {a : α} {name : String} {fields : Json.Record}
    {names : List String} {ofRecord? : Json.Record → Option α}
    (hencode : encode a = Json.ofEntries [(name, Json.ofEntries fields)])
    (hdecode : ∀ contents : Json,
      (decode? (Json.ofEntries [(name, contents)]) : Option α) =
        (contents.record? names).bind ofRecord?)
    (hnames : fields.map Prod.fst = names) (hdiffer : names.Nodup)
    (hwritable : ∀ field ∈ fields, field.2.Writable) (hread : ofRecord? fields = some a) :
    Kept a where
  writable := by
    rw [hencode]
    refine Json.writable_ofEntries fun entry hentry => ?_
    rw [List.mem_singleton.mp hentry]
    exact Json.writable_ofEntries hwritable
  decode?_encode := by
    rw [hencode, hdecode, Json.record?_ofEntries hnames hdiffer, Option.bind_some, hread]

end Serial

/-! ## Plain values -/

instance : LawfulSerial UInt32 where
  kept n :=
    { writable := Json.writable_ofNat n.toNat
      decode?_encode := by
        have hlt : n.toNat < UInt32.size := n.toNat_lt_size
        show ((Json.ofNat n.toNat).between? 0 (UInt32.size - 1)).map
          (fun m => UInt32.ofNat m.toNat) = some n
        rw [Json.ofNat_eq_ofInt, Json.between?_ofInt (by omega) (by omega), Option.map_some,
          Int.toNat_natCast, UInt32.ofNat_toNat] }

instance : LawfulSerial UInt64 where
  kept n :=
    { writable := Json.writable_ofNat n.toNat
      decode?_encode := by
        have hlt : n.toNat < UInt64.size := n.toNat_lt_size
        show ((Json.ofNat n.toNat).between? 0 (UInt64.size - 1)).map
          (fun m => UInt64.ofNat m.toNat) = some n
        rw [Json.ofNat_eq_ofInt, Json.between?_ofInt (by omega) (by omega), Option.map_some,
          Int.toNat_natCast, UInt64.ofNat_toNat] }

instance : LawfulSerial Int64 where
  kept n :=
    { writable := Json.writable_ofInt n.toInt
      decode?_encode := by
        show ((Json.ofInt n.toInt).between? Int64.minValue.toInt Int64.maxValue.toInt).map
          Int64.ofInt = some n
        rw [Json.between?_ofInt n.minValue_le_toInt n.toInt_le, Option.map_some,
          Int64.ofInt_toInt] }

instance : LawfulSerial String where
  kept text := { writable := Json.writable_ofText text, decode?_encode := rfl }

/-- **A list of kept values is kept.** -/
theorem Serial.kept_list {α : Type} [Serial α] {as : List α} (h : ∀ a ∈ as, Kept a) : Kept as where
  writable := by
    refine .array fun item hitem => ?_
    obtain ⟨a, ha, rfl⟩ := List.mem_map.mp hitem
    exact (h a ha).writable
  decode?_encode := Json.mapM_map_eq_some fun a ha => (h a ha).decode?_encode

instance {α : Type} [Serial α] [LawfulSerial α] : LawfulSerial (List α) where
  kept _ := Serial.kept_list fun a _ => LawfulSerial.kept a

end Tabletop
