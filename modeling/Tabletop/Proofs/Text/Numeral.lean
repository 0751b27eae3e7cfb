import Mathlib.Data.List.DropRight
import Tabletop.Text.Numeral

/-!
# Tabletop.Proofs.Text.Numeral — numerals inside longer texts

A numeral that was written is a nonempty run of digits, without a leading zero unless it is the
numeral of zero, and reads back as the number it was written for, with its sign if it has one. Where
what follows a run of digits starts with no digit, the run is exactly what a greedy reader takes; so
there is one way only to cut a text into a numeral and what follows it.
-/

namespace Tabletop.Numeral

/-! ## Written numerals -/

theorem isDigit_of_mem_digits {n : Nat} {c : Char} (h : c ∈ digits n) : c.isDigit = true :=
  Nat.isDigit_of_mem_toDigits (by decide) (by decide) h

theorem ne_of_isDigit {c d : Char} (h : c.isDigit = true) (hd : d.isDigit = false) : c ≠ d := by
  rintro rfl
  exact absurd h (by simp [hd])

theorem notMem_digits {c : Char} (h : c.isDigit = false) (n : Nat) : c ∉ digits n := fun hc =>
  ne_of_isDigit (isDigit_of_mem_digits hc) h rfl

/-- A signed numeral holds digits and, if anything else, a minus sign. -/
theorem notMem_signed {c : Char} (h : c.isDigit = false) (hminus : c ≠ '-') (n : Int) :
    c ∉ signed n := by
  unfold signed
  split
  · rw [List.mem_cons, not_or]
    exact ⟨hminus, notMem_digits h _⟩
  · exact notMem_digits h _

theorem digits_ne_nil (n : Nat) : digits n ≠ [] := Nat.toDigits_ne_nil

/-- A numeral starts with a digit, and goes on with digits. -/
theorem exists_digits_eq_cons (n : Nat) :
    ∃ c rest, digits n = c :: rest ∧ c.isDigit = true ∧ ∀ d ∈ rest, d.isDigit = true := by
  obtain ⟨c, rest, hdigits⟩ := List.exists_cons_of_ne_nil (digits_ne_nil n)
  have hall : ∀ d ∈ c :: rest, d.isDigit = true := fun d hd => isDigit_of_mem_digits (hdigits ▸ hd)
  exact ⟨c, rest, hdigits, List.forall_mem_cons.mp hall⟩

theorem digits_zero : digits 0 = ['0'] := Nat.toDigits_zero 10

/-- Of the ten digits only the first is a zero. -/
theorem digitChar_ne_zero : ∀ d < 10, d ≠ 0 → Nat.digitChar d ≠ '0' := by decide

/-- **No numeral but that of zero starts with a zero.** -/
theorem head?_digits_ne_zero {n : Nat} (h : n ≠ 0) : (digits n).head? ≠ some '0' := by
  induction n using Nat.strongRecOn with
  | _ n ih =>
      by_cases hn : n < 10
      · rw [digits, Nat.toDigits_of_lt_base hn]
        simpa using digitChar_ne_zero n hn h
      · have hsplit : digits n = digits (n / 10) ++ [(n % 10).digitChar] :=
          Nat.toDigits_of_base_le (by decide) (by omega)
        rw [hsplit, List.head?_append_of_ne_nil _ (digits_ne_nil (n / 10))]
        exact ih (n / 10) (by omega) (by omega)

/-! ## Reading written numerals -/

theorem plain?_digits (n : Nat) : plain? (digits n) = some n := by
  have hall : (digits n).all Char.isDigit = true :=
    List.all_eq_true.mpr fun c hc => isDigit_of_mem_digits hc
  simp [plain?, hall, digits_ne_nil, value_digits]

/-- A numeral without a sign is read as the number that it was written for: it starts with a digit,
so it is not taken for one with a sign. -/
theorem natural?_digits (n : Nat) : natural? (digits n) = some n := by
  obtain ⟨c, rest, hdigits, hdigit, -⟩ := exists_digits_eq_cons n
  have hplus : c ≠ '+' := ne_of_isDigit hdigit rfl
  rw [hdigits, natural?, ← hdigits, plain?_digits]
  exact fun rest' hcons => hplus (List.cons.inj hcons).1

theorem integer?_digits (n : Nat) : integer? (digits n) = some (n : Int) := by
  obtain ⟨c, rest, hdigits, hdigit, -⟩ := exists_digits_eq_cons n
  have hminus : c ≠ '-' := ne_of_isDigit hdigit rfl
  rw [hdigits, integer?, ← hdigits, natural?_digits]
  · rfl
  · exact fun rest' hcons => hminus (List.cons.inj hcons).1

/-- **A numeral with its sign is read as the integer that it was written for.** -/
theorem integer?_signed (n : Int) : integer? (signed n) = some n := by
  unfold signed
  split
  · rename_i hneg
    have hvalue : -((n.natAbs : Nat) : Int) = n := by omega
    rw [integer?, plain?_digits]
    exact congrArg some hvalue
  · rename_i hpos
    rw [integer?_digits]
    exact congrArg some (Int.natAbs_of_nonneg (Int.not_lt.mp hpos))

/-! ## Numerals as texts -/

theorem toList_toString (n : Nat) : (toString n).toList = digits n := by
  rw [Nat.toString_eq_repr, Nat.toList_repr]
  rfl

/-- The numeral of an integer is its decimal text. -/
theorem ofList_signed (n : Int) : String.ofList (signed n) = toString n := by
  rw [← String.toList_inj, String.toList_ofList]
  cases n with
  | ofNat n =>
      have hpos : ¬Int.ofNat n < 0 := Int.not_lt.mpr (Int.natCast_nonneg n)
      rw [signed, if_neg hpos]
      exact (toList_toString n).symm
  | negSucc n =>
      rw [signed, if_pos (Int.negSucc_lt_zero n)]
      show _ = ("-" ++ toString (n + 1)).toList
      rw [String.toList_append, toList_toString]
      rfl

/-! ## Runs of digits -/

/-- The text starts with no digit, so that a run of digits in front of it ends there. -/
def EndsRun (cs : List Char) : Prop := ∀ c ∈ cs.head?, c.isDigit = false

theorem endsRun_nil : EndsRun [] := by simp [EndsRun]

theorem endsRun_cons {c : Char} {cs : List Char} (h : c.isDigit = false) : EndsRun (c :: cs) := by
  simpa [EndsRun] using h

theorem EndsRun.takeWhile_eq_nil {cs : List Char} (h : EndsRun cs) :
    cs.takeWhile Char.isDigit = [] := by
  cases cs with
  | nil => rfl
  | cons c cs => exact List.takeWhile_cons_of_neg (by simp [h c rfl])

/-- **What follows a run does not lengthen it**, if it starts with no digit. -/
theorem takeWhile_isDigit_append (cs : List Char) {rest : List Char} (h : EndsRun rest) :
    (cs ++ rest).takeWhile Char.isDigit = cs.takeWhile Char.isDigit := by
  rw [List.takeWhile_append]
  split
  · rename_i hlength
    rw [h.takeWhile_eq_nil, List.append_nil]
    exact ((List.takeWhile_prefix _).eq_of_length hlength).symm
  · rfl

/-- What starts with no digit is no text that starts with a numeral. -/
theorem EndsRun.ne_digits_append {cs : List Char} (h : EndsRun cs) (n : Nat) (rest : List Char) :
    cs ≠ digits n ++ rest := by
  obtain ⟨c, ds, hdigits, hdigit, -⟩ := exists_digits_eq_cons n
  rintro rfl
  have hfirst : c.isDigit = false := h c (by rw [hdigits]; rfl)
  exact ne_of_isDigit hdigit hfirst rfl

theorem takeWhile_digits_append (n : Nat) {rest : List Char} (h : EndsRun rest) :
    (digits n ++ rest).takeWhile Char.isDigit = digits n := by
  rw [takeWhile_isDigit_append (digits n) h]
  exact List.takeWhile_eq_self_iff.mpr fun _ hc => isDigit_of_mem_digits hc

/-- **A numeral is cut off in one way** from what follows it, if that starts with no digit. -/
theorem digits_append_inj {n m : Nat} {cs ds : List Char} (hcs : EndsRun cs) (hds : EndsRun ds)
    (h : digits n ++ cs = digits m ++ ds) : n = m ∧ cs = ds := by
  have hdigits : digits n = digits m := by
    rw [← takeWhile_digits_append n hcs, h, takeWhile_digits_append m hds]
  constructor
  · rw [← value_digits n, hdigits, value_digits]
  · rw [hdigits] at h
    exact List.append_cancel_left h

/-- Leaving out the digits at the front is dropping as many characters. -/
theorem dropWhile_isDigit (cs : List Char) :
    cs.dropWhile Char.isDigit = cs.drop (cs.takeWhile Char.isDigit).length := by
  conv => rhs; arg 2; rw [← List.takeWhile_append_dropWhile (p := Char.isDigit) (l := cs)]
  rw [List.drop_left]

/-- The run of digits that a text ends in is the whole text, or that of the text without its first
character. -/
theorem rtakeWhile_isDigit_cons (c : Char) (cs : List Char) :
    (c :: cs).rtakeWhile Char.isDigit =
      if (c :: cs).all Char.isDigit then c :: cs else cs.rtakeWhile Char.isDigit := by
  split
  · rename_i hall
    exact List.rtakeWhile_eq_self_iff.mpr (List.all_eq_true.mp hall)
  · rename_i hall
    have hrun : (cs.reverse ++ [c]).takeWhile Char.isDigit = cs.reverse.takeWhile Char.isDigit := by
      rw [List.takeWhile_append]
      split
      · rename_i hlength
        have hself := (List.takeWhile_prefix Char.isDigit).eq_of_length hlength
        have hdigits : ∀ d ∈ cs, d.isDigit = true := fun d hd =>
          List.takeWhile_eq_self_iff.mp hself d (List.mem_reverse.mpr hd)
        have hc : ¬c.isDigit = true := fun hc =>
          hall (List.all_eq_true.mpr (List.forall_mem_cons.mpr ⟨hc, hdigits⟩))
        rw [List.takeWhile_cons_of_neg hc, List.append_nil, hself]
      · rfl
    rw [List.rtakeWhile, List.reverse_cons, hrun, List.rtakeWhile]

end Tabletop.Numeral
