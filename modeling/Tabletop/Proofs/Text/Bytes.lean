import Mathlib.Algebra.Group.Nat.Defs
import Mathlib.Data.List.Lex
import Mathlib.Tactic.SplitIfs

/-!
# Tabletop.Proofs.Text.Bytes — texts are ordered as their bytes are

Texts are compared by code points. A file or another program may compare them by the bytes of their
UTF-8 form, and that is the same order. The bytes of a character are a leading byte, which tells how
many bytes follow, and continuation bytes of six bits each. The leading byte grows with the code
point; where two characters share it, they have as many continuation bytes, and these compare as the
digits of two numbers in base 64.
-/

namespace Tabletop.Text

/-- The bytes of a text in its UTF-8 form. -/
def bytes (text : String) : List UInt8 := text.toUTF8.data.toList

/-- The bytes of characters in their UTF-8 form. -/
def charsBytes (cs : List Char) : List UInt8 := cs.flatMap String.utf8EncodeChar

theorem bytes_eq (text : String) : bytes text = charsBytes text.toList := by
  have hutf8 : text.toUTF8 = text.toList.utf8Encode := String.utf8Encode_toList.symm
  rw [bytes, hutf8, List.utf8Encode, List.toList_data_toByteArray, charsBytes]

example : bytes "aé" = [0x61, 0xC3, 0xA9] := by decide

/-! ## The bytes of one character -/

/-- The leading byte of a code point. -/
def leading (n : Nat) : Nat :=
  if n ≤ 127 then n
  else if n ≤ 2047 then n / 64 + 192
  else if n ≤ 65535 then n / 4096 + 224
  else n / 262144 + 240

/-- How many continuation bytes a code point has. -/
def following (n : Nat) : Nat :=
  if n ≤ 127 then 0 else if n ≤ 2047 then 1 else if n ≤ 65535 then 2 else 3

/-- The lowest digits of a number in base 64 as continuation bytes, `count` of them. -/
def continuation : Nat → Nat → List UInt8
  | 0, _ => []
  | count + 1, n => UInt8.ofNat (n / 64 ^ count % 64 + 128) :: continuation count n

/-- There are no code points from 1114112 on. -/
theorem toNat_lt (c : Char) : c.toNat < 1114112 := by
  rcases c.valid with hvalid | ⟨-, hvalid⟩
  · exact Nat.lt_trans hvalid (by decide)
  · exact hvalid

/-- **A character is its leading byte and its continuation bytes.** -/
theorem utf8EncodeChar_eq (c : Char) :
    String.utf8EncodeChar c =
      UInt8.ofNat (leading c.toNat) :: continuation (following c.toNat) c.toNat := by
  have hc := toNat_lt c
  have hval : c.val.toNat = c.toNat := rfl
  simp only [String.utf8EncodeChar, leading, following, hval]
  -- The four lengths. A leading byte keeps only its own bits, which are all that there are.
  split_ifs
  · rfl
  · have hbits : c.toNat / 64 % 32 = c.toNat / 64 := by omega
    simp [continuation, hbits]
  · have hbits : c.toNat / 4096 % 16 = c.toNat / 4096 := by omega
    simp [continuation, hbits]
  · have hbits : c.toNat / 262144 % 8 = c.toNat / 262144 := by omega
    simp [continuation, hbits]

/-- The leading byte grows with the code point; code points that share it agree in all but the
digits of their continuation bytes. -/
theorem leading_lt_or {m n : Nat} (h : m < n) (hn : n < 1114112) :
    leading m < leading n ∨
      (leading m = leading n ∧ following m = following n ∧
        m / 64 ^ following m = n / 64 ^ following m) := by
  unfold leading following
  split_ifs <;> omega

theorem leading_lt {n : Nat} (hn : n < 1114112) : leading n < 256 := by
  unfold leading
  split_ifs <;> omega

/-! ## The order of bytes -/

/-- A number that fits a byte compares as a byte. -/
theorem ofNat_lt_ofNat {a b : Nat} (hb : b < 256) (h : a < b) : UInt8.ofNat a < UInt8.ofNat b := by
  rw [UInt8.lt_iff_toNat_lt, UInt8.toNat_ofNat', UInt8.toNat_ofNat']
  omega

/-- **Continuation bytes compare as the numbers that they are the digits of.** The induction is on
how many there are: where the first digits agree, the rest decides. -/
theorem continuation_append_lt {m n : Nat} (h : m < n) (count : Nat)
    (hhigh : m / 64 ^ count = n / 64 ^ count) (xs ys : List UInt8) :
    continuation count m ++ xs < continuation count n ++ ys := by
  induction count with
  | zero =>
      rw [Nat.pow_zero, Nat.div_one, Nat.div_one] at hhigh
      omega
  | succ count ih =>
      rw [continuation, continuation, List.cons_append, List.cons_append, List.cons_lt_cons_iff]
      rw [Nat.pow_succ, ← Nat.div_div_eq_div_mul, ← Nat.div_div_eq_div_mul] at hhigh
      have hle : m / 64 ^ count ≤ n / 64 ^ count := Nat.div_le_div_right (Nat.le_of_lt h)
      rcases Nat.eq_or_lt_of_le hle with heq | hlt
      · exact .inr ⟨by rw [heq], ih heq⟩
      · exact .inl (ofNat_lt_ofNat (by omega) (by omega))

/-- A character with the smaller code point has the smaller bytes, whatever follows. -/
theorem utf8EncodeChar_append_lt {c d : Char} (h : c < d) (xs ys : List UInt8) :
    String.utf8EncodeChar c ++ xs < String.utf8EncodeChar d ++ ys := by
  have hlt : c.toNat < d.toNat := UInt32.lt_iff_toNat_lt.mp h
  have hd := toNat_lt d
  rw [utf8EncodeChar_eq, utf8EncodeChar_eq, List.cons_append, List.cons_append,
    List.cons_lt_cons_iff]
  rcases leading_lt_or hlt hd with hlead | ⟨hlead, hfollow, hhigh⟩
  · exact .inl (ofNat_lt_ofNat (leading_lt hd) hlead)
  · refine .inr ⟨by rw [hlead], ?_⟩
    rw [← hfollow]
    exact continuation_append_lt hlt _ hhigh xs ys

/-- **Smaller texts have smaller bytes.** The induction is on the first difference. -/
theorem charsBytes_lt {cs ds : List Char} (h : cs < ds) : charsBytes cs < charsBytes ds := by
  induction h with
  | nil =>
      rw [charsBytes, charsBytes, List.flatMap_nil, List.flatMap_cons, utf8EncodeChar_eq,
        List.cons_append]
      exact List.nil_lt_cons _ _
  | rel hlt => exact utf8EncodeChar_append_lt hlt _ _
  | cons _ ih => exact List.Lex.append_left _ ih _

/-- **The order of texts is the order of their bytes.** -/
theorem lt_iff_bytes_lt (a b : String) : a < b ↔ bytes a < bytes b := by
  have hmono : ∀ {a b : String}, a < b → bytes a < bytes b := fun {a b} h => by
    rw [bytes_eq, bytes_eq]
    exact charsBytes_lt (String.lt_iff.mp h)
  refine ⟨hmono, fun h => ?_⟩
  rcases Std.lt_trichotomy a b with hlt | rfl | hgt
  · exact hlt
  · exact absurd h (List.lt_irrefl _)
  · exact absurd h (List.lt_asymm (hmono hgt))

end Tabletop.Text
