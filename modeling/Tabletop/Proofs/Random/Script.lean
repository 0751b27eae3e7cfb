import Tabletop.Proofs.Random.Sampler
import Tabletop.Random.Script

/-!
# Tabletop.Proofs.Random.Script — scripts that steer a draw

Any two words can be the first two that a script hands out, any list of words can be what it hands
out before it starts over, and a script of a single word hands that word out for ever. So what a
draw can yield at all, and how often, is seen by running it on scripts.
-/

namespace Tabletop.Script

/-- The script of two words. -/
def ofPair (w : UInt64 × UInt64) : Script := ⟨#[w.1, w.2], 0, by simp⟩

/-- The script of one word. -/
def ofWord (word : UInt64) : Script := ⟨#[word], 0, by simp⟩

/-- The greatest word. -/
def greatestWord : UInt64 := 18446744073709551615

theorem toNat_greatestWord : greatestWord.toNat = UInt64.size - 1 := rfl

theorem opens_ofPair (w : UInt64 × UInt64) : Draw.Opens (ofPair w) w := ⟨rfl, rfl⟩

/-- The script of two words of 32 bits. -/
def ofPair32 (w : UInt32 × UInt32) : Script := ofPair (w.1.toUInt64, w.2.toUInt64)

theorem opens32_ofPair32 (w : UInt32 × UInt32) : Draw.Opens32 (ofPair32 w) w :=
  ⟨UInt32.toUInt32_toUInt64 w.1, UInt32.toUInt32_toUInt64 w.2⟩

/-! ## What a script has still to hand out -/

/-- The words that a script has not handed out yet, before it starts over. -/
def upcoming (s : Script) : List UInt64 := s.words.toList.drop s.position

/-- **The word at the front of what is still to come** is handed out next, and the others after
it. -/
theorem head_of_upcoming_eq_cons {s : Script} {word : UInt64} {more : List UInt64}
    (h : s.upcoming = word :: more) : s.head = word ∧ s.advance.upcoming = more := by
  have hlt : s.position < s.words.size := by
    rcases Nat.lt_or_ge s.position s.words.size with hlt | hge
    · exact hlt
    · have hnone : s.upcoming = [] := List.drop_eq_nil_of_le hge
      rw [hnone] at h
      cases h
  have hfront : s.upcoming = s.words.toList[s.position] :: s.advance.upcoming :=
    List.drop_eq_getElem_cons hlt
  rw [hfront] at h
  obtain ⟨hword, hmore⟩ := List.cons.inj h
  refine ⟨?_, hmore⟩
  rw [← hword]
  simp [head, Nat.mod_eq_of_lt hlt]

/-! ## Scripts of a single word -/

/-- Every word of a script of one word is that word. -/
theorem head_of_words_eq {s : Script} {word : UInt64} (h : s.words = #[word]) : s.head = word := by
  obtain ⟨words, position, hpos⟩ := s
  simp only at h
  subst h
  simp [head]

/-- A choice from a script of one word is made of that word twice over, and leaves the script one
word or two further on. -/
theorem below64_of_words_eq {s : Script} {word : UInt64} (h : s.words = #[word]) (r : ℕ) :
    (Draw.below64 r s).1 = Sampler.choice UInt64.size r word.toNat word.toNat ∧
      (Draw.below64 r s).2.words = #[word] := by
  have hnext : s.advance.words = #[word] := h
  have hopens : Draw.Opens s (word, word) := ⟨head_of_words_eq h, head_of_words_eq hnext⟩
  refine ⟨Draw.fst_below64 hopens r, ?_⟩
  rw [Draw.below64, Sampler.draw_eq]
  split
  · exact hnext
  · exact hnext

end Tabletop.Script
