import Tabletop.Chance
import Tabletop.Proofs.Text.Keyword

/-!
# Tabletop.Proofs.Chance.Scale — the nine words for a scale

A scale is asked for by its name, its sign or its number. The text is trimmed and lowered before it
is compared with the words, and the words are keywords: a text lowers to one of them exactly if it
is that word up to the case of letters of ASCII. So these nine are all the words there are, in
whatever capitals, and no text with another letter in place of one of theirs is among them.
-/

namespace Tabletop.ChanceScale

open Text (EqUpToCase isKeyword lowercase trim)

/-- The words that a scale is asked for by: its name, its sign and its number. -/
def words : ChanceScale → List String
  | percent => ["percent", "%", "100"]
  | permille => ["permille", "‰", "1000"]
  | permyriad => ["permyriad", "‱", "10000"]

theorem isKeyword_of_mem_words {scale : ChanceScale} :
    ∀ word ∈ scale.words, isKeyword word = true := by
  cases scale <;> exact List.all_eq_true.mp (by decide +kernel)

/-- The reader looks for the lowered text among the words. -/
theorem parse?_eq_some_iff_mem {name : String} {scale : ChanceScale} :
    parse? name = some scale ↔ lowercase (trim name) ∈ scale.words := by
  unfold parse?
  generalize lowercase (trim name) = text
  split
  case h_10 =>
    -- The text was none of the nine words, so no scale has it among its own.
    cases scale <;> simp_all [words]
  all_goals cases scale <;> decide

/-- **A scale is told by one of its words up to case.** -/
theorem parse?_eq_some_iff {name : String} {scale : ChanceScale} :
    parse? name = some scale ↔ ∃ word ∈ scale.words, EqUpToCase (trim name) word := by
  rw [parse?_eq_some_iff_mem]
  constructor
  · intro hmem
    exact ⟨_, hmem, (Text.lowercase_eq_iff (isKeyword_of_mem_words _ hmem) _).mp rfl⟩
  · rintro ⟨word, hmem, hequal⟩
    rwa [(Text.lowercase_eq_iff (isKeyword_of_mem_words word hmem) _).mpr hequal]

/-- **The nine words are all there is.** A text asks for a scale exactly if, without the blanks at
its ends, it is one of the scale's three words up to the case of letters of ASCII, and for none if
it is none of the nine. Beyond ASCII it holds nothing but the two signs, so no other letter stands
for one of the words' letters. -/
theorem parse?_accepts_words (name : String) :
    (∀ scale, parse? name = some scale ↔ ∃ word ∈ scale.words, EqUpToCase (trim name) word) ∧
      (parse? name = none ↔ ∀ scale, ∀ word ∈ words scale, ¬EqUpToCase (trim name) word) ∧
      ((parse? name).isSome = true →
        ∀ c ∈ (trim name).toList, c.toNat < 0x80 ∨ c = '‰' ∨ c = '‱') := by
  refine ⟨fun scale => parse?_eq_some_iff, ?_, ?_⟩
  · rw [Option.eq_none_iff_forall_ne_some]
    constructor
    · intro hnone scale word hmem hequal
      exact hnone scale (parse?_eq_some_iff.mpr ⟨word, hmem, hequal⟩)
    · intro hwords scale hscale
      obtain ⟨word, hmem, hequal⟩ := parse?_eq_some_iff.mp hscale
      exact hwords scale word hmem hequal
  · intro hsome
    obtain ⟨scale, hscale⟩ := Option.isSome_iff_exists.mp hsome
    obtain ⟨word, hmem, hequal⟩ := parse?_eq_some_iff.mp hscale
    exact hequal.ascii (isKeyword_of_mem_words word hmem)

/-- A name in mixed capitals among blanks, and the same with a capital I that has a dot. -/
theorem parse?_accepts_words_dotted :
    (parse? "\u3000PerMILLE\n").isSome = true ∧
      (∀ c ∈ (trim "\u3000PerMILLE\n").toList, c.toNat < 0x80 ∨ c = '‰' ∨ c = '‱') ∧
      parse? "PerM\u0130LLE" = none := by
  have hsome : (parse? "\u3000PerMILLE\n").isSome = true := by decide +kernel
  refine ⟨hsome, (parse?_accepts_words "\u3000PerMILLE\n").2.2 hsome, ?_⟩
  apply (parse?_accepts_words "PerM\u0130LLE").2.1.mpr
  intro scale
  cases scale <;> decide +kernel

end Tabletop.ChanceScale
