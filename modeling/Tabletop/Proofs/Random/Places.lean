import Mathlib.Data.List.Forall2
import Tabletop.Proofs.Random.Repetition
import Tabletop.Proofs.Random.Script

/-!
# Tabletop.Proofs.Random.Places — picks from several lists, one after another

To pick from each of several lists is to draw a place of each, from left to right. The places are
what the source decides, and the entries stand at them.

Every choice of places is drawn from some source. A word of 32 bits has room for so many values that
each place of a list has a stretch of words to itself, which ask for no second word. Written one
after another, such words are a script from which the places come out, and which is read to its end
and no further.
-/

namespace Tabletop.Draw

variable {σ α : Type} [Source σ]

/-- A pick from each of some lists, from left to right. -/
def pickEach (lists : List (List α)) : Draw σ (List (Option α)) := lists.mapM pick

/-- The places that picks from some lists draw, from left to right. -/
def placeEach (lists : List (List α)) : Draw σ (List ℕ) :=
  lists.mapM fun list => below32 list.length

/-- One place of each list, within the list. -/
def Within (lists : List (List α)) (places : List ℕ) : Prop :=
  List.Forall₂ (fun list place => place < list.length) lists places

instance (lists : List (List α)) (places : List ℕ) : Decidable (Within lists places) :=
  inferInstanceAs (Decidable (List.Forall₂ _ lists places))

/-- The entries at one place of each list. -/
def entriesAt (lists : List (List α)) (places : List ℕ) : List (Option α) :=
  List.zipWith (fun list place => list[place]?) lists places

/-! ## Picks draw places -/

/-- **The places that are drawn lie within the lists.** -/
theorem within_placeEach {lists : List (List α)} (hne : ∀ list ∈ lists, list ≠ []) (s : σ) :
    Within lists (placeEach lists s).1 := by
  induction lists generalizing s with
  | nil => exact List.Forall₂.nil
  | cons list rest ih =>
      obtain ⟨hlist, hrest⟩ := List.forall_mem_cons.mp hne
      unfold placeEach
      rw [mapM_cons_apply]
      apply List.Forall₂.cons
      · exact below32_lt (List.length_pos_iff.mpr hlist) s
      · exact ih hrest _

/-- **Picks yield the entries at the places that are drawn**, and leave the source as drawing the
places does. -/
theorem pickEach_eq {lists : List (List α)} (hne : ∀ list ∈ lists, list ≠ []) (s : σ) :
    pickEach lists s = (entriesAt lists (placeEach lists s).1, (placeEach lists s).2) := by
  induction lists generalizing s with
  | nil => rfl
  | cons list rest ih =>
      obtain ⟨hlist, hrest⟩ := List.forall_mem_cons.mp hne
      have hstep := ih hrest (below32 list.length s).2
      unfold pickEach placeEach at hstep ⊢
      rw [mapM_cons_apply, mapM_cons_apply, pick_of_ne_nil hlist, hstep]
      rfl

/-- At places within the lists there are entries, one of each list. -/
theorem exists_entriesAt_eq {lists : List (List α)} {places : List ℕ} (h : Within lists places) :
    ∃ entries : List α, entriesAt lists places = entries.map some ∧ entries.length = lists.length ∧
      ∀ entry ∈ entries, ∃ list ∈ lists, entry ∈ list := by
  induction h with
  | nil => exact ⟨[], rfl, rfl, fun entry hentry => absurd hentry List.not_mem_nil⟩
  | @cons list place rest places hplace _ ih =>
      obtain ⟨entries, hentries, hlength, hmem⟩ := ih
      refine ⟨list[place] :: entries, ?_, ?_, ?_⟩
      · unfold entriesAt at hentries ⊢
        rw [List.zipWith_cons_cons, hentries, List.getElem?_eq_getElem hplace]
        rfl
      · rw [List.length_cons, List.length_cons, hlength]
      · intro entry hentry
        rcases List.mem_cons.mp hentry with rfl | hlater
        · exact ⟨list, List.mem_cons_self, List.getElem_mem hplace⟩
        · obtain ⟨other, hother, hin⟩ := hmem entry hlater
          exact ⟨other, List.mem_cons_of_mem _ hother, hin⟩

/-! ## A script for every choice of places -/

/-- The least word that picks a place of a list of `n` entries. -/
def wordForPlace (n place : ℕ) : UInt64 := UInt64.ofNat (Sampler.wordFor UInt32.size n place)

theorem toNat_toUInt32_wordForPlace {n place : ℕ} (hn : 2 * n ≤ UInt32.size) (hplace : place < n) :
    (wordForPlace n place).toUInt32.toNat = Sampler.wordFor UInt32.size n place := by
  have hlt : Sampler.wordFor UInt32.size n place < 2 ^ 32 :=
    Sampler.wordFor_lt (by omega) (by omega) hplace
  unfold wordForPlace
  rw [UInt64.toNat_toUInt32, UInt64.toNat_ofNat']
  omega

/-- **The word for a place picks it** and no further word is read. -/
theorem below32_of_upcoming {n place : ℕ} (hn : 2 * n ≤ UInt32.size) (hplace : place < n)
    {s : Script} {more : List UInt64} (hwords : s.upcoming = wordForPlace n place :: more) :
    below32 n s = (place, s.advance) := by
  have hword : s.head.toUInt32.toNat = Sampler.wordFor UInt32.size n place := by
    rw [(Script.head_of_upcoming_eq_cons hwords).1, toNat_toUInt32_wordForPlace hn hplace]
  exact Sampler.draw_of_wordFor (by omega) hn hword

/-- The words for one place of each list. -/
def wordsFor (lists : List (List α)) (places : List ℕ) : List UInt64 :=
  List.zipWith (fun list place => wordForPlace list.length place) lists places

/-- **Picks on the words for some places** draw these places in this order and read a word each. The
induction is on the lists, and each step leaves the script with the words of the others. -/
theorem placeEach_of_upcoming {lists : List (List α)} {places : List ℕ} (h : Within lists places)
    (hsize : ∀ list ∈ lists, 2 * list.length ≤ UInt32.size) {s : Script}
    (hwords : s.upcoming = wordsFor lists places) :
    placeEach lists s = (places, { s with position := s.position + places.length }) := by
  induction h generalizing s with
  | nil => rfl
  | @cons list place rest places hplace _ ih =>
      obtain ⟨hlist, hrest⟩ := List.forall_mem_cons.mp hsize
      have hstep := below32_of_upcoming hlist hplace hwords
      have hothers := ih hrest (Script.head_of_upcoming_eq_cons hwords).2
      unfold placeEach at hothers ⊢
      rw [mapM_cons_apply, hstep, hothers]
      have hposition : s.position + 1 + places.length = s.position + (places.length + 1) := by omega
      simp only [Script.advance, List.length_cons, hposition]

/-- **Every choice of places is drawn from some script** with one word for each place. -/
theorem exists_placeEach_eq {lists : List (List α)} {places : List ℕ} (h : Within lists places)
    (hsize : ∀ list ∈ lists, 2 * list.length ≤ UInt32.size) (hne : lists ≠ []) :
    ∃ (words : List UInt64) (script : Script), words.length = places.length ∧
      Script.ofList? words = some script ∧
        placeEach lists script = (places, { script with position := words.length }) := by
  have hlength : (wordsFor lists places).length = places.length := by
    unfold wordsFor
    rw [List.length_zipWith, h.length_eq, Nat.min_self]
  have hpos : 0 < (wordsFor lists places).toArray.size := by
    rw [List.size_toArray, hlength, ← h.length_eq]
    exact List.length_pos_iff.mpr hne
  let script : Script := ⟨(wordsFor lists places).toArray, 0, hpos⟩
  have hupcoming : script.upcoming = wordsFor lists places := rfl
  refine ⟨wordsFor lists places, script, hlength, dif_pos hpos, ?_⟩
  rw [placeEach_of_upcoming h hsize hupcoming, hlength, Nat.zero_add]

end Tabletop.Draw
