/-!
# Tabletop.Dictionary — names in order, each once

A dictionary holds at most one value under each name and keeps its names in increasing order. Names
are compared by code points, which is also the order of their UTF-8 bytes. Because the order is part
of the type, two dictionaries that hold the same values under the same names are equal, however they
came about.
-/

namespace Tabletop

/-- Values under names, the names strictly increasing. -/
structure Dictionary (α : Type) where
  /-- Names and values, in order of the names. -/
  entries : List (String × α)
  /-- The names increase strictly. -/
  sorted : entries.Pairwise fun a b => a.1 < b.1

namespace Dictionary

variable {α : Type}

/-- The dictionary without names. -/
def empty : Dictionary α := ⟨[], List.Pairwise.nil⟩

instance : Inhabited (Dictionary α) := ⟨empty⟩

theorem ext_entries {d e : Dictionary α} (h : d.entries = e.entries) : d = e := by
  cases d; cases e; simp_all

instance [DecidableEq α] : DecidableEq (Dictionary α) := fun d e =>
  if h : d.entries = e.entries then isTrue (ext_entries h)
  else isFalse fun he => h (he ▸ rfl)

/-- The value under a name. -/
def get? (d : Dictionary α) (name : String) : Option α := d.entries.lookup name

/-- Put a value under a name into a sorted list, in place of what is there. -/
def place (name : String) (value : α) : List (String × α) → List (String × α)
  | [] => [(name, value)]
  | (other, kept) :: rest =>
    if name < other then (name, value) :: (other, kept) :: rest
    else if name = other then (name, value) :: rest
    else (other, kept) :: place name value rest

theorem mem_place {name : String} {value : α} {entries : List (String × α)} {e : String × α}
    (h : e ∈ place name value entries) : e = (name, value) ∨ e ∈ entries := by
  induction entries with
  | nil => simpa [place] using h
  | cons head rest ih =>
    obtain ⟨other, kept⟩ := head
    simp only [place] at h
    split at h
    · simpa using h
    · split at h
      · rcases List.mem_cons.1 h with h | h
        · exact .inl h
        · exact .inr (List.mem_cons_of_mem _ h)
      · rcases List.mem_cons.1 h with h | h
        · exact .inr (h ▸ List.mem_cons_self)
        · exact (ih h).imp id (List.mem_cons_of_mem _)

theorem sorted_place {name : String} {value : α} {entries : List (String × α)}
    (h : entries.Pairwise fun a b => a.1 < b.1) :
    (place name value entries).Pairwise fun a b => a.1 < b.1 := by
  induction entries with
  | nil => simp [place]
  | cons head rest ih =>
    obtain ⟨other, kept⟩ := head
    obtain ⟨hhead, hrest⟩ := List.pairwise_cons.1 h
    simp only [place]
    split
    · rename_i hlt
      refine List.pairwise_cons.2 ⟨fun e he => ?_, h⟩
      rcases List.mem_cons.1 he with rfl | he
      · exact hlt
      · exact String.lt_trans hlt (hhead e he)
    · rename_i hlt
      split
      · rename_i heq
        subst heq
        exact List.pairwise_cons.2 ⟨hhead, hrest⟩
      · rename_i hne
        refine List.pairwise_cons.2 ⟨fun e he => ?_, ih hrest⟩
        rcases mem_place he with rfl | he
        · rcases Std.lt_trichotomy name other with hc | hc | hc
          · exact absurd hc hlt
          · exact absurd hc hne
          · exact hc
        · exact hhead e he

/-- The dictionary with a value put under a name. -/
def insert (d : Dictionary α) (name : String) (value : α) : Dictionary α :=
  ⟨place name value d.entries, sorted_place d.sorted⟩

/-- **The dictionary of a list of names and values.** A later value under the same name replaces an
earlier one. -/
def ofList (entries : List (String × α)) : Dictionary α :=
  entries.foldl (fun d entry => d.insert entry.1 entry.2) empty

/-- How many names there are. -/
def size (d : Dictionary α) : Nat := d.entries.length

/-- The values, in order of their names. -/
def values (d : Dictionary α) : List α := d.entries.map Prod.snd

end Dictionary

end Tabletop
