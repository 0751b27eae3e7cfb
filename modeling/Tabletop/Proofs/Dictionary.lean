import Mathlib.Data.List.Induction
import Mathlib.Data.List.Sort
import Tabletop.Dictionary
import Tabletop.Proofs.Text.Bytes

/-!
# Tabletop.Proofs.Dictionary — a dictionary is what its names look up

Putting a value under a name changes what that name looks up and nothing else. A dictionary made of
a list looks up, under each name, the last value that the list gives it. Since the names of a
dictionary are in order, two dictionaries that look up the same are the same.
-/

namespace Tabletop.Dictionary

variable {α : Type}

/-! ## Looking up -/

@[simp] theorem get?_empty (name : String) : (empty : Dictionary α).get? name = none := rfl

theorem lookup_cons_eq (name key : String) (value : α) (rest : List (String × α)) :
    ((key, value) :: rest).lookup name = if name = key then some value else rest.lookup name := by
  rw [List.lookup_cons]
  by_cases h : name = key
  · rw [if_pos h, beq_iff_eq.mpr h]
  · rw [if_neg h, beq_false_of_ne h]

theorem lookup_place (name other : String) (value : α) (entries : List (String × α)) :
    (place name value entries).lookup other =
      if other = name then some value else entries.lookup other := by
  induction entries with
  | nil => rw [place, lookup_cons_eq]
  | cons head rest ih =>
      obtain ⟨key, kept⟩ := head
      rw [place]
      split
      · rw [lookup_cons_eq]
      · split
        · rename_i hname
          rw [lookup_cons_eq, lookup_cons_eq, hname]
          split <;> rfl
        · rename_i hname
          rw [lookup_cons_eq, lookup_cons_eq, ih]
          -- The head is another name than the one that was put.
          by_cases hkey : other = key
          · have hother : other ≠ name := fun h => hname (h.symm.trans hkey)
            rw [if_pos hkey, if_neg hother, if_pos hkey]
          · rw [if_neg hkey, if_neg hkey]

/-- **A value that is put under a name is looked up there**, and other names keep theirs. -/
@[simp] theorem get?_insert (d : Dictionary α) (name other : String) (value : α) :
    (d.insert name value).get? other = if other = name then some value else d.get? other :=
  lookup_place name other value d.entries

/-- **A list gives each name its last value.** -/
theorem get?_ofList (entries : List (String × α)) (name : String) :
    (ofList entries).get? name = entries.reverse.lookup name := by
  induction entries using List.reverseRecOn with
  | nil => rfl
  | append_singleton entries entry ih =>
      rw [ofList, List.foldl_append, List.foldl_cons, List.foldl_nil, get?_insert,
        List.reverse_append, List.reverse_singleton, List.singleton_append, lookup_cons_eq, ← ih]
      rfl

/-- Only the values that a list gives to a name decide what the name looks up: the last of them. -/
theorem lookup_reverse_eq (entries : List (String × α)) (name : String) :
    entries.reverse.lookup name =
      (entries.filter fun entry => entry.1 == name).getLast?.map Prod.snd := by
  induction entries using List.reverseRecOn with
  | nil => rfl
  | append_singleton entries entry ih =>
      rw [List.reverse_append, List.reverse_singleton, List.singleton_append, lookup_cons_eq, ih,
        List.filter_append, List.filter_singleton]
      by_cases h : name = entry.1
      · simp [h]
      · have hother : (entry.1 == name) = false := beq_false_of_ne (Ne.symm h)
        simp [h, hother]

/-- The last value that a list gives to a name, if it gives it one. -/
def lastValue? (entries : List (String × α)) (name : String) : Option α :=
  (entries.filter fun entry => entry.1 == name).getLast?.map Prod.snd

/-- What the dictionary of a list looks up is the last value that the list gives. -/
theorem get?_ofList_eq_lastValue? (entries : List (String × α)) (name : String) :
    (ofList entries).get? name = lastValue? entries name :=
  (get?_ofList entries name).trans (lookup_reverse_eq entries name)

/-! ## Entries -/

/-- What is looked up is an entry. -/
theorem mem_of_lookup {entries : List (String × α)} {name : String} {value : α}
    (h : entries.lookup name = some value) : (name, value) ∈ entries := by
  obtain ⟨before, after, rfl, -⟩ := List.lookup_eq_some_iff.mp h
  exact List.mem_append_right before List.mem_cons_self

/-- A list of entries in order looks up exactly its entries. -/
theorem lookup_eq_some_iff_mem {entries : List (String × α)}
    (h : entries.Pairwise fun a b => a.1 < b.1) {name : String} {value : α} :
    entries.lookup name = some value ↔ (name, value) ∈ entries := by
  induction entries with
  | nil => simp
  | cons head rest ih =>
      obtain ⟨key, kept⟩ := head
      obtain ⟨hhead, hrest⟩ := List.pairwise_cons.mp h
      rw [lookup_cons_eq, List.mem_cons, Prod.mk.injEq]
      split
      · rename_i hkey
        -- The key comes first, so it does not come again.
        have hlater : (name, value) ∉ rest := fun hmem =>
          String.lt_irrefl key (hkey ▸ hhead _ hmem)
        simp [hkey, hkey ▸ hlater, eq_comm]
      · rename_i hkey
        rw [ih hrest]
        simp [hkey]

/-- **Entries with distinct names look up the same in any order.** -/
theorem lookup_eq_of_perm {entries others : List (String × α)} (h : entries.Perm others)
    (hnodup : (entries.map Prod.fst).Nodup) (name : String) :
    entries.lookup name = others.lookup name := by
  induction h with
  | nil => rfl
  | cons entry _ ih =>
      obtain ⟨-, hrest⟩ := List.nodup_cons.mp hnodup
      rw [lookup_cons_eq, lookup_cons_eq, ih hrest]
  | swap first second rest =>
      obtain ⟨hsecond, -⟩ := List.nodup_cons.mp hnodup
      have hdiffer : second.1 ≠ first.1 := fun heq => hsecond (heq ▸ List.mem_cons_self)
      rw [lookup_cons_eq, lookup_cons_eq, lookup_cons_eq, lookup_cons_eq]
      -- A name is that of one of the two at most.
      by_cases hname : name = second.1
      · rw [if_pos hname, if_pos hname, if_neg (hname ▸ hdiffer)]
      · rw [if_neg hname, if_neg hname]
  | trans hfirst _ ihfirst ihsecond =>
      rw [ihfirst hnodup, ihsecond ((hfirst.map Prod.fst).nodup_iff.mp hnodup)]

/-- A dictionary looks up exactly its entries. -/
theorem get?_eq_some_iff {d : Dictionary α} {name : String} {value : α} :
    d.get? name = some value ↔ (name, value) ∈ d.entries :=
  lookup_eq_some_iff_mem d.sorted

/-- Of the entries of a dictionary, one at most has a given name. -/
theorem filter_entries (d : Dictionary α) (name : String) :
    (d.entries.filter fun entry => entry.1 == name) =
      ((d.get? name).map fun value => (name, value)).toList := by
  obtain ⟨entries, hsorted⟩ := d
  show (entries.filter fun entry => entry.1 == name) =
    ((entries.lookup name).map fun value => (name, value)).toList
  induction entries with
  | nil => rfl
  | cons head rest ih =>
      obtain ⟨key, kept⟩ := head
      obtain ⟨hhead, hrest⟩ := List.pairwise_cons.mp hsorted
      rw [lookup_cons_eq]
      by_cases hkey : name = key
      · subst hkey
        -- The names after the first one are greater.
        have hlater : (rest.filter fun entry => entry.1 == name) = [] := by
          refine List.filter_eq_nil_iff.mpr fun entry hentry hname => ?_
          have hlt := hhead entry hentry
          rw [beq_iff_eq.mp hname] at hlt
          exact String.lt_irrefl name hlt
        simp [hlater]
      · have hother : (key == name) = false := beq_false_of_ne (Ne.symm hkey)
        rw [if_neg hkey, List.filter_cons_of_neg (by simp [hother]), ih hrest]

/-- The names of a dictionary, in order. -/
def names (d : Dictionary α) : List String := d.entries.map Prod.fst

/-- The names of a dictionary are in the order of their bytes. -/
theorem names_sorted (d : Dictionary α) :
    d.names.Pairwise fun a b => Text.bytes a < Text.bytes b := by
  unfold names
  rw [List.pairwise_map]
  exact d.sorted.imp fun hlt => (Text.lt_iff_bytes_lt _ _).mp hlt

/-- The values of a dictionary are what its names look up, name by name. -/
theorem map_some_values (d : Dictionary α) : d.values.map some = d.names.map d.get? := by
  unfold values names
  rw [List.map_map, List.map_map]
  apply List.map_congr_left
  intro entry hentry
  exact (get?_eq_some_iff.mpr hentry).symm

/-- No name occurs twice. -/
theorem nodup_keys (d : Dictionary α) : (d.entries.map Prod.fst).Nodup := by
  refine List.pairwise_map.mpr (d.sorted.imp fun {a b} hlt heq => ?_)
  rw [heq] at hlt
  exact String.lt_irrefl b.1 hlt

/-- The dictionary of a list has the names of the list. -/
theorem mem_map_fst_ofList (entries : List (String × α)) (name : String) :
    name ∈ (ofList entries).entries.map Prod.fst ↔ name ∈ entries.map Prod.fst := by
  have hkey : name ∈ (ofList entries).entries.map Prod.fst ↔
      ((ofList entries).get? name).isSome := by
    rw [Option.isSome_iff_exists]
    simp [get?_eq_some_iff]
  rw [hkey, get?_ofList, List.lookup_isSome_iff, List.mem_map]
  constructor
  · rintro ⟨entry, hmem, hname⟩
    exact ⟨entry, List.mem_reverse.mp hmem, (beq_iff_eq.mp hname).symm⟩
  · rintro ⟨entry, hmem, hname⟩
    exact ⟨entry, List.mem_reverse.mpr hmem, beq_iff_eq.mpr hname.symm⟩

/-- **Dictionaries that look up the same are the same.** -/
theorem ext_get? {d e : Dictionary α} (h : ∀ name, d.get? name = e.get? name) : d = e := by
  have hmem : ∀ entry, entry ∈ d.entries ↔ entry ∈ e.entries := fun entry => by
    rw [← get?_eq_some_iff, ← get?_eq_some_iff, h]
  have hnodup : ∀ d : Dictionary α, d.entries.Nodup := fun d => .of_map Prod.fst d.nodup_keys
  have hperm : d.entries.Perm e.entries :=
    (List.perm_ext_iff_of_nodup (hnodup d) (hnodup e)).mpr hmem
  refine ext_entries (hperm.eq_of_pairwise (fun a b _ _ hab hba => ?_) d.sorted e.sorted)
  exact absurd hab (String.lt_asymm hba)

/-- **Only the last value of each name goes into a dictionary**, and not the order of the names. -/
theorem ofList_eq_of_lastValue?_eq {entries others : List (String × α)}
    (h : ∀ name, lastValue? others name = lastValue? entries name) :
    ofList others = ofList entries := by
  apply ext_get?
  intro name
  rw [get?_ofList_eq_lastValue?, get?_ofList_eq_lastValue?, h]

/-- **A dictionary is made of its entries.** -/
theorem ofList_entries (d : Dictionary α) : ofList d.entries = d := by
  refine ext_get? fun name => ?_
  rw [get?_ofList, lookup_reverse_eq, filter_entries]
  cases d.get? name with
  | none => rfl
  | some value => rfl

end Tabletop.Dictionary
