import Tabletop.Proofs.Dictionary
import Tabletop.Proofs.Text.Bytes
import Tabletop.Table.Custom

/-!
# Tabletop.Proofs.Table.Gathering — lists of entries under names that agree

A table file may hold several spellings of one name, each with a list of entries of its own. What is
looked up under a name afterwards is all of these lists, joined in the byte order of the spellings:
none is lost, none is taken twice and none is found under another name. A spelling that the file
repeats counts once, with its last list. In which order the file gives different spellings makes no
difference.

The names of a file are joined one after another, in order. After some of them the tables hold,
under each name in normal form, the lists of the spellings so far: that is the invariant of the fold,
and what is under a name at its end is what the file holds for it.
-/

namespace Tabletop.CustomTables

open Table (normalName)

/-! ## What a file holds -/

/-- The names and lists of an object in the order written, repeated names included. -/
def lists? : Json → Option (List (String × List String))
  | .object entries => do
    let entries ← Json.keyed? entries
    entries.mapM fun entry => do
      let list : List String ← Serial.decode? entry.2
      return (entry.1, list)
  | _ => .none

/-- **The names and lists that a text gives**, in the order written, repeated names included. -/
def given? (text : String) : Option (List (String × List String)) := do
  let value ← Json.parse? text
  let record ← value.record? ["tables"]
  match record.lookup "tables" with
  | .some tables => lists? tables
  | .none => return []

/-- The list that a name has in the end: the last one given for it. -/
def lastList (given : List (String × List String)) (name : String) : List String :=
  (given.reverse.lookup name).getD []

theorem dictionary?_eq (value : Json) :
    dictionary? value = (lists? value).map Dictionary.ofList := by
  cases value with
  | object entries =>
      simp only [dictionary?, lists?]
      cases Json.keyed? entries with
      | none => rfl
      | some entries => exact Option.map_eq_bind.symm
  | _ => rfl

/-- **The tables of a text are made of the names and lists that it gives.** -/
theorem ofText?_eq (text : String) :
    ofText? text =
      (given? text).map fun given => (CustomTables.mk (Dictionary.ofList given)).normalized := by
  rw [ofText?, Serial.parse?, given?]
  cases Json.parse? text with
  | none => rfl
  | some value =>
      show ((value.record? ["tables"]).bind ofRecord?).map normalized = _
      cases hrecord : value.record? ["tables"] with
      | none => simp [hrecord]
      | some record =>
          simp only [Option.bind_some, Option.bind_eq_bind, hrecord, ofRecord?]
          cases record.lookup "tables" with
          | none => rfl
          | some tables => simp [dictionary?_eq, Function.comp_def]

/-! ## Joining the lists one after another -/

/-- The lists of the entries whose names agree with a name in normal form, joined; none if there is
no such entry. -/
def gathered (entries : List (String × List String)) (normal : String) : Option (List String) :=
  match entries.filter fun entry => normalName entry.1 = normal with
  | [] => .none
  | entry :: more => .some ((entry :: more).flatMap Prod.snd)

/-- One more entry goes to the end of the list under its normal form. -/
theorem gathered_concat (entries : List (String × List String)) (entry : String × List String)
    (normal : String) :
    gathered (entries ++ [entry]) normal =
      if normal = normalName entry.1 then .some ((gathered entries normal).getD [] ++ entry.2)
      else gathered entries normal := by
  unfold gathered
  rw [List.filter_append, List.filter_singleton]
  by_cases h : normalName entry.1 = normal
  · cases entries.filter fun entry => normalName entry.1 = normal with
    | nil => simp [h]
    | cons first more => simp [h]
  · simp [h, Ne.symm h]

/-- **The invariant of joining**: the tables hold, under each name in normal form, what the entries
so far have for it. -/
theorem get?_foldl_absorb (entries : List (String × List String)) (normal : String) :
    (entries.foldl absorb Dictionary.empty).get? normal = gathered entries normal := by
  induction entries using List.reverseRecOn with
  | nil => exact Dictionary.get?_empty normal
  | append_singleton entries entry ih =>
      rw [List.foldl_append, List.foldl_cons, List.foldl_nil, absorb, Dictionary.get?_insert,
        gathered_concat]
      split
      · rename_i hnormal
        rw [← hnormal, ih]
      · exact ih

/-! ## The spellings of a name -/

/-- **The spellings of a name in a file**: the names in the file that agree with it in normal form,
each once, in byte order. -/
structure Spellings (given : List (String × List String)) (name : String)
    (spellings : List String) : Prop where
  sorted : spellings.Pairwise fun a b => Text.bytes a < Text.bytes b
  mem_iff (spelling : String) :
    spelling ∈ spellings ↔
      spelling ∈ given.map Prod.fst ∧ normalName spelling = normalName name

/-- The names of a dictionary that agree with a name are its spellings in the list that the
dictionary was made of. -/
theorem spellings_ofList (given : List (String × List String)) (name : String) :
    Spellings given name
      (((Dictionary.ofList given).entries.filter fun entry =>
        normalName entry.1 = normalName name).map Prod.fst) where
  sorted := by
    rw [List.pairwise_map]
    refine ((Dictionary.ofList given).sorted.imp fun hlt => ?_).filter _
    exact (Text.lt_iff_bytes_lt _ _).mp hlt
  mem_iff spelling := by
    rw [← Dictionary.mem_map_fst_ofList given, List.mem_map, List.mem_map]
    constructor
    · rintro ⟨entry, hentry, rfl⟩
      obtain ⟨hmem, hagrees⟩ := List.mem_filter.mp hentry
      exact ⟨⟨entry, hmem, rfl⟩, of_decide_eq_true hagrees⟩
    · rintro ⟨⟨entry, hmem, rfl⟩, hagrees⟩
      exact ⟨entry, List.mem_filter.mpr ⟨hmem, decide_eq_true hagrees⟩, rfl⟩

/-- What a dictionary has for a name is what the list that it was made of gives the spellings. -/
theorem gathered_ofList (given : List (String × List String)) (name : String) :
    ∃ spellings, Spellings given name spellings ∧
      gathered (Dictionary.ofList given).entries (normalName name) =
        if spellings = [] then .none else .some (spellings.flatMap (lastList given)) := by
  refine ⟨_, spellings_ofList given name, ?_⟩
  have hlast : ∀ entry ∈ (Dictionary.ofList given).entries, entry.2 = lastList given entry.1 :=
    fun entry hmem => by
      rw [lastList, ← Dictionary.get?_ofList, Dictionary.get?_eq_some_iff.mpr hmem]
      rfl
  have hjoin : ((Dictionary.ofList given).entries.filter fun entry =>
        normalName entry.1 = normalName name).flatMap Prod.snd =
      ((Dictionary.ofList given).entries.filter fun entry =>
        normalName entry.1 = normalName name).flatMap fun entry => lastList given entry.1 :=
    List.flatMap_congr fun entry hentry => hlast entry (List.mem_of_mem_filter hentry)
  rw [List.flatMap_map, ← hjoin, gathered]
  cases (Dictionary.ofList given).entries.filter fun entry =>
      normalName entry.1 = normalName name with
  | nil => rfl
  | cons first more => exact (if_neg (List.cons_ne_nil _ _)).symm

/-- **A file loses, doubles and misplaces no entry.** For every name, the tables of a file have none
if no name in the file agrees with it, and otherwise the lists of all spellings of it, each as it
was given last, joined in the byte order of the spellings. A text that gives each name the same
lists in the same order, whatever the order of the names, has the same tables. -/
theorem get?_of_ofText? {text : String} {custom : CustomTables} (h : ofText? text = some custom) :
    ∃ given, given? text = some given ∧
      (∀ name, ∃ spellings, Spellings given name spellings ∧
        custom.get? name =
          if spellings = [] then .none else .some (spellings.flatMap (lastList given))) ∧
      ∀ other otherGiven, given? other = some otherGiven →
        (∀ name, (otherGiven.filter fun entry => entry.1 == name) =
          given.filter fun entry => entry.1 == name) →
        ofText? other = some custom := by
  rw [ofText?_eq, Option.map_eq_some_iff] at h
  obtain ⟨given, hgiven, rfl⟩ := h
  refine ⟨given, hgiven, fun name => ?_, fun other otherGiven hother hsame => ?_⟩
  · obtain ⟨spellings, hspellings, hgathered⟩ := gathered_ofList given name
    refine ⟨spellings, hspellings, ?_⟩
    rw [← hgathered, ← get?_foldl_absorb]
    rfl
  · have hdictionary : Dictionary.ofList otherGiven = Dictionary.ofList given := by
      refine Dictionary.ext_get? fun name => ?_
      rw [Dictionary.get?_ofList, Dictionary.get?_ofList, Dictionary.lookup_reverse_eq,
        Dictionary.lookup_reverse_eq, hsame name]
    rw [ofText?_eq, hother, Option.map_some, hdictionary]

/-- Two spellings of one name, one of them given twice; and the same in another order. -/
theorem get?_of_ofText?_reordered :
    let text := "\x7b\"tables\":\x7b\"b_c\":[\"1\"],\"B C\":[\"2\"],\"b_c\":[\"3\"]\x7d\x7d"
    let other := "\x7b\"tables\":\x7b\"b_c\":[\"1\"],\"b_c\":[\"3\"],\"B C\":[\"2\"]\x7d\x7d"
    let given := [("b_c", ["1"]), ("B C", ["2"]), ("b_c", ["3"])]
    let custom : CustomTables := ⟨⟨[("b-c", ["2", "3"])], List.pairwise_singleton _ _⟩⟩
    ofText? text = some custom ∧ given? text = some given ∧
      (∃ spellings, Spellings given "b-C" spellings ∧ spellings ≠ [] ∧
        spellings.flatMap (lastList given) = ["2", "3"]) ∧
      given? other = some [("b_c", ["1"]), ("b_c", ["3"]), ("B C", ["2"])] ∧
      ofText? other = some custom := by
  intro text other given custom
  have htext : ofText? text = some custom := by decide +kernel
  have hget : custom.get? "b-C" = some ["2", "3"] := by decide +kernel
  have hgiven : given? text = some given := by decide +kernel
  have hother : given? other = some [("b_c", ["1"]), ("b_c", ["3"]), ("B C", ["2"])] := by
    decide +kernel
  obtain ⟨_, hsome, hlookup, hreorder⟩ := get?_of_ofText? htext
  obtain rfl := Option.some.inj (hgiven.symm.trans hsome)
  obtain ⟨spellings, hspellings, hvalue⟩ := hlookup "b-C"
  have hne : spellings ≠ [] := fun hnil => by
    rw [hget, if_pos hnil] at hvalue
    exact absurd hvalue (by simp)
  rw [hget, if_neg hne] at hvalue
  have hlists := (Option.some.inj hvalue).symm
  refine ⟨htext, hgiven, ⟨spellings, hspellings, hne, hlists⟩, hother, hreorder other _ hother ?_⟩
  intro name
  by_cases hfirst : "b_c" = name
  · subst hfirst
    decide
  · simp [given, List.filter_cons, hfirst]

end Tabletop.CustomTables
