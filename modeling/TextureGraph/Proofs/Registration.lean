import Mathlib.Data.Finset.Card
import Mathlib.Data.String.Basic
import TextureGraph.Proofs.KnownType

/-!
# Histories of registrations

The place of a type in a catalogue is decided by the first registration of its name, all else about
it by the last one.  Look-ups and lists of categories follow the types that prevail in this way, and
nothing is left of those that were replaced.
-/

namespace TextureGraph

/-! ## Words in order -/

theorem mem_insertWord {word other : String} {words : List String} :
    other ∈ insertWord word words ↔ other = word ∨ other ∈ words := by
  induction words with
  | nil => simp only [insertWord, List.mem_singleton, List.not_mem_nil, or_false]
  | cons head tail induction =>
      rw [insertWord]
      split_ifs with before same
      · rw [List.mem_cons]
      · rw [List.mem_cons, same, or_self_left]
      · rw [List.mem_cons, induction, List.mem_cons, or_left_comm]

theorem pairwise_insertWord {words : List String} (word : String)
    (ascending : words.Pairwise (· < ·)) : (insertWord word words).Pairwise (· < ·) := by
  induction ascending with
  | nil => exact List.pairwise_singleton _ _
  | @cons head tail head_lt ascending induction =>
      have whole : (head :: tail).Pairwise (· < ·) := List.pairwise_cons.mpr ⟨head_lt, ascending⟩
      rw [insertWord]
      split_ifs with before same
      · refine List.pairwise_cons.mpr ⟨fun other member => ?_, whole⟩
        rcases List.mem_cons.mp member with rfl | behind
        · exact before
        · exact before.trans (head_lt other behind)
      · exact whole
      · refine List.pairwise_cons.mpr ⟨fun other member => ?_, induction⟩
        rcases mem_insertWord.mp member with rfl | behind
        · exact lt_of_le_of_ne (not_lt.mp before) (Ne.symm same)
        · exact head_lt other behind

theorem mem_sortedWords {word : String} {words : List String} :
    word ∈ sortedWords words ↔ word ∈ words := by
  induction words with
  | nil => rfl
  | cons head tail induction =>
      rw [sortedWords, List.foldr_cons, mem_insertWord, List.mem_cons]
      exact or_congr_right induction

theorem pairwise_sortedWords (words : List String) : (sortedWords words).Pairwise (· < ·) := by
  induction words with
  | nil => exact List.Pairwise.nil
  | cons head tail induction => exact pairwise_insertWord head induction

namespace Catalogue

/-- The names of the types, in the order of the types. -/
def names (catalogue : Catalogue) : List String :=
  catalogue.types.map fun type => type.name

variable {catalogue : Catalogue} {type : NodeType} {name : String}

/-! ## Looking types up -/

theorem isSome_named?_iff : (catalogue.named? name).isSome ↔ name ∈ catalogue.names := by
  simp [named?, names]

/-- Where names are distinct, a name leads to its type even if it is a full name as well. -/
theorem get?_name (distinct : catalogue.names.Nodup) (member : type ∈ catalogue.types) :
    catalogue.get? type.name = some type := by
  have known : (catalogue.named? type.name).isSome :=
    isSome_named?_iff.mpr (List.mem_map_of_mem member)
  obtain ⟨found, found_eq⟩ := Option.isSome_iff_exists.mp known
  have found_mem : found ∈ catalogue.types := List.mem_of_find?_eq_some found_eq
  have found_name : found.name = type.name := by simpa using List.find?_some found_eq
  rw [get?, found_eq, List.inj_on_of_nodup_map distinct found_mem member found_name]

theorem get?_of_unnamed (unnamed : ∀ type ∈ catalogue.types, type.name ≠ name) :
    catalogue.get? name = catalogue.types.find? fun type => type.fullName = name := by
  have missing : catalogue.named? name = none := by
    simpa [named?] using unnamed
  rw [get?, missing]

theorem get?_eq_none_iff : catalogue.get? name = none ↔
    ∀ type ∈ catalogue.types, type.name ≠ name ∧ type.fullName ≠ name := by
  have unknown : catalogue.get? name = none ↔ ¬catalogue.contains name = true :=
    Option.not_isSome_iff_eq_none.symm
  rw [unknown, contains_iff]
  simp only [not_exists, not_and, not_or]

/-! ## One registration -/

theorem names_insert_of_mem (known : type.name ∈ catalogue.names) :
    (catalogue.insert type).names = catalogue.names := by
  rw [insert, if_pos (isSome_named?_iff.mpr known), names, names, List.map_map]
  refine List.map_congr_left fun old _ => ?_
  simp only [Function.comp_apply]
  split_ifs with same
  · exact same.symm
  · rfl

theorem names_insert_of_notMem (fresh : type.name ∉ catalogue.names) :
    (catalogue.insert type).names = catalogue.names ++ [type.name] := by
  rw [insert_of_fresh fresh, names, List.map_append, List.map_singleton, names]

/-- A registered type is in the catalogue, and of the others all that bear other names. -/
theorem mem_types_insert {other : NodeType} :
    other ∈ (catalogue.insert type).types ↔
      other = type ∨ other ∈ catalogue.types ∧ other.name ≠ type.name := by
  by_cases known : type.name ∈ catalogue.names
  · obtain ⟨old, old_mem, old_name⟩ := List.mem_map.mp known
    rw [insert, if_pos (isSome_named?_iff.mpr known), List.mem_map]
    constructor
    · rintro ⟨kept, kept_mem, rfl⟩
      split_ifs with same
      · exact .inl rfl
      · exact .inr ⟨kept_mem, same⟩
    · rintro (rfl | ⟨member, differs⟩)
      · exact ⟨old, old_mem, if_pos old_name⟩
      · exact ⟨other, member, if_neg differs⟩
  · have differs : other ∈ catalogue.types → other.name ≠ type.name := fun member same =>
      known (same ▸ List.mem_map_of_mem member)
    rw [insert_of_fresh known, List.mem_append, List.mem_singleton, or_comm]
    exact or_congr_right (iff_self_and.mpr differs)

/-! ## Histories -/

/-- The catalogue after registering types one after the other, beginning with no types. -/
def registered (history : List NodeType) : Catalogue :=
  history.foldl (fun catalogue type => (catalogue.register type).result) empty

/-- A type was registered, and no later one under its name. -/
def Prevails (history : List NodeType) (type : NodeType) : Prop :=
  ∃ before after, history = before ++ type :: after ∧ ∀ later ∈ after, later.name ≠ type.name

theorem prevails_append_singleton {history : List NodeType} {other : NodeType} :
    Prevails (history ++ [type]) other ↔
      other = type ∨ Prevails history other ∧ other.name ≠ type.name := by
  constructor
  · rintro ⟨before, after, history_eq, overtaken⟩
    rcases List.eq_nil_or_concat' after with rfl | ⟨middle, last, rfl⟩
    · exact .inl (List.singleton_inj.mp (List.append_inj' history_eq rfl).2.symm)
    · rw [← List.cons_append, ← List.append_assoc] at history_eq
      obtain ⟨rfl, last_eq⟩ := List.append_inj' history_eq rfl
      obtain rfl := List.singleton_inj.mp last_eq
      refine .inr ⟨⟨before, middle, rfl, fun later member => ?_⟩, ?_⟩
      · exact overtaken later (List.mem_append_left _ member)
      · exact Ne.symm (overtaken type (List.mem_append_right _ (List.mem_singleton_self _)))
  · rintro (rfl | ⟨⟨before, after, rfl, overtaken⟩, differs⟩)
    · exact ⟨history, [], rfl, List.forall_mem_nil _⟩
    · refine ⟨before, after ++ [type], by simp, fun later member => ?_⟩
      rcases List.mem_append.mp member with within | last
      · exact overtaken later within
      · rw [List.mem_singleton.mp last]
        exact Ne.symm differs

theorem registered_append_singleton (history : List NodeType) (type : NodeType) :
    registered (history ++ [type]) = (registered history).insert type :=
  List.foldl_append

/-- The catalogue holds the types that prevail and no others. -/
theorem mem_types_registered {history : List NodeType} :
    type ∈ (registered history).types ↔ Prevails history type := by
  induction history using List.reverseRecOn generalizing type with
  | nil => simp [registered, empty, Prevails]
  | append_singleton history last induction =>
      rw [registered_append_singleton, mem_types_insert, prevails_append_singleton, induction]

theorem mem_names_registered {history : List NodeType} :
    name ∈ (registered history).names ↔ name ∈ history.map fun type => type.name := by
  induction history using List.reverseRecOn with
  | nil => rfl
  | append_singleton history last induction =>
      rw [registered_append_singleton, List.map_append, List.map_singleton, List.mem_append,
        List.mem_singleton, ← induction]
      by_cases known : last.name ∈ (registered history).names
      · rw [names_insert_of_mem known]
        exact (or_iff_left_of_imp fun same => same ▸ known).symm
      · rw [names_insert_of_notMem known, List.mem_append, List.mem_singleton]

/-- Names are listed once each, in the order in which they were registered first. -/
theorem names_registered_in_order (history : List NodeType) :
    (registered history).names.Pairwise fun first second =>
      (history.map fun type => type.name).idxOf first <
        (history.map fun type => type.name).idxOf second := by
  induction history using List.reverseRecOn with
  | nil => exact List.Pairwise.nil
  | append_singleton history last induction =>
      have before : (registered history).names.Pairwise fun first second =>
          ((history ++ [last]).map fun type => type.name).idxOf first <
            ((history ++ [last]).map fun type => type.name).idxOf second := by
        refine induction.imp_of_mem fun first_mem second_mem earlier => ?_
        rw [List.map_append, List.idxOf_append_of_mem (mem_names_registered.mp first_mem),
          List.idxOf_append_of_mem (mem_names_registered.mp second_mem)]
        exact earlier
      rw [registered_append_singleton]
      by_cases known : last.name ∈ (registered history).names
      · rw [names_insert_of_mem known]
        exact before
      · rw [names_insert_of_notMem known]
        refine List.pairwise_append.mpr ⟨before, List.pairwise_singleton _ _, ?_⟩
        intro first first_mem second second_mem
        have first_listed := mem_names_registered.mp first_mem
        rw [List.mem_singleton.mp second_mem, List.map_append,
          List.idxOf_append_of_mem first_listed,
          List.idxOf_append_of_notMem (mt mem_names_registered.mpr known)]
        exact Nat.lt_add_right _ (List.idxOf_lt_length_iff.mpr first_listed)

theorem nodup_names_registered (history : List NodeType) : (registered history).names.Nodup :=
  (names_registered_in_order history).imp fun earlier same => by
    subst same
    exact lt_irrefl _ earlier

/-- There are as many types as different names. -/
theorem size_registered (history : List NodeType) :
    (registered history).size = (history.map fun type => type.name).toFinset.card := by
  have same : (registered history).names.toFinset =
      (history.map fun type => type.name).toFinset := by
    ext name
    rw [List.mem_toFinset, List.mem_toFinset, mem_names_registered]
  rw [← same, List.toFinset_card_of_nodup (nodup_names_registered history), names, List.length_map,
    size]

/-- After any history of registrations every registered name stands in the catalogue once, at the
place of its first registration and with the type of its last one, and there are as many types as
names.  A text leads to the type of that name, without one to the first type of that full name, and
nowhere if there is none either.  The categories are those of the types in strictly increasing
order, and every type stands under exactly one of them, in the order of the types. -/
theorem registered_last_wins (history : List NodeType) :
    let catalogue := registered history
    let registrations := history.map fun type => type.name
    (∀ name, name ∈ catalogue.names ↔ name ∈ registrations) ∧
      catalogue.names.Nodup ∧
      (catalogue.names.Pairwise fun first second =>
        registrations.idxOf first < registrations.idxOf second) ∧
      (∀ type ∈ catalogue.types, ∃ before after,
        history = before ++ type :: after ∧ ∀ later ∈ after, later.name ≠ type.name) ∧
      catalogue.size = registrations.toFinset.card ∧
      (∀ type ∈ catalogue.types, catalogue.get? type.name = some type) ∧
      (∀ text, (∀ type ∈ catalogue.types, type.name ≠ text) →
        ∀ before type after, catalogue.types = before ++ type :: after →
          (∀ earlier ∈ before, earlier.fullName ≠ text) → type.fullName = text →
            catalogue.get? text = some type) ∧
      (∀ text, catalogue.get? text = none ↔
        ∀ type ∈ catalogue.types, type.name ≠ text ∧ type.fullName ≠ text) ∧
      (∀ text, catalogue.contains text = true ↔ catalogue.get? text ≠ none) ∧
      catalogue.categories.Pairwise (· < ·) ∧
      (∀ category, category ∈ catalogue.categories ↔
        ∃ type ∈ catalogue.types, type.category = category) ∧
      (∀ type ∈ catalogue.types,
        ∃! category, category ∈ catalogue.categories ∧ type ∈ catalogue.typesIn category) ∧
      ∀ category, (catalogue.typesIn category).Sublist catalogue.types := by
  intro catalogue registrations
  have distinct : catalogue.names.Nodup := nodup_names_registered history
  have category_iff (category : String) : category ∈ catalogue.categories ↔
      ∃ type ∈ catalogue.types, type.category = category := by
    rw [categories, mem_sortedWords, List.mem_map]
  refine ⟨fun _ => mem_names_registered, distinct, names_registered_in_order history,
    fun _ => mem_types_registered.mp, size_registered history, fun _ => get?_name distinct, ?_,
    fun _ => get?_eq_none_iff, fun _ => Option.isSome_iff_ne_none, pairwise_sortedWords _,
    category_iff, ?_, fun _ => List.filter_sublist⟩
  · intro text unnamed before type after types_eq earlier_differ full
    refine (get?_of_unnamed unnamed).trans (List.find?_eq_some_iff_append.mpr ?_)
    exact ⟨by simpa using full, before, after, types_eq, by simpa using earlier_differ⟩
  · intro type member
    refine ⟨type.category, ⟨(category_iff _).mpr ⟨type, member, rfl⟩, ?_⟩, ?_⟩
    · exact List.mem_filter.mpr ⟨member, decide_eq_true rfl⟩
    · rintro category ⟨_, listed⟩
      exact (of_decide_eq_true (List.mem_filter.mp listed).2).symm

/-- A type without pins. -/
def bareType (name category : String) : NodeType :=
  ⟨⟨name, category, [], []⟩, none⟩

/-- The first type moves to another category, and a later one takes its former full name. -/
def renewedHistory : List NodeType :=
  [bareType "Add" "Math", bareType "Blur" "Filters", bareType "Add" "Arithmetic",
    bareType "Filters/Blur" ""]

theorem registered_last_wins_renewedHistory :
    (registered renewedHistory).get? "Add" = some (bareType "Add" "Arithmetic") ∧
      (registered renewedHistory).get? "Math/Add" = none ∧
      (registered renewedHistory).get? "Arithmetic/Add" = some (bareType "Add" "Arithmetic") ∧
      (registered renewedHistory).get? "Filters/Blur" = some (bareType "Filters/Blur" "") := by
  obtain ⟨_, _, _, _, _, by_name, by_full_name, missing, _⟩ := registered_last_wins renewedHistory
  have types_eq : (registered renewedHistory).types =
      [bareType "Add" "Arithmetic", bareType "Blur" "Filters", bareType "Filters/Blur" ""] := by
    rfl
  simp only [types_eq] at by_name by_full_name missing
  refine ⟨by_name (bareType "Add" "Arithmetic") (by simp), (missing _).mpr (by decide +kernel),
    by_full_name "Arithmetic/Add" (by decide +kernel) [] _ _ rfl (by decide) (by decide +kernel),
    by_name (bareType "Filters/Blur" "") (by simp)⟩

end Catalogue
end TextureGraph
