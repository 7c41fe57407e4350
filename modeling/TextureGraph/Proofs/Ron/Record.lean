import TextureGraph.Proofs.Ron.Number
import TextureGraph.Proofs.Ron.Text

/-!
# RON values with parts read back

Tuples of numbers, wrapped values, lists and records are read from the texts that are written for
them, if their parts are.
-/

namespace TextureGraph
namespace Ron

variable {α : Type} {level : Nat}

theorem writeItems_eq (level : Nat) (items : List Ron) :
    writeItems level items = items.map (write level) := by
  induction items with
  | nil => rfl
  | cons item items induction => rw [writeItems, induction, List.map_cons]

/-! ## Tuples -/

/-- The text that follows the first item of a tuple up to its closing parenthesis. -/
def inlineTail : List (List Char) → List Char
  | [] => [')']
  | item :: items => ',' :: ([' '] ++ (item ++ inlineTail items))

theorem inline_append (item : List Char) (items : List (List Char)) :
    inline (item :: items) ++ [')'] = item ++ inlineTail items := by
  induction items generalizing item with
  | nil => rfl
  | cons second items induction =>
      rw [inline, List.append_assoc, induction, inlineTail]
      · simp
      · exact fun h => List.cons_ne_nil _ _ h

theorem continues_inlineTail (items : List (List Char)) :
    Reader.Continues blank Solid true ')' items (inlineTail items) := by
  induction items with
  | nil => exact .close gap_nil fun rest => Reader.ended_cons (by decide) rest
  | cons item items induction => exact .item gap_space induction

/-- Numbers between parentheses. -/
theorem singles_run {first : Float32} {numbers : List Float32}
    (numeric : ∀ x ∈ first :: numbers, Single.Numeric x) {ofList? : List Float32 → Option α} {a : α}
    (a_eq : ofList? (first :: numbers) = some a) (rest : List Char) :
    readSingles ofList?
        (inline (writeItems level ((first :: numbers).map ofSingle)) ++ ')' :: rest) =
      some (a, rest) := by
  have write_eq : writeItems level ((first :: numbers).map ofSingle) =
      writeSingle first :: numbers.map writeSingle := by
    rw [writeItems_eq, List.map_map, List.map_cons]
    rfl
  rw [List.forall_mem_cons] at numeric
  have reads :
      List.Forall₂ (Reader.ItemReads Solid ')' single) (numbers.map writeSingle) numbers := by
    rw [List.forall₂_map_left_iff, List.forall₂_same]
    exact fun x member => (single_takes (numeric.2 x member)).inTuple
  have items_run := Reader.items_run (punctuation ')' (by decide) (by decide)) gap_nil
    (continues_inlineTail (numbers.map writeSingle)) (single_takes numeric.1).inTuple reads rest
  rw [List.nil_append, ← List.append_assoc, ← inline_append, List.append_assoc,
    List.singleton_append] at items_run
  rw [write_eq, readSingles, items, Reader.bind_of_run items_run, a_eq]
  rfl

theorem singles_takes {first : Float32} {numbers : List Float32}
    (numeric : ∀ x ∈ first :: numbers, Single.Numeric x) {ofList? : List Float32 → Option α} {a : α}
    (a_eq : ofList? (first :: numbers) = some a) :
    Takes (do Reader.expect '('; readSingles ofList?)
      (write level (.tuple ((first :: numbers).map ofSingle))) a where
  reads rest _ := by
    rw [write, List.append_assoc, List.append_assoc, List.singleton_append,
      Reader.bind_of_run (Reader.expect_cons_self '(' _)]
    exact singles_run numeric a_eq rest
  begins := ⟨'(', _, by rw [write]; rfl, by decide⟩

/-- The tuple of numbers that an alternative holds. -/
theorem singlesContent_run {first : Float32} {numbers : List Float32}
    (numeric : ∀ x ∈ first :: numbers, Single.Numeric x) {ofList? : List Float32 → Option α} {a : α}
    (a_eq : ofList? (first :: numbers) = some a) (rest : List Char) :
    readSinglesContent Extensions.none ofList?
        (write level (.tuple ((first :: numbers).map ofSingle)) ++ ')' :: rest) =
      some (a, rest) := by
  rw [readSinglesContent, if_neg (by decide)]
  exact (singles_takes numeric a_eq).onlyItem_run rest

/-! ## Wrapped values -/

theorem readRecordName_run (name : String) (text : List Char) :
    readRecordName Extensions.none name ('(' :: text) = some ((), '(' :: text) :=
  rfl

theorem wrapped_takes {content : Reader α} {item : Ron} {a : α}
    (takes : Takes content (write level item) a) (name : String) :
    Takes (readWrapped Extensions.none name content) (write level (.tuple [item])) a where
  reads rest _ := by
    have write_eq : write level (.tuple [item]) ++ rest =
        '(' :: (write level item ++ ')' :: rest) := by
      simp [write, writeItems, inline]
    rw [write_eq, readWrapped, if_neg (by decide), Reader.bind_of_run (readRecordName_run name _),
      Reader.bind_of_run (blank_parenthesis _), Reader.bind_of_run (Reader.expect_cons_self '(' _)]
    exact takes.onlyItem_run rest
  begins := ⟨'(', _, by rw [write]; rfl, by decide⟩

/-! ## Lists -/

theorem list_takes {item : Reader α} {toRon : α → Ron} {items : List α}
    (takes : ∀ a ∈ items, Takes item (write (level + 1) (toRon a)) a) :
    Takes (readList item) (write level (.list (items.map toRon))) items := by
  have reads : List.Forall₂ (Reader.ItemReads Solid ']' item)
      (writeItems (level + 1) (items.map toRon)) items := by
    rw [writeItems_eq, List.map_map, List.forall₂_map_left_iff, List.forall₂_same]
    exact fun a member => (takes a member).inList
  obtain ⟨inside, block_eq, run⟩ := Layout.block_run (gap_newline layout)
    (punctuation ']' (by decide) (by decide)) reads level '['
  have write_eq : write level (.list (items.map toRon)) = '[' :: inside := by
    rw [write, block_eq]
  refine ⟨fun rest _ => ?_, '[', inside, write_eq, by decide⟩
  rw [write_eq, List.cons_append, readList, Reader.bind_of_run (Reader.expect_cons_self '[' _)]
  exact run rest

/-! ## Records -/

/-- The text of a field. -/
def writeField (level : Nat) (field : String × Ron) : List Char :=
  field.1.toList ++ [':', ' '] ++ write level field.2

theorem writeFields_eq (level : Nat) (fields : List (String × Ron)) :
    writeFields level fields = fields.map (writeField level) := by
  induction fields with
  | nil => rfl
  | cons field fields induction => rw [writeFields, induction, List.map_cons, writeField]

/-- Under the name of the field a reader is known that takes its value for a part. -/
inductive FieldTakes (field? : String → Option (Reader α)) (level : Nat) :
    (field : String × Ron) → (part : α) → Prop where
  | known {name : String} {value : Ron} {reader : Reader α} {part : α}
      (reader_eq : field? name = some reader) (takes : Takes reader (write level value) part) :
      FieldTakes field? level (name, value) part

theorem FieldTakes.readField_takes {field? : String → Option (Reader α)} {field : String × Ron}
    {part : α} (takes : FieldTakes field? level field part)
    (plain : isPlainName field.1.toList = true) (depth : Nat) :
    Takes (readField Extensions.none depth field?) (writeField level field) (some part) := by
  obtain @⟨name, value, reader, part, reader_eq, value_takes⟩ := takes
  have name_takes := identifier_takes plain
  refine ⟨fun rest ended => ?_, ?_⟩
  · have colon_run : blank (':' :: ' ' :: (write level value ++ rest)) =
        some ((), ':' :: ' ' :: (write level value ++ rest)) :=
      gap_nil ':' _ (by decide)
    have name_run := name_takes.reads (':' :: ' ' :: (write level value ++ rest))
      (Reader.ended_cons (by decide) _)
    have space_run := value_takes.blank_run gap_space rest
    have value_run := value_takes.reads.map some rest ended
    rw [List.singleton_append] at space_run
    simp only [writeField, List.append_assoc, List.cons_append, List.nil_append]
    rw [readField, Reader.bind_of_run name_run, Reader.bind_of_run colon_run,
      Reader.bind_of_run (Reader.expect_cons_self ':' _), Reader.bind_of_run space_run,
      String.ofList_toList, reader_eq]
    exact value_run
  · obtain ⟨c, later, name_eq, opens⟩ := name_takes.begins
    exact ⟨c, _, by rw [writeField, name_eq]; rfl, opens⟩

/-- What is made of the parts that were read. -/
theorem Takes.lift {β : Type} {reader : Reader α} {text : List Char} {parts : α}
    (takes : Takes reader text parts) {ofParts? : α → Option β} {b : β}
    (b_eq : ofParts? parts = some b) :
    Takes (do let parts ← reader; Reader.lift (ofParts? parts)) text b where
  reads rest ended := by
    rw [Reader.bind_of_run (takes.reads rest ended), b_eq]
    rfl
  begins := takes.begins

/-- A record whose fields have plain names is read as its parts in written order. -/
theorem record_takes {field? : String → Option (Reader α)} {fields : List (String × Ron)}
    {parts : List α} (takes : List.Forall₂ (FieldTakes field? (level + 1)) fields parts)
    (plain : (fields.map Prod.fst).all (isPlainName ·.toList) = true) (depth : Nat)
    (name : String) :
    Takes (readRecord Extensions.none depth name field?) (write level (.record fields)) parts := by
  have reads : List.Forall₂
      (Reader.ItemReads Solid ')' (readField Extensions.none (depth - 2) field?))
      (writeFields (level + 1) fields) (parts.map some) := by
    rw [writeFields_eq, List.forall₂_map_left_iff, List.forall₂_map_right_iff]
    rw [List.all_map, List.all_eq_true] at plain
    have plain_takes := (List.forall₂_and_left _ _).mpr ⟨plain, takes⟩
    exact plain_takes.imp fun _ _ ⟨plain, field_takes⟩ =>
      (field_takes.readField_takes plain (depth - 2)).inTuple
  obtain ⟨inside, block_eq, run⟩ := Layout.block_run (gap_newline layout)
    (punctuation ')' (by decide) (by decide)) reads level '('
  have write_eq : write level (.record fields) = '(' :: inside := by
    rw [write, block_eq]
  have items_run : ∀ rest, items ')' (readField Extensions.none (depth - 2) field?)
      (inside ++ rest) = some (parts.map some, rest) :=
    run
  have parts_eq : (parts.map some).filterMap id = parts := by
    simp
  refine ⟨fun rest _ => ?_, '(', inside, write_eq, by decide⟩
  rw [write_eq, List.cons_append, readRecord, Reader.bind_of_run (readRecordName_run name _),
    Reader.bind_of_run (blank_parenthesis _), Reader.bind_of_run (Reader.expect_cons_self '(' _),
    Reader.bind_of_run (items_run rest), Reader.pure_run, parts_eq]

/-- A record has no attributes in front. -/
theorem extensions_record (fields : List (String × Ron)) :
    Extensions.reader (write level (.record fields)) =
      some (Extensions.none, write level (.record fields)) := by
  obtain ⟨later, text_eq⟩ : ∃ later, write level (.record fields) = '(' :: later := by
    rw [write]
    exact layout.block_begins level '(' ')' _
  have rest_run : Reader.rest ('(' :: later) = some ('(' :: later, '(' :: later) := rfl
  have no_attribute : Reader.accept '#' ('(' :: later) = some (false, '(' :: later) :=
    Reader.accept_of_head?_ne (by simp)
  rw [text_eq, Extensions.reader, Reader.bind_of_run (blank_parenthesis later),
    Reader.bind_of_run rest_run, List.length_cons, Extensions.attributesWithin,
    Reader.bind_of_run no_attribute]
  rfl

end Ron
end TextureGraph
