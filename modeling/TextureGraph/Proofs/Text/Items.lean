import TextureGraph.Proofs.Text.Run
import TextureGraph.Text.Layout
import Mathlib.Data.List.Forall2

/-!
# Lists of items

The reader of a list takes every text in which items are divided by commas and blanks, in
particular the lines of an indented list.
-/

namespace TextureGraph

variable {α : Type}

namespace Reader

section Lists

variable (blank : Reader Unit) (solid : Char → Prop) (lastComma : Bool) (close : Char)

/-- Blanks, possibly none, that are skipped before a solid character. -/
def Gap (gap : List Char) : Prop :=
  ∀ c text, solid c → blank (gap ++ c :: text) = some ((), c :: text)

/-- What follows the first item of a list: the later items, with a comma before each, and the
closing character. -/
inductive Continues : (later : List (List Char)) → (text : List Char) → Prop where
  | close {gap : List Char} (skipped : Gap blank solid gap)
      (ended : ∀ rest, Ended (gap ++ close :: rest)) : Continues [] (gap ++ [close])
  | comma {gap : List Char} (skipped : Gap blank solid gap) (allowed : lastComma = true) :
      Continues [] (',' :: (gap ++ [close]))
  | item {gap first text : List Char} {later : List (List Char)} (skipped : Gap blank solid gap)
      (continues : Continues later text) :
      Continues (first :: later) (',' :: (gap ++ (first ++ text)))

/-- An item begins with a solid character that does not close the list, and is read as a value. -/
structure ItemReads (item : Reader α) (text : List Char) (value : α) : Prop where
  reads : item.Reads text value
  begins : ∃ c later, text = c :: later ∧ solid c ∧ c ≠ close

/-- Commas and the closing character are solid, and nothing is skipped before a solid character. -/
structure Punctuation : Prop where
  solid_comma : solid ','
  solid_close : solid close
  close_ne : close ≠ ','
  no_gap : Gap blank solid []

variable {blank solid lastComma close} {item : Reader α} {later : List (List Char)}
  {text : List Char}

theorem Continues.length_lt (continues : Continues blank solid lastComma close later text) :
    later.length < text.length := by
  induction continues with
  | close | comma => simp
  | item _ _ induction =>
      simp only [List.length_cons, List.length_append]
      omega

theorem itemsWithin_run (marks : Punctuation blank solid close)
    (continues : Continues blank solid lastComma close later text) {first : List Char} {value : α}
    {values : List α} (reads_first : ItemReads solid close item first value)
    (reads : List.Forall₂ (ItemReads solid close item) later values) {room : Nat}
    (enough : later.length < room) (rest : List Char) :
    itemsWithin blank lastComma close item room (first ++ (text ++ rest)) =
      some (value :: values, rest) := by
  induction continues generalizing first value values room with
  | @close gap skipped ended =>
      obtain ⟨room, rfl⟩ := Nat.exists_eq_succ_of_ne_zero (Nat.ne_of_gt (Nat.zero_lt_of_lt enough))
      cases reads
      have item_run := reads_first.reads (gap ++ [close] ++ rest) (by simpa using ended rest)
      have blank_run := skipped close rest marks.solid_close
      have no_comma : accept ',' (close :: rest) = some (false, close :: rest) :=
        accept_of_head?_ne (by simpa using marks.close_ne)
      simp only [List.append_assoc, List.singleton_append] at item_run ⊢
      simp only [itemsWithin, bind_of_run item_run, bind_of_run blank_run, bind_of_run no_comma,
        Bool.false_eq_true, ↓reduceIte, bind_of_run (expect_cons_self close rest), pure_run]
  | @comma gap skipped allowed =>
      obtain ⟨room, rfl⟩ := Nat.exists_eq_succ_of_ne_zero (Nat.ne_of_gt (Nat.zero_lt_of_lt enough))
      cases reads
      have item_run :=
        reads_first.reads (',' :: (gap ++ [close]) ++ rest) (ended_cons (by decide) _)
      have comma_run : blank (',' :: (gap ++ close :: rest)) =
          some ((), ',' :: (gap ++ close :: rest)) :=
        marks.no_gap ',' _ marks.solid_comma
      have blank_run := skipped close rest marks.solid_close
      simp only [List.cons_append, List.append_assoc, List.nil_append] at item_run ⊢
      simp only [itemsWithin, bind_of_run item_run, bind_of_run comma_run,
        bind_of_run (accept_cons_self ',' _), bind_of_run blank_run, allowed, ↓reduceIte,
        bind_of_run (accept_cons_self close rest), pure_run]
  | @item gap second text later skipped continues induction =>
      obtain ⟨room, rfl⟩ := Nat.exists_eq_succ_of_ne_zero (Nat.ne_of_gt (Nat.zero_lt_of_lt enough))
      obtain - | ⟨reads_second, reads_later⟩ := reads
      obtain ⟨c, second_rest, second_eq, solid_c, c_ne⟩ := reads_second.begins
      have item_run := reads_first.reads (',' :: (gap ++ (second ++ text)) ++ rest)
        (ended_cons (by decide) _)
      have comma_run : blank (',' :: (gap ++ (second ++ (text ++ rest)))) =
          some ((), ',' :: (gap ++ (second ++ (text ++ rest)))) :=
        marks.no_gap ',' _ marks.solid_comma
      have blank_run : blank (gap ++ (second ++ (text ++ rest))) =
          some ((), second ++ (text ++ rest)) := by
        rw [second_eq]
        exact skipped c _ solid_c
      have not_closed : accept close (second ++ (text ++ rest)) =
          some (false, second ++ (text ++ rest)) := by
        rw [second_eq]
        exact accept_of_head?_ne fun head => c_ne (Option.some.inj head)
      have later_run := @induction _ _ _ reads_second reads_later room (by simpa using enough)
      simp only [List.cons_append, List.append_assoc] at item_run ⊢
      -- Whether a comma may come last decides whether the closing character is looked for here.
      cases lastComma with
      | false =>
          simp only [itemsWithin, bind_of_run item_run, bind_of_run comma_run,
            bind_of_run (accept_cons_self ',' _), bind_of_run blank_run, Bool.false_eq_true,
            ↓reduceIte, pure_bind, bind_of_run later_run, pure_run]
      | true =>
          simp only [itemsWithin, bind_of_run item_run, bind_of_run comma_run,
            bind_of_run (accept_cons_self ',' _), bind_of_run blank_run, bind_of_run not_closed,
            Bool.false_eq_true, ↓reduceIte, bind_of_run later_run, pure_run]

/-- A list without items. -/
theorem items_close (marks : Punctuation blank solid close) {gap : List Char}
    (skipped : Gap blank solid gap) (rest : List Char) :
    items blank lastComma close item (gap ++ close :: rest) = some ([], rest) := by
  simp only [items, bind_of_run (skipped close rest marks.solid_close),
    bind_of_run (accept_cons_self close rest), ↓reduceIte, pure_run]

/-- A list with a first item. -/
theorem items_run (marks : Punctuation blank solid close) {gap : List Char}
    (skipped : Gap blank solid gap)
    (continues : Continues blank solid lastComma close later text) {first : List Char} {value : α}
    {values : List α} (reads_first : ItemReads solid close item first value)
    (reads : List.Forall₂ (ItemReads solid close item) later values) (rest : List Char) :
    items blank lastComma close item (gap ++ (first ++ (text ++ rest))) =
      some (value :: values, rest) := by
  obtain ⟨c, first_rest, first_eq, solid_c, c_ne⟩ := reads_first.begins
  have blank_run : blank (gap ++ (first ++ (text ++ rest))) =
      some ((), first ++ (text ++ rest)) := by
    rw [first_eq]
    exact skipped c _ solid_c
  have not_closed : accept close (first ++ (text ++ rest)) =
      some (false, first ++ (text ++ rest)) := by
    rw [first_eq]
    exact accept_of_head?_ne fun head => c_ne (Option.some.inj head)
  have rest_run : Reader.rest (first ++ (text ++ rest)) =
      some (first ++ (text ++ rest), first ++ (text ++ rest)) := rfl
  have enough : later.length < (first ++ (text ++ rest)).length := by
    have := continues.length_lt
    simp only [List.length_append]
    omega
  have within_run := itemsWithin_run marks continues reads_first reads enough rest
  simp only [items, bind_of_run blank_run, bind_of_run not_closed, Bool.false_eq_true, ↓reduceIte,
    bind_of_run rest_run]
  exact within_run

end Lists
end Reader

namespace Layout

/-- The text that follows the first of some items up to the closing character. -/
def tail (layout : Layout) (level : Nat) (close : Char) : List (List Char) → List Char
  | [] => (if layout.lastComma then [','] else []) ++ (layout.newline level ++ [close])
  | item :: items => ',' :: (layout.newline (level + 1) ++ (item ++ layout.tail level close items))

theorem lines_append (layout : Layout) (level : Nat) (close : Char) (item : List Char)
    (items : List (List Char)) :
    layout.lines (level + 1) (item :: items) ++ (layout.newline level ++ [close]) =
      layout.newline (level + 1) ++ (item ++ layout.tail level close items) := by
  induction items generalizing item with
  | nil => simp only [lines, tail, List.append_assoc]
  | cons second items induction =>
      rw [lines, List.append_assoc, induction, tail]
      · simp
      · exact fun h => List.cons_ne_nil _ _ h

theorem length_le_lines (layout : Layout) (level : Nat) {item : List Char}
    {items : List (List Char)} (member : item ∈ items) :
    item.length ≤ (layout.lines level items).length := by
  induction items with
  | nil => nomatch member
  | cons first items induction =>
      cases items with
      | nil =>
          rw [List.mem_singleton.mp member]
          simp only [lines, List.length_append]
          omega
      | cons second items =>
          simp only [lines, List.length_append]
          rcases List.mem_cons.mp member with rfl | later
          · omega
          · have := induction later
            omega

theorem block_begins (layout : Layout) (level : Nat) (opening close : Char)
    (items : List (List Char)) :
    ∃ later, layout.block level opening close items = opening :: later := by
  rw [block]
  split_ifs
  · exact ⟨_, rfl⟩
  · exact ⟨_, rfl⟩

theorem newline_all {test : Char → Bool} (line : test '\n' = true) (space : test ' ' = true)
    (layout : Layout) (level : Nat) : (layout.newline level).all test = true := by
  rw [newline, List.all_cons, line, Bool.true_and, List.all_eq_true]
  intro c member
  rwa [List.eq_of_mem_replicate member]

theorem length_lt_block (layout : Layout) (level : Nat) (opening close : Char) {item : List Char}
    {items : List (List Char)} (member : item ∈ items) :
    item.length < (layout.block level opening close items).length := by
  have line_le := length_le_lines layout (level + 1) member
  have not_empty : items.isEmpty = false := by
    rw [List.isEmpty_eq_false_iff]
    exact List.ne_nil_of_mem member
  rw [block, not_empty]
  simp only [Bool.false_eq_true, ↓reduceIte, List.length_append, List.length_singleton]
  omega

section Lines

variable {blank : Reader Unit} {solid : Char → Prop} {layout : Layout} {close : Char}
  (line : ∀ level, Reader.Gap blank solid (layout.newline level))

include line

theorem continues_tail (level : Nat) (items : List (List Char)) :
    Reader.Continues blank solid layout.lastComma close items (layout.tail level close items) := by
  induction items with
  | nil =>
      rw [tail]
      cases comma : layout.lastComma with
      | false => exact .close (line level) fun rest => Reader.ended_cons (by decide) _
      | true => exact .comma (line level) rfl
  | cons item items induction => exact .item (line (level + 1)) induction

/-- A list that was written with one item on each line is read as its values. -/
theorem block_run (marks : Reader.Punctuation blank solid close) {item : Reader α}
    {texts : List (List Char)} {values : List α}
    (reads : List.Forall₂ (Reader.ItemReads solid close item) texts values) (level : Nat)
    (opening : Char) :
    ∃ inside, layout.block level opening close texts = opening :: inside ∧
      ∀ rest, Reader.items blank layout.lastComma close item (inside ++ rest) =
        some (values, rest) := by
  cases reads with
  | nil => exact ⟨[close], rfl, fun rest => Reader.items_close marks marks.no_gap rest⟩
  | @cons first value later values reads_first reads_later =>
      refine ⟨layout.newline (level + 1) ++ (first ++ layout.tail level close later), ?_,
        fun rest => ?_⟩
      · rw [← lines_append]
        simp [block]
      · rw [List.append_assoc, List.append_assoc]
        exact Reader.items_run marks (line (level + 1)) (continues_tail line level later)
          reads_first reads_later rest

end Lines

end Layout
end TextureGraph
