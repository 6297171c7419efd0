/-
**Statements that name a table and list its columns, read back.**

Behind its first words such a statement has the name of the table, and in brackets a list of items, each
of which begins with the name of a column. The list is cut at its commas, but not at those in quotes or in
inner brackets; backslashes are plain signs, as in SQLite and Postgres. A text is `Kept` if it belongs to
one item wherever it stands: what follows it is read as if it were not there.

* `names_columnDefinition`: the definition of a column is kept, whatever its name, type and default are;
* `namedColumns?_written`: the name of the table and those of the columns are read back.
-/

import Mathlib.Data.List.Basic
import Polystore.Proofs.Statement.Quoted
import Polystore.Proofs.Text.Plain
import Polystore.Sql.Definition

namespace Polystore.Sql

open Text (isSign isPlain isPlain_digits isPlain_int isPlain_text)

/-! ### Lists in brackets -/

/-- Where the reader of a list stands. -/
inductive ListPlace where
  /-- Outside of quotes, and in so many inner brackets. -/
  | bare (depth : Nat)
  /-- Behind a mark that has not been closed. -/
  | quoted (mark : Char) (depth : Nat)
  deriving DecidableEq, Repr

/-- The place behind a character. A doubled mark closes the quotes and opens them again. -/
def ListPlace.next (mark : Char) : ListPlace → Char → ListPlace
  | quoted opened depth, character =>
    if character = opened then bare depth else quoted opened depth
  | bare depth, character =>
    if character = mark ∨ character = '\'' then quoted character depth
    else if character = '(' then bare (depth + 1)
    else if character = ')' then bare (depth - 1)
    else bare depth

/-- **The items of a list**, from behind the bracket that opens it up to the one that closes it. -/
def items? (mark : Char) : ListPlace → List Char → Option (List (List Char))
  | _, [] => none
  | place, head :: rest =>
    if place = .bare 0 ∧ head = ')' then some [[]]
    else if place = .bare 0 ∧ head = ',' then (items? mark place rest).map ([] :: ·)
    else (items? mark (place.next mark head) rest).map (·.modifyHead (head :: ·))

/-- **A text that belongs to one item wherever it stands.** -/
def Kept (mark : Char) (text : List Char) : Prop :=
  ∀ depth behind, items? mark (.bare depth) (text ++ behind) =
    (items? mark (.bare depth) behind).map (·.modifyHead (text ++ ·))

section Lists

variable {mark : Char} {place : ListPlace} {head : Char} {first second text behind : List Char}

/-- A character that neither cuts the list nor ends it belongs to the item. -/
theorem items?_cons (passes : ¬ (place = .bare 0 ∧ (head = ')' ∨ head = ','))) (rest : List Char) :
    items? mark place (head :: rest) =
      (items? mark (place.next mark head) rest).map (·.modifyHead (head :: ·)) := by
  rw [items?, if_neg fun ends => passes ⟨ends.1, .inl ends.2⟩,
    if_neg fun cuts => passes ⟨cuts.1, .inr cuts.2⟩]

theorem modifyHead_append (first second : List Char) (items : List (List Char)) :
    (items.modifyHead (second ++ ·)).modifyHead (first ++ ·) =
      items.modifyHead ((first ++ second) ++ ·) := by
  rw [List.modifyHead_modifyHead]
  exact congrArg (items.modifyHead ·) (funext fun text => (List.append_assoc first second text).symm)

theorem map_modifyHead_append (first second : List Char) (items : Option (List (List Char))) :
    (items.map (·.modifyHead (second ++ ·))).map (·.modifyHead (first ++ ·)) =
      items.map (·.modifyHead ((first ++ second) ++ ·)) := by
  rw [Option.map_map]
  exact congrArg (items.map ·) (funext (modifyHead_append first second))

theorem kept_nil : Kept mark [] := fun depth behind => by
  have same : (fun items : List (List Char) => items.modifyHead ([] ++ ·)) = id := List.modifyHead_id
  rw [List.nil_append, same, Option.map_id, id_eq]

theorem Kept.append (former : Kept mark first) (latter : Kept mark second) :
    Kept mark (first ++ second) := fun depth behind => by
  rw [List.append_assoc, former, latter, map_modifyHead_append]

end Lists

section Texts

variable {dialect : SqlDialect} {character : Char} {text : List Char}

theorem ne_quoteMark_of_isSign (plain : isSign character = false) : character ≠ dialect.quoteMark := by
  rintro rfl
  cases dialect <;> cases plain

theorem ne_of_isSign (plain : isSign character = false) :
    character ≠ '\'' ∧ character ≠ '(' ∧ character ≠ ')' ∧ character ≠ ',' := by
  refine ⟨?_, ?_, ?_, ?_⟩ <;> rintro rfl <;> cases plain

theorem kept_plainChars (plain : text.all (!isSign ·) = true) : Kept dialect.quoteMark text := by
  induction text with
  | nil => exact kept_nil
  | cons head rest hypothesis =>
    intro depth behind
    obtain ⟨first, others⟩ := Bool.and_eq_true_iff.mp plain
    have unmarked : isSign head = false := by simpa using first
    have mark : head ≠ dialect.quoteMark := ne_quoteMark_of_isSign unmarked
    obtain ⟨single, opens, closes, comma⟩ := ne_of_isSign unmarked
    have stays : ListPlace.next dialect.quoteMark (.bare depth) head = .bare depth := by
      simp [ListPlace.next, mark, single, opens, closes]
    rw [List.cons_append, items?_cons fun cuts => cuts.2.elim closes comma, stays, hypothesis others]
    exact map_modifyHead_append [head] rest _

/-- A plain text is kept. -/
theorem kept_plain {text : String} (plain : isPlain text = true) : Kept dialect.quoteMark text.toList :=
  kept_plainChars plain

/-- A mark neither cuts a list nor ends it. -/
theorem passes_of_quotes {mark : Char} (quotes : mark = dialect.quoteMark ∨ mark = '\'')
    (place : ListPlace) : ¬ (place = .bare 0 ∧ (mark = ')' ∨ mark = ',')) := by
  rintro ⟨-, rfl | rfl⟩ <;> cases dialect <;> exact absurd quotes (by decide)

theorem next_of_quotes {mark : Char} (quotes : mark = dialect.quoteMark ∨ mark = '\'') (depth : Nat) :
    ListPlace.next dialect.quoteMark (.bare depth) mark = .quoted mark depth :=
  if_pos quotes

/-- Inside of quotes, nothing is cut. -/
theorem items?_doubled {mark : Char} (quotes : mark = dialect.quoteMark ∨ mark = '\'')
    (text : List Char) (depth : Nat) (behind : List Char) :
    items? dialect.quoteMark (.quoted mark depth) (Text.doubled mark text ++ mark :: behind) =
      (items? dialect.quoteMark (.bare depth) behind).map
        (·.modifyHead ((Text.doubled mark text ++ [mark]) ++ ·)) := by
  have closes : ListPlace.next dialect.quoteMark (.quoted mark depth) mark = .bare depth := if_pos rfl
  induction text with
  | nil =>
    show items? dialect.quoteMark (.quoted mark depth) (mark :: behind) = _
    rw [items?_cons (passes_of_quotes quotes _), closes]
    rfl
  | cons head rest hypothesis =>
    by_cases same : head = mark
    · subst same
      rw [Text.doubled, if_pos rfl, List.cons_append, List.cons_append,
        items?_cons (passes_of_quotes quotes _), closes, items?_cons (passes_of_quotes quotes _),
        next_of_quotes quotes, hypothesis]
      exact (congrArg _ (map_modifyHead_append [head] _ _)).trans (map_modifyHead_append [head] _ _)
    · have stays : ListPlace.next dialect.quoteMark (.quoted mark depth) head = .quoted mark depth :=
        if_neg same
      have inside : ListPlace.quoted mark depth ≠ .bare 0 := ListPlace.noConfusion
      rw [Text.doubled, if_neg same, List.cons_append, items?_cons fun cuts => inside cuts.1, stays,
        hypothesis]
      exact map_modifyHead_append [head] _ _

/-- **A text in quotes is kept**, whatever it holds. -/
theorem kept_quotedChars {mark : Char} (quotes : mark = dialect.quoteMark ∨ mark = '\'')
    (text : List Char) : Kept dialect.quoteMark (SqlDialect.quotedChars mark text) := by
  intro depth behind
  have written : SqlDialect.quotedChars mark text ++ behind =
      mark :: (Text.doubled mark text ++ mark :: behind) := by
    simp [SqlDialect.quotedChars]
  rw [written, items?_cons (passes_of_quotes quotes _), next_of_quotes quotes, items?_doubled quotes]
  exact map_modifyHead_append [mark] _ _

/-- A kept text in brackets is kept. -/
theorem Kept.bracketed (kept : Kept dialect.quoteMark text) :
    Kept dialect.quoteMark ('(' :: text ++ [')']) := by
  intro depth behind
  have opens : ListPlace.next dialect.quoteMark (.bare depth) '(' = .bare (depth + 1) := by
    cases dialect <;> rfl
  have closes : ListPlace.next dialect.quoteMark (.bare (depth + 1)) ')' = .bare depth := by
    cases dialect <;> rfl
  have written : '(' :: text ++ [')'] ++ behind = '(' :: (text ++ (')' :: behind)) := by simp
  rw [written, items?_cons fun cuts => by simp at cuts, opens, kept,
    items?_cons fun cuts => by simp at cuts, closes]
  exact (congrArg _ (map_modifyHead_append text [')'] _)).trans (map_modifyHead_append ['('] _ _)

/-! ### Definitions of columns -/

theorem kept_segment (segment : String) :
    Kept dialect.quoteMark (dialect.quoteSegment segment).toList := by
  rw [SqlDialect.quoteSegment]
  split
  · exact kept_plain rfl
  · rw [SqlDialect.quoteWhole, String.toList_ofList]
    exact kept_quotedChars (.inl rfl) segment.toList

theorem kept_joined {segments : List String}
    (each : ∀ segment ∈ segments, Kept dialect.quoteMark segment.toList) :
    Kept dialect.quoteMark (Text.joined "." segments).toList := by
  induction segments with
  | nil => exact kept_nil
  | cons first rest hypothesis =>
    obtain ⟨head, others⟩ := List.forall_mem_cons.mp each
    cases rest with
    | nil => exact head
    | cons second rest =>
      have written : Text.joined "." (first :: second :: rest) =
          first ++ "." ++ Text.joined "." (second :: rest) := rfl
      rw [written, String.toList_append, String.toList_append]
      exact (head.append (kept_plain rfl)).append (hypothesis others)

theorem kept_quote (name : String) : Kept dialect.quoteMark (dialect.quote name).toList :=
  kept_joined fun _ member => by
    obtain ⟨segment, -, rfl⟩ := List.mem_map.mp member
    exact kept_segment segment

/-- **A default is kept**, whatever the value. -/
theorem kept_literal (value : Value) : Kept dialect.quoteMark (dialect.literal value).toList := by
  have quoted (text : String) :
      Kept dialect.quoteMark (SqlDialect.quotedLiteral text).toList := by
    rw [SqlDialect.quotedLiteral, String.toList_ofList]
    exact kept_quotedChars (.inr rfl) text.toList
  have null : Kept dialect.quoteMark "NULL".toList := kept_plain rfl
  cases value with
  | null => exact null
  | undefined => exact null
  | boolean flag => cases dialect <;> cases flag <;> exact kept_plain rfl
  | int32 number => exact kept_plain (isPlain_int number.toInt)
  | int64 number => exact kept_plain (isPlain_int number.toInt)
  | double number => exact kept_plain (isPlain_text ⟨rfl, rfl, rfl, rfl⟩ number)
  | _ => exact quoted _

theorem kept_columnType (type : ColumnType) :
    Kept dialect.quoteMark (dialect.columnType type).toList := by
  have sized (words : String) (size : Nat) (plain : isPlain words = true) :
      Kept dialect.quoteMark (words ++ "(" ++ toString size ++ ")").toList := by
    have digits : Kept dialect.quoteMark (toString size).toList := kept_plain (isPlain_digits size)
    have written : (words ++ "(" ++ toString size ++ ")").toList =
        words.toList ++ ('(' :: (toString size).toList ++ [')']) := by
      simp [String.toList_append]
    rw [written]
    exact (kept_plain plain).append digits.bracketed
  cases type with
  | uuid => exact sized "VARCHAR" 36 rfl
  | string length => exact sized "VARCHAR" length rfl
  | boolean =>
    cases dialect with
    | mySql => exact sized "TINYINT" 1 rfl
    | _ => exact kept_plain rfl
  | _ => cases dialect <;> exact kept_plain rfl

end Texts

/-! ### The names of columns -/

/-- The parts of a name. -/
def nameParts (name : String) : List NamePart := (Text.segmentsOf '.' name).map NamePart.ofSegment

theorem nameParts_injective : Function.Injective nameParts := fun _ _ same => eq_of_parts same

/-- The name at the beginning of an item, behind spaces. -/
def itemName? (mark : Char) (item : List Char) : Option (List NamePart) :=
  (readName? mark (item.dropWhile (· = ' '))).map Prod.fst

/-- **The table and the columns that a statement names** behind its first words. -/
def namedColumns? (mark : Char) (words sql : String) :
    Option (List NamePart × List (List NamePart)) := do
  let (table, behind) ← readName? mark (← Text.dropLeading words.toList sql.toList)
  let items ← items? mark (.bare 0) (← Text.dropLeading " (".toList behind)
  return (table, ← items.mapM (itemName? mark))

/-- A text that stands in a list as one item and begins with the name of a column. -/
structure Names (dialect : SqlDialect) (name : String) (text : List Char) : Prop where
  kept : Kept dialect.quoteMark text
  begins : ∃ behind, text = (dialect.quote name).toList ++ behind ∧
    (behind = [] ∨ behind.head? = some ' ')

section Names

variable {dialect : SqlDialect} {mark : Char} {α : Type} {name : α → String} {text : α → String}

theorem names_quote (name : String) : Names dialect name (dialect.quote name).toList :=
  ⟨kept_quote name, [], (List.append_nil _).symm, .inl rfl⟩

/-- **The definition of a column** names the column, whatever its name, type and default are. -/
theorem names_columnDefinition (column : ColumnBlueprint) :
    Names dialect column.name (columnDefinition dialect column).toList := by
  have space : Kept dialect.quoteMark " ".toList := kept_plain rfl
  have nullability : Kept dialect.quoteMark
      (if column.primary then " PRIMARY KEY" else if column.nullable then "" else " NOT NULL").toList := by
    split
    · exact kept_plain rfl
    · split <;> exact kept_plain rfl
  have uniqueness :
      Kept dialect.quoteMark (if column.unique && !column.primary then " UNIQUE" else "").toList := by
    split <;> exact kept_plain rfl
  simp only [columnDefinition, String.toList_append, List.append_assoc]
  refine ⟨(kept_quote column.name).append (space.append ((kept_columnType column.type).append
    (nullability.append (uniqueness.append ?_)))), _, rfl, .inr rfl⟩
  cases column.default with
  | none => exact kept_plain rfl
  | some value =>
    rw [String.toList_append]
    exact (kept_plain rfl).append (kept_literal value)

/-- No name begins with a space. -/
theorem dropWhile_of_readName? {text : List Char} {found : List NamePart × List Char}
    (unlike : mark ≠ ' ') (named : readName? mark text = some found) :
    text.dropWhile (· = ' ') = text := by
  cases text with
  | nil => rfl
  | cons head rest =>
    refine List.dropWhile_cons_of_neg fun space => ?_
    obtain rfl : head = ' ' := of_decide_eq_true space
    have unread : NamePart.read? mark (' ' :: rest) = none := by
      simp [NamePart.read?, quoted?, Ne.symm unlike]
    rw [readName?] at named
    split at named
    · cases named
    all_goals
      rename_i read
      rw [unread] at read
      cases read

/-- The name of an item is read, with a space before it or none. -/
theorem Names.itemName?_eq {name : String} {text : List Char} (names : Names dialect name text) :
    itemName? dialect.quoteMark text = some (nameParts name) ∧
      itemName? dialect.quoteMark (' ' :: text) = some (nameParts name) := by
  obtain ⟨behind, rfl, follows⟩ := names.begins
  have unlike (character : Char) (other : ' ' ≠ character) : behind.head? ≠ some character := by
    rcases follows with rfl | space
    · nofun
    · rw [space]
      exact fun same => other (Option.some.inj same)
  have marked : ' ' ≠ dialect.quoteMark := by cases dialect <;> decide
  have read := readName?_quote (unlike dialect.quoteMark marked) (unlike '.' (by decide)) name
  have kept := dropWhile_of_readName? marked.symm read
  have skipped (rest : List Char) : (' ' :: rest).dropWhile (· = ' ') = rest.dropWhile (· = ' ') := rfl
  unfold itemName?
  rw [skipped, kept, read]
  exact ⟨rfl, rfl⟩

/-- A list is cut into its items, with the space behind each comma. -/
theorem items?_joined (kept : ∀ item, Kept dialect.quoteMark (text item).toList) (first : α)
    (rest : List α) (behind : List Char) :
    items? dialect.quoteMark (.bare 0)
        ((Text.joined ", " ((first :: rest).map text)).toList ++ ')' :: behind) =
      some ((text first).toList :: rest.map fun item => ' ' :: (text item).toList) := by
  induction rest generalizing first with
  | nil =>
    have ends : items? dialect.quoteMark (.bare 0) (')' :: behind) = some [[]] := if_pos ⟨rfl, rfl⟩
    show items? dialect.quoteMark (.bare 0) ((text first).toList ++ ')' :: behind) = _
    rw [kept first, ends]
    simp
  | cons second rest hypothesis =>
    have cuts (others : List Char) : items? dialect.quoteMark (.bare 0) (',' :: others) =
        (items? dialect.quoteMark (.bare 0) others).map ([] :: ·) := rfl
    have space : Kept dialect.quoteMark [' '] := show Kept _ " ".toList from kept_plain rfl
    have written : (Text.joined ", " ((first :: second :: rest).map text)).toList ++ ')' :: behind =
        (text first).toList ++ (',' :: ([' '] ++
          ((Text.joined ", " ((second :: rest).map text)).toList ++ ')' :: behind))) := by
      simp [Text.joined, String.toList_append]
    rw [written, kept first, cuts, space, hypothesis]
    simp

/-- **The table and its columns are read back.** -/
theorem namedColumns?_written {items : List α} {words sql table : String} (behind : List Char)
    (names : ∀ item, Names dialect (name item) (text item).toList) (present : items ≠ [])
    (written : sql.toList = words.toList ++ ((dialect.quote table).toList ++ (" (".toList ++
      ((Text.joined ", " (items.map text)).toList ++ ')' :: behind)))) :
    namedColumns? dialect.quoteMark words sql =
      some (nameParts table, items.map fun item => nameParts (name item)) := by
  cases items with
  | nil => exact absurd rfl present
  | cons first rest =>
    have marked : ' ' ≠ dialect.quoteMark := by cases dialect <;> decide
    have spaced (character : Char) (other : ' ' ≠ character) (others : List Char) :
        (" (".toList ++ others).head? ≠ some character := fun same => other (Option.some.inj same)
    have columns : (rest.map fun item => ' ' :: (text item).toList).mapM (itemName? dialect.quoteMark) =
        some (rest.map fun item => nameParts (name item)) := by
      rw [List.mapM_map]
      have each : itemName? dialect.quoteMark ∘ (fun item => ' ' :: (text item).toList) =
          fun item => pure (nameParts (name item)) := funext fun item => (names item).itemName?_eq.2
      rw [each, List.mapM_pure]
      rfl
    unfold namedColumns?
    rw [written, Text.dropLeading_append]
    simp only [Option.bind_eq_bind, Option.bind_some]
    rw [readName?_quote (spaced _ marked _) (spaced '.' (by decide) _)]
    simp only [Option.bind_some]
    rw [Text.dropLeading_append]
    simp only [Option.bind_some]
    rw [items?_joined fun item => (names item).kept]
    simp only [Option.bind_some, List.mapM_cons, (names first).itemName?_eq.1, columns]
    rfl

end Names

end Polystore.Sql
