/-
**Quoted names and texts, read back.**

A text in quotes goes on until a mark that no second mark follows; a doubled mark inside of it stands for
one. A name is a list of parts between dots, each in quotes or a bare star. Both are read from the front of
a text, so that what stands behind is seen to be left alone.

* `delimited?_doubled`: a text with doubled marks is read up to its closing mark and not beyond;
* `readName?_joined`: segments in quotes are read one after the other;
* `quoted_enclosed`: so no name and no text ends before its closing mark, whatever it holds.
-/

import Polystore.Sql.Dialect

namespace Polystore.Sql

/-- What stands in front of the closing mark, and the text behind it; a doubled mark stands for one. -/
def delimited? (mark : Char) : List Char → Option (List Char × List Char)
  | [] => none
  | [last] => if last = mark then some ([], []) else none
  | head :: next :: rest =>
    if head = mark then
      if next = mark then (delimited? mark rest).map (Prod.map (mark :: ·) id)
      else some ([], next :: rest)
    else (delimited? mark (next :: rest)).map (Prod.map (head :: ·) id)

/-- **The rule of quotes**: the text between two marks at the front, and what stands behind them. -/
def quoted? (mark : Char) : List Char → Option (List Char × List Char)
  | [] => none
  | head :: rest => if head = mark then delimited? mark rest else none

section Quotes

variable {mark : Char} {text read behind : List Char}

/-- A text with doubled marks is read up to its closing mark. -/
theorem delimited?_doubled (apart : behind.head? ≠ some mark) (text : List Char) :
    delimited? mark (Text.doubled mark text ++ mark :: behind) = some (text, behind) := by
  have closing : delimited? mark (mark :: behind) = some ([], behind) := by
    cases behind with
    | nil => simp [delimited?]
    | cons next rest =>
      have unlike : next ≠ mark := by simpa using apart
      simp [delimited?, unlike]
  induction text with
  | nil => exact closing
  | cons head rest hypothesis =>
    by_cases same : head = mark
    · simp [Text.doubled, same, delimited?, hypothesis]
    · rw [Text.doubled, if_neg same, List.cons_append]
      cases written : Text.doubled mark rest ++ mark :: behind with
      | nil => simp at written
      | cons next others =>
        rw [written] at hypothesis
        simp [delimited?, same, hypothesis]

/-- Only texts with doubled marks are read. -/
theorem eq_of_delimited? (found : delimited? mark text = some (read, behind)) :
    text = Text.doubled mark read ++ mark :: behind := by
  induction text using delimited?.induct mark generalizing read with
  | case1 => cases found
  | case2 =>
    simp only [delimited?, if_true, Option.some.injEq, Prod.mk.injEq] at found
    obtain ⟨rfl, rfl⟩ := found
    rfl
  | case3 last unlike => simp [delimited?, unlike] at found
  | case4 rest hypothesis =>
    simp only [delimited?, if_true, Option.map_eq_some_iff, Prod.exists, Prod.map_apply, Prod.mk.injEq,
      id_eq] at found
    obtain ⟨inner, after, inside, rfl, rfl⟩ := found
    simp [Text.doubled, hypothesis inside]
  | case5 next rest unlike =>
    simp only [delimited?, unlike, if_true, if_false, Option.some.injEq, Prod.mk.injEq] at found
    obtain ⟨rfl, rfl⟩ := found
    rfl
  | case6 head next rest unlike hypothesis =>
    simp only [delimited?, unlike, if_false, Option.map_eq_some_iff, Prod.exists, Prod.map_apply,
      Prod.mk.injEq, id_eq] at found
    obtain ⟨inner, after, inside, rfl, rfl⟩ := found
    simp [Text.doubled, unlike, hypothesis inside]

/-- **A text in quotes is read back**, and nothing behind it. -/
theorem quoted?_quotedChars (apart : behind.head? ≠ some mark) (text : List Char) :
    quoted? mark (SqlDialect.quotedChars mark text ++ behind) = some (text, behind) := by
  have written : SqlDialect.quotedChars mark text ++ behind =
      mark :: (Text.doubled mark text ++ mark :: behind) := by
    simp [SqlDialect.quotedChars]
  rw [written, quoted?, if_pos rfl, delimited?_doubled apart]

theorem length_lt_of_quoted? (found : quoted? mark text = some (read, behind)) :
    behind.length < text.length := by
  cases text with
  | nil => cases found
  | cons head rest =>
    rw [quoted?] at found
    split at found
    · simp only [eq_of_delimited? found, List.length_cons, List.length_append]
      omega
    · cases found

end Quotes

/-! ### Names -/

/-- A part of a name. -/
inductive NamePart where
  /-- The bare star. -/
  | all
  | named (text : String)
  deriving DecidableEq, Repr

namespace NamePart

/-- The part that a segment is written as. -/
def ofSegment (segment : String) : NamePart := if segment = "*" then all else named segment

/-- The segment that a part is written for. -/
def segment : NamePart → String
  | all => "*"
  | named text => text

@[simp] theorem segment_ofSegment (text : String) : (ofSegment text).segment = text := by
  by_cases star : text = "*"
  · simp [ofSegment, star, segment]
  · simp [ofSegment, star, segment]

/-- The part at the front of a text, and what stands behind it. -/
def read? (mark : Char) : List Char → Option (NamePart × List Char)
  | [] => none
  | head :: rest =>
    if head = '*' then some (all, rest)
    else (quoted? mark (head :: rest)).map (Prod.map (fun text => named (String.ofList text)) id)

end NamePart

section Names

variable {mark : Char} {text behind : List Char} {part : NamePart}

theorem length_lt_of_read? (found : NamePart.read? mark text = some (part, behind)) :
    behind.length < text.length := by
  cases text with
  | nil => cases found
  | cons head rest =>
    rw [NamePart.read?] at found
    split at found
    · obtain ⟨-, rfl⟩ := Prod.mk.inj (Option.some.inj found)
      simp
    · obtain ⟨⟨read, after⟩, quoted, same⟩ := Option.map_eq_some_iff.mp found
      obtain ⟨-, rfl⟩ := Prod.mk.inj same
      exact length_lt_of_quoted? quoted

/-- **The rule of names**: the parts between dots at the front, and what stands behind the last one. -/
def readName? (mark : Char) (text : List Char) : Option (List NamePart × List Char) :=
  match _ : NamePart.read? mark text with
  | none => none
  | some (part, '.' :: rest) => (readName? mark rest).map (Prod.map (part :: ·) id)
  | some (part, rest) => some ([part], rest)
termination_by text.length
decreasing_by
  have shorter := length_lt_of_read? ‹_›
  simp only [List.length_cons] at shorter
  omega

/-- A part that a dot follows is read before the parts behind the dot. -/
theorem readName?_of_dot (found : NamePart.read? mark text = some (part, '.' :: behind)) :
    readName? mark text = (readName? mark behind).map (Prod.map (part :: ·) id) := by
  rw [readName?]
  split
  · rename_i none
    rw [found] at none
    cases none
  · rename_i read
    rw [found] at read
    obtain ⟨rfl, tails⟩ := Prod.mk.inj (Option.some.inj read)
    rw [(List.cons.inj tails).2]
  · rename_i undotted read
    rw [found] at read
    obtain ⟨rfl, rfl⟩ := Prod.mk.inj (Option.some.inj read)
    exact absurd rfl (undotted _)

/-- A part that no dot follows is the last one. -/
theorem readName?_of_last (found : NamePart.read? mark text = some (part, behind))
    (last : behind.head? ≠ some '.') : readName? mark text = some ([part], behind) := by
  rw [readName?]
  split
  · rename_i none
    rw [found] at none
    cases none
  · rename_i read
    rw [found] at read
    obtain ⟨rfl, rfl⟩ := Prod.mk.inj (Option.some.inj read)
    exact absurd rfl last
  · rename_i read
    rw [found] at read
    obtain ⟨rfl, rfl⟩ := Prod.mk.inj (Option.some.inj read)
    rfl

end Names

section Segments

variable {dialect : SqlDialect} {behind : List Char}

theorem star_ne_quoteMark (dialect : SqlDialect) : dialect.quoteMark ≠ '*' := by
  cases dialect <;> decide

theorem dot_ne_quoteMark (dialect : SqlDialect) : '.' ≠ dialect.quoteMark := by
  cases dialect <;> decide

/-- A segment is read as its part. -/
theorem read?_quoteSegment (apart : behind.head? ≠ some dialect.quoteMark) (segment : String) :
    NamePart.read? dialect.quoteMark ((dialect.quoteSegment segment).toList ++ behind) =
      some (NamePart.ofSegment segment, behind) := by
  by_cases star : segment = "*"
  · simp [SqlDialect.quoteSegment, NamePart.ofSegment, star, NamePart.read?]
  · have written : (dialect.quoteSegment segment).toList =
        SqlDialect.quotedChars dialect.quoteMark segment.toList := by
      simp [SqlDialect.quoteSegment, SqlDialect.quoteWhole, star]
    have opened (text : List Char) :
        NamePart.read? dialect.quoteMark (SqlDialect.quotedChars dialect.quoteMark text ++ behind) =
          (quoted? dialect.quoteMark (SqlDialect.quotedChars dialect.quoteMark text ++ behind)).map
            (Prod.map (fun read => .named (String.ofList read)) id) :=
      if_neg (star_ne_quoteMark dialect)
    rw [written, opened, quoted?_quotedChars apart]
    simp [NamePart.ofSegment, star]

/-- **Segments in quotes are read one after the other.** -/
theorem readName?_joined (apart : behind.head? ≠ some dialect.quoteMark) (last : behind.head? ≠ some '.')
    {segments : List String} (present : segments ≠ []) :
    readName? dialect.quoteMark
        ((Text.joined "." (segments.map dialect.quoteSegment)).toList ++ behind) =
      some (segments.map NamePart.ofSegment, behind) := by
  induction segments with
  | nil => exact absurd rfl present
  | cons first rest hypothesis =>
    cases rest with
    | nil => exact readName?_of_last (read?_quoteSegment apart first) last
    | cons second others =>
      have written : (Text.joined "." ((first :: second :: others).map dialect.quoteSegment)).toList =
          (dialect.quoteSegment first).toList ++
            '.' :: (Text.joined "." ((second :: others).map dialect.quoteSegment)).toList := by
        simp [Text.joined, String.toList_append]
      have apartDot (text : List Char) : ('.' :: text).head? ≠ some dialect.quoteMark := by
        simpa using dot_ne_quoteMark dialect
      rw [written, List.append_assoc, List.cons_append,
        readName?_of_dot (read?_quoteSegment (apartDot _) first),
        hypothesis (List.cons_ne_nil second others)]
      rfl

/-- A quoted name is read as its segments. -/
theorem readName?_quote (apart : behind.head? ≠ some dialect.quoteMark) (last : behind.head? ≠ some '.')
    (name : String) :
    readName? dialect.quoteMark ((dialect.quote name).toList ++ behind) =
      some ((Text.segmentsOf '.' name).map NamePart.ofSegment, behind) :=
  readName?_joined apart last (Text.segmentsOf_ne_nil '.' name)

/-- The parts of a name tell the name. -/
theorem eq_of_parts {first second : String}
    (same : (Text.segmentsOf '.' first).map NamePart.ofSegment =
      (Text.segmentsOf '.' second).map NamePart.ofSegment) : first = second := by
  have segments := congrArg (List.map NamePart.segment) same
  simp only [List.map_map, Function.comp_def, NamePart.segment_ofSegment, List.map_id'] at segments
  exact Text.eq_of_segmentsOf segments

theorem quote_injective (dialect : SqlDialect) : Function.Injective dialect.quote := by
  intro first second same
  have alone (character : Char) : ([] : List Char).head? ≠ some character := nofun
  have read (name : String) : readName? dialect.quoteMark ((dialect.quote name).toList ++ []) =
      some ((Text.segmentsOf '.' name).map NamePart.ofSegment, []) :=
    readName?_quote (alone _) (alone '.') name
  have former := read first
  rw [same, read second] at former
  exact eq_of_parts (Prod.mk.inj (Option.some.inj former)).1.symm

end Segments

/-- **Quoted names and texts cannot be broken out of**, whatever they hold: a quoted name is read as its
segments, stars bare, so that no two names are quoted alike; a name quoted whole is read as this one name,
and a text literal as this text, where backslashes are plain signs as in SQLite and Postgres. What stands
behind is left as it is, unless it goes on with the mark or, for a name, with a dot. -/
theorem quoted_enclosed (dialect : SqlDialect) :
    (∀ (name : String) (behind : List Char), behind.head? ≠ some dialect.quoteMark →
      behind.head? ≠ some '.' →
        readName? dialect.quoteMark ((dialect.quote name).toList ++ behind) =
          some ((Text.segmentsOf '.' name).map NamePart.ofSegment, behind)) ∧
    Function.Injective dialect.quote ∧
    (∀ (name : String) (behind : List Char), behind.head? ≠ some dialect.quoteMark →
      quoted? dialect.quoteMark ((dialect.quoteWhole name).toList ++ behind) =
        some (name.toList, behind)) ∧
    ∀ (text : String) (behind : List Char), behind.head? ≠ some '\'' →
      quoted? '\'' ((dialect.literal (.string text)).toList ++ behind) = some (text.toList, behind) := by
  refine ⟨fun name behind apart last => readName?_quote apart last name, quote_injective dialect, ?_, ?_⟩
  · intro name behind apart
    rw [SqlDialect.quoteWhole, String.toList_ofList]
    exact quoted?_quotedChars apart name.toList
  · intro text behind apart
    rw [SqlDialect.literal, SqlDialect.quotedLiteral, String.toList_ofList]
    exact quoted?_quotedChars apart text.toList

theorem quoted_enclosed_hostile :
    readName? '"' ("\"people\".*.\"\".\"--\"\"\"".toList ++ " = 1".toList) =
      some ([.named "people", .all, .named "", .named "--\""], " = 1".toList) ∧
    quoted? '\x60' ((SqlDialect.mySql.quoteWhole "a\x60 /* .b").toList ++ []) =
      some ("a\x60 /* .b".toList, []) ∧
    quoted? '\'' ("'it''s'".toList ++ ";".toList) = some ("it's".toList, ";".toList) :=
  ⟨(quoted_enclosed .sqlite).1 "people.*..--\"" " = 1".toList (by decide) (by decide),
    (quoted_enclosed .mySql).2.2.1 "a\x60 /* .b" [] (by decide),
    (quoted_enclosed .postgres).2.2.2 "it's" ";".toList (by decide)⟩

end Polystore.Sql
