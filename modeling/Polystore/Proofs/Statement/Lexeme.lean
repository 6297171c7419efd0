/-
**The lexemes of SQL.**

`Lexeme.lexemesOf` reads a text character by character: names in quotes, words, operators, and single
signs. A name ends at a quote that no second one follows. `Lexeme.resolved` puts the bound values in
the places of a text.

* `lexemesOf_append`: texts that meet at a delimiter are read one after the other;
* `lexemes_statement`: what is read of a statement is what is read of its pieces, each value in the
  place where it was bound.
-/

import Polystore.Sql.Condition

namespace Polystore.Sql

/-- The words of conditions. -/
inductive Keyword where
  /-- `WHERE` -/
  | filter
  | and
  | or
  /-- `NOT` -/
  | negation
  /-- `IS` -/
  | identity
  | null
  /-- `IN` -/
  | membership
  /-- `BETWEEN` -/
  | range
  /-- `LIKE` -/
  | pattern
  | lower
  deriving DecidableEq, Repr

/-- The keyword that a word in upper case is. -/
def Keyword.ofText? : String → Option Keyword
  | "WHERE" => some filter
  | "AND" => some and
  | "OR" => some or
  | "NOT" => some negation
  | "IS" => some identity
  | "NULL" => some null
  | "IN" => some membership
  | "BETWEEN" => some range
  | "LIKE" => some pattern
  | "LOWER" => some lower
  | _ => none

/-- The operator that a run of signs is. -/
def operatorOf? : String → Option Operator
  | "=" => some .equal
  | "<>" | "!=" => some .notEqual
  | ">" => some .greater
  | ">=" => some .greaterOrEqual
  | "<" => some .less
  | "<=" => some .lessOrEqual
  | _ => none

/-- A lexeme. -/
inductive Lexeme where
  /-- A name in quotes. -/
  | name (text : String)
  | keyword (keyword : Keyword)
  | operator (operator : Operator)
  | number (number : Nat)
  /-- The place of a value, with its number if one is written. -/
  | place (number : Option Nat)
  /-- A value in its place. -/
  | bound (value : Value)
  | sign (character : Char)
  | other (text : List Char)

/-- The characters that run on: of words and of operators. -/
inductive CharClass where
  | word
  | operator
  deriving DecidableEq, Repr

namespace CharClass

def of? (character : Char) : Option CharClass :=
  if character.isAlphanum || character = '_' || character = '$' then some word
  else if character ∈ ['=', '<', '>', '!'] then some operator
  else none

end CharClass

namespace Lexeme

/-- Whether a text consists of digits. -/
def isNumber (text : List Char) : Bool := !text.isEmpty && text.all Char.isDigit

/-- The lexeme of a word. -/
def ofWord (text : List Char) : Lexeme :=
  if isNumber text then .number (Nat.ofDigitChars 10 text 0)
  else if text.head? = some '$' && isNumber text.tail then
    .place (some (Nat.ofDigitChars 10 text.tail 0))
  else
    match Keyword.ofText? (String.ofList (text.map Char.toUpper)) with
    | some word => .keyword word
    | none => .other text

/-- The lexeme of a run of characters of one class. -/
def ofRun : CharClass → List Char → Lexeme
  | .word, text => ofWord text
  | .operator, text =>
    match operatorOf? (String.ofList text) with
    | some comparison => .operator comparison
    | none => .other text

/-- The lexeme that has begun. -/
inductive Pending where
  | nothing
  | run (kind : CharClass) (text : List Char)
  /-- Inside of quotes. -/
  | quoted (text : List Char)
  /-- Behind a quote, which ends the name unless a second one follows. -/
  | closed (text : List Char)

namespace Pending

/-- The lexeme that has begun as it is when the text ends. -/
def lexemes : Pending → List Lexeme
  | nothing => []
  | run kind text => [ofRun kind text]
  | quoted text => [.other text]
  | closed text => [.name (String.ofList text)]

/-- Whether the text goes on outside of quotes. -/
def isOutside : Pending → Bool
  | quoted _ => false
  | _ => true

/-- What a character gives at the beginning of a lexeme. -/
def started (mark character : Char) : List Lexeme × Pending :=
  if character = mark then ([], quoted [])
  else
    match CharClass.of? character with
    | some kind => ([], run kind [character])
    | none =>
      if character = ' ' then ([], nothing)
      else if character = '?' then ([.place none], nothing)
      else ([.sign character], nothing)

/-- What a character completes, and the lexeme that has begun behind it. -/
def next (mark : Char) (pending : Pending) (character : Char) : List Lexeme × Pending :=
  let (others, following) := started mark character
  match pending with
  | nothing => (others, following)
  | quoted text => if character = mark then ([], closed text) else ([], quoted (text ++ [character]))
  | closed text =>
    if character = mark then ([], quoted (text ++ [character]))
    else (.name (String.ofList text) :: others, following)
  | run kind text =>
    if character ≠ mark ∧ CharClass.of? character = some kind then ([], run kind (text ++ [character]))
    else (ofRun kind text :: others, following)

/-- The lexeme that has begun behind a text. -/
def after (mark : Char) (pending : Pending) (text : List Char) : Pending :=
  text.foldl (fun pending character => (pending.next mark character).2) pending

end Pending

/-- The lexemes of a text behind a lexeme that has begun. -/
def lexemesFrom (mark : Char) : Pending → List Char → List Lexeme
  | pending, [] => pending.lexemes
  | pending, character :: rest =>
    (pending.next mark character).1 ++ lexemesFrom mark (pending.next mark character).2 rest

/-- **The lexemes of a text**, where names stand between the given quotes. -/
def lexemesOf (mark : Char) (text : String) : List Lexeme := lexemesFrom mark .nothing text.toList

/-- The characters at which every lexeme outside of quotes ends. -/
def isDelimiter (character : Char) : Bool := [' ', '(', ')', ',', '.'].contains character

/-- The value of a place; one without a value stays a place. -/
def placed (bindings : List Value) (ordinal : Nat) : Lexeme :=
  match bindings[ordinal - 1]? with
  | some value => if ordinal = 0 then .place (some ordinal) else .bound value
  | none => .place (some ordinal)

/-- The lexemes with the bound values in their places; a place without a number takes the value behind
those of the places before it. -/
def resolved (bindings : List Value) : Nat → List Lexeme → List Lexeme
  | _, [] => []
  | count, .place ordinal :: rest =>
    placed bindings (ordinal.getD (count + 1)) :: resolved bindings (count + 1) rest
  | count, lexeme :: rest => lexeme :: resolved bindings count rest

def isPlace : Lexeme → Bool
  | place _ => true
  | _ => false

end Lexeme

end Polystore.Sql

namespace Polystore

open Sql Sql.Lexeme

/-- **The lexemes of a statement**, with its values in their places. -/
def SqlDialect.lexemes (dialect : SqlDialect) (statement : Statement) : List Lexeme :=
  resolved statement.bindings 0 (lexemesOf dialect.quoteMark statement.sql)

namespace Fragment

/-- The lexemes of a piece of a statement. -/
def lexemes (dialect : SqlDialect) : Fragment → List Lexeme
  | text sql => lexemesOf dialect.quoteMark sql
  | value given => [.bound given]

/-- Whether pieces can follow any other piece: they begin with a delimiter, or there are none. -/
def startDelimited : List Fragment → Bool
  | [] => true
  | text sql :: _ => sql.toList.head?.any isDelimiter
  | value _ :: _ => false

/-- The lexemes of pieces, where values still are places and `count` values stand before. -/
def placeholders (dialect : SqlDialect) : Nat → List Fragment → List Lexeme
  | _, [] => []
  | count, text sql :: rest => lexemesOf dialect.quoteMark sql ++ placeholders dialect count rest
  | count, value _ :: rest =>
    lexemesOf dialect.quoteMark (dialect.placeholder (count + 1)) ++ placeholders dialect (count + 1) rest

end Fragment

/-- **A text that gives lexemes**: it ends outside of quotes and has no places for values. -/
structure Reads (dialect : SqlDialect) (sql : String) (found : List Lexeme) : Prop where
  outside : (Pending.nothing.after dialect.quoteMark sql.toList).isOutside = true
  lexemes : lexemesOf dialect.quoteMark sql = found
  unplaced : found.any Lexeme.isPlace = false

/-- Whether a text completes its last lexeme. -/
def Closes (dialect : SqlDialect) (sql : String) : Prop :=
  Pending.nothing.after dialect.quoteMark sql.toList = .nothing

/-- Pieces of which no two run together. -/
def Apart (dialect : SqlDialect) : List Fragment → Prop
  | [] => True
  | .text sql :: rest =>
    Reads dialect sql (lexemesOf dialect.quoteMark sql) ∧
      (Closes dialect sql ∨ Fragment.startDelimited rest = true) ∧ Apart dialect rest
  | .value _ :: rest => Fragment.startDelimited rest = true ∧ Apart dialect rest

/-! ### Texts that meet at a delimiter -/

namespace Sql.Lexeme

section Scan

variable {mark : Char}

theorem Pending.after_append (pending : Pending) (first second : List Char) :
    pending.after mark (first ++ second) = (pending.after mark first).after mark second :=
  List.foldl_append

/-- A delimiter completes the lexeme that has begun. -/
theorem Pending.next_delimiter {pending : Pending} {character : Char}
    (outside : pending.isOutside = true) (delimits : isDelimiter character = true)
    (unlike : character ≠ mark) :
    pending.next mark character =
      (pending.lexemes ++ (Pending.nothing.next mark character).1,
        (Pending.nothing.next mark character).2) := by
  have classless : CharClass.of? character = none := by
    simp only [isDelimiter, List.contains_eq_mem, List.mem_cons, List.not_mem_nil, or_false,
      decide_eq_true_eq] at delimits
    rcases delimits with rfl | rfl | rfl | rfl | rfl <;> rfl
  cases pending with
  | nothing => rfl
  | run kind text => simp [Pending.next, Pending.lexemes, unlike, classless]
  | quoted text => cases outside
  | closed text => simp [Pending.next, Pending.lexemes, unlike]

/-- Behind nothing that has begun, reading begins anew. -/
theorem lexemesFrom_append_of_nothing {pending : Pending} {first : List Char} (second : List Char)
    (closes : pending.after mark first = .nothing) :
    lexemesFrom mark pending (first ++ second) =
      lexemesFrom mark pending first ++ lexemesFrom mark .nothing second := by
  induction first generalizing pending with
  | nil =>
    obtain rfl : pending = .nothing := closes
    rfl
  | cons head rest hypothesis =>
    rw [List.cons_append, lexemesFrom, lexemesFrom, hypothesis closes, List.append_assoc]

/-- Before a delimiter, reading ends as at the end of the text. -/
theorem lexemesFrom_append_of_delimiter {pending : Pending} {first : List Char} {head : Char}
    (rest : List Char) (outside : (pending.after mark first).isOutside = true)
    (delimits : isDelimiter head = true) (unlike : head ≠ mark) :
    lexemesFrom mark pending (first ++ head :: rest) =
      lexemesFrom mark pending first ++ lexemesFrom mark .nothing (head :: rest) := by
  induction first generalizing pending with
  | nil =>
    have here : pending.isOutside = true := outside
    simp only [List.nil_append, lexemesFrom, Pending.next_delimiter here delimits unlike,
      List.append_assoc]
  | cons first others hypothesis =>
    rw [List.cons_append, lexemesFrom, lexemesFrom, hypothesis outside, List.append_assoc]

/-- What has begun behind a text does not depend on what stands before its first delimiter. -/
theorem Pending.after_of_delimiter {pending : Pending} {head : Char} (rest : List Char)
    (outside : pending.isOutside = true) (delimits : isDelimiter head = true) (unlike : head ≠ mark) :
    pending.after mark (head :: rest) = Pending.nothing.after mark (head :: rest) := by
  unfold Pending.after
  rw [List.foldl_cons, List.foldl_cons, Pending.next_delimiter outside delimits unlike]

end Scan

theorem ne_quoteMark {dialect : SqlDialect} {character : Char}
    (delimits : isDelimiter character = true) : character ≠ dialect.quoteMark := by
  simp only [isDelimiter, List.contains_eq_mem, List.mem_cons, List.not_mem_nil, or_false,
    decide_eq_true_eq] at delimits
  rcases delimits with rfl | rfl | rfl | rfl | rfl <;> cases dialect <;> decide

end Sql.Lexeme

namespace Reads

variable {dialect : SqlDialect} {first second : String} {found more : List Lexeme}

/-- A text behind another one is read anew if the first is complete or the second begins with a
delimiter. -/
theorem lexemesOf_append
    (outside : (Pending.nothing.after dialect.quoteMark first.toList).isOutside = true)
    (seam : Closes dialect first ∨ second.toList.head?.any isDelimiter = true) :
    lexemesOf dialect.quoteMark (first ++ second) =
      lexemesOf dialect.quoteMark first ++ lexemesOf dialect.quoteMark second := by
  unfold lexemesOf
  rw [String.toList_append]
  rcases seam with closes | starts
  · exact lexemesFrom_append_of_nothing _ closes
  · cases text : second.toList with
    | nil => simp [text] at starts
    | cons head rest =>
      have delimits : isDelimiter head = true := by simpa [text] using starts
      exact lexemesFrom_append_of_delimiter rest outside delimits (ne_quoteMark delimits)

theorem after_append
    (outside : (Pending.nothing.after dialect.quoteMark first.toList).isOutside = true)
    (seam : Closes dialect first ∨ second.toList.head?.any isDelimiter = true) :
    Pending.nothing.after dialect.quoteMark (first ++ second).toList =
      Pending.nothing.after dialect.quoteMark second.toList := by
  rw [String.toList_append, Pending.after_append]
  rcases seam with closes | starts
  · rw [closes]
  · cases text : second.toList with
    | nil => simp [text] at starts
    | cons head rest =>
      have delimits : isDelimiter head = true := by simpa [text] using starts
      exact Pending.after_of_delimiter rest outside delimits (ne_quoteMark delimits)

/-- **Texts that meet at a delimiter are read one after the other.** -/
theorem append (former : Reads dialect first found) (latter : Reads dialect second more)
    (seam : Closes dialect first ∨ second.toList.head?.any isDelimiter = true) :
    Reads dialect (first ++ second) (found ++ more) where
  outside := by
    rw [after_append former.outside seam]
    exact latter.outside
  lexemes := by rw [lexemesOf_append former.outside seam, former.lexemes, latter.lexemes]
  unplaced := by rw [List.any_append, former.unplaced, latter.unplaced, Bool.or_false]

/-- Behind a text that gives lexemes, anything may follow that begins with a delimiter. -/
theorem exists_append (reads : Reads dialect first found)
    (follows : second = "" ∨ second.toList.head?.any isDelimiter = true) :
    ∃ more, lexemesOf dialect.quoteMark (first ++ second) = found ++ more := by
  rcases follows with rfl | starts
  · exact ⟨[], by rw [String.append_empty, List.append_nil, reads.lexemes]⟩
  · exact ⟨_, by rw [lexemesOf_append reads.outside (.inr starts), reads.lexemes]⟩

/-- A text that gives some lexemes gives those that are read of it. -/
theorem own (reads : Reads dialect first found) :
    Reads dialect first (lexemesOf dialect.quoteMark first) := by
  rw [reads.lexemes]
  exact reads

end Reads

/-! ### Names in quotes -/

section Names

variable {dialect : SqlDialect}

/-- Doubled quotes inside of a name are read as single ones. -/
theorem after_doubled (mark : Char) (before text : List Char) :
    (Pending.quoted before).after mark (Text.doubled mark text) = .quoted (before ++ text) := by
  induction text generalizing before with
  | nil => rw [List.append_nil]; rfl
  | cons head rest hypothesis =>
    have stepped := hypothesis (before ++ [head])
    rw [List.append_assoc, List.singleton_append] at stepped
    rw [← stepped, Text.doubled]
    by_cases equal : head = mark
    · rw [if_pos equal]
      simp [Pending.after, Pending.next, equal]
    · rw [if_neg equal]
      simp [Pending.after, Pending.next, equal]

/-- Inside of quotes nothing is completed. -/
theorem lexemesFrom_doubled (mark : Char) (before text rest : List Char) :
    lexemesFrom mark (.quoted before) (Text.doubled mark text ++ rest) =
      lexemesFrom mark (.quoted (before ++ text)) rest := by
  induction text generalizing before with
  | nil => simp [Text.doubled]
  | cons head others hypothesis =>
    have stepped := hypothesis (before ++ [head])
    rw [List.append_assoc, List.singleton_append] at stepped
    rw [← stepped, Text.doubled]
    by_cases equal : head = mark
    · rw [if_pos equal]
      simp [lexemesFrom, Pending.next, equal]
    · rw [if_neg equal]
      simp [lexemesFrom, Pending.next, equal]

/-- **A name in quotes is read back.** -/
theorem reads_quoteWhole (name : String) : Reads dialect (dialect.quoteWhole name) [.name name] := by
  have written : (dialect.quoteWhole name).toList =
      dialect.quoteMark :: (Text.doubled dialect.quoteMark name.toList ++ [dialect.quoteMark]) := by
    rw [SqlDialect.quoteWhole, String.toList_ofList]
    rfl
  refine ⟨?_, ?_, rfl⟩
  · rw [written, ← List.singleton_append, Pending.after_append, Pending.after_append]
    have opened : Pending.nothing.after dialect.quoteMark [dialect.quoteMark] = .quoted [] := by
      simp [Pending.after, Pending.next, Pending.started]
    rw [opened, after_doubled, Pending.after, List.foldl_cons, List.foldl_nil]
    simp [Pending.next, Pending.isOutside]
  · unfold lexemesOf
    rw [written, lexemesFrom]
    have opened : Pending.nothing.next dialect.quoteMark dialect.quoteMark = ([], .quoted []) := by
      simp [Pending.next, Pending.started]
    rw [opened, lexemesFrom_doubled]
    simp [lexemesFrom, Pending.next, Pending.lexemes, String.ofList_toList]

/-- The lexemes of a dotted name. -/
def dotted : List String → List Lexeme
  | [] => []
  | [only] => [.name only]
  | first :: rest => .name first :: .sign '.' :: dotted rest

/-- A segment of a name: a star stands without quotes. -/
def segmentLexeme (segment : String) : Lexeme := if segment = "*" then .sign '*' else .name segment

/-- The lexemes of a path, in which segments may be stars. -/
def pathLexemes : List String → List Lexeme
  | [] => []
  | [only] => [segmentLexeme only]
  | first :: rest => segmentLexeme first :: .sign '.' :: pathLexemes rest

theorem reads_segment (segment : String) :
    Reads dialect (dialect.quoteSegment segment) [segmentLexeme segment] := by
  rw [SqlDialect.quoteSegment, segmentLexeme]
  by_cases star : segment = "*"
  · rw [if_pos star, if_pos star]
    cases dialect <;> exact ⟨rfl, rfl, rfl⟩
  · rw [if_neg star, if_neg star]
    exact reads_quoteWhole segment

/-- **A path is read segment by segment.** -/
theorem reads_path (segments : List String) :
    Reads dialect (Text.joined "." (segments.map dialect.quoteSegment)) (pathLexemes segments) := by
  induction segments with
  | nil => exact ⟨rfl, rfl, rfl⟩
  | cons first rest hypothesis =>
    have head : Reads dialect (dialect.quoteSegment first) [segmentLexeme first] := reads_segment first
    cases rest with
    | nil => exact head
    | cons second rest =>
      have dot : Reads dialect "." [.sign '.'] := by cases dialect <;> exact ⟨rfl, rfl, rfl⟩
      have closes : Closes dialect (dialect.quoteSegment first ++ ".") := by
        unfold Closes
        rw [Reads.after_append head.outside (.inr rfl)]
        cases dialect <;> rfl
      exact (head.append dot (.inr rfl)).append hypothesis (.inl closes)

/-- Without stars there are only names. -/
theorem pathLexemes_of_starless {segments : List String} (starless : "*" ∉ segments) :
    pathLexemes segments = dotted segments := by
  induction segments with
  | nil => rfl
  | cons first rest hypothesis =>
    have single : segmentLexeme first = .name first :=
      if_neg fun star => starless (List.mem_cons.mpr (.inl star.symm))
    cases rest with
    | nil => rw [pathLexemes, dotted, single]
    | cons second rest =>
      rw [pathLexemes, dotted, single, hypothesis fun member => starless (List.mem_cons_of_mem _ member)]
      · nofun
      · nofun

end Names

/-! ### Placeholders and their values -/

section Values

variable {dialect : SqlDialect}

/-- A run of characters of one class is one lexeme. -/
theorem lexemesFrom_run {mark : Char} {kind : CharClass} {rest : List Char} (before : List Char)
    (same : ∀ character ∈ rest, character ≠ mark ∧ CharClass.of? character = some kind) :
    lexemesFrom mark (.run kind before) rest = [ofRun kind (before ++ rest)] ∧
      (Pending.run kind before).after mark rest = .run kind (before ++ rest) := by
  induction rest generalizing before with
  | nil => simp [lexemesFrom, Pending.lexemes, Pending.after]
  | cons head rest hypothesis =>
    obtain ⟨unlike, classed⟩ := same head List.mem_cons_self
    have step : (Pending.run kind before).next mark head = ([], .run kind (before ++ [head])) := by
      simp [Pending.next, unlike, classed]
    have others := hypothesis (before ++ [head]) fun character member =>
      same character (List.mem_cons_of_mem _ member)
    rw [List.append_assoc, List.singleton_append] at others
    refine ⟨?_, ?_⟩
    · rw [lexemesFrom, step, List.nil_append, others.1]
    · rw [Pending.after, List.foldl_cons, step]
      exact others.2

theorem isNumber_toDigits (number : Nat) : isNumber (Nat.toDigits 10 number) = true := by
  rw [isNumber, Bool.and_eq_true, List.all_eq_true]
  refine ⟨?_, fun digit member => Nat.isDigit_of_mem_toDigits (by decide) (by decide) member⟩
  rw [Bool.not_eq_true', List.isEmpty_eq_false_iff]
  exact Nat.toDigits_ne_nil

/-- A dollar sign and a number are one place. -/
theorem ofWord_dollar (number : Nat) :
    ofWord ('$' :: Nat.toDigits 10 number) = .place (some number) := by
  have noNumber : isNumber ('$' :: Nat.toDigits 10 number) = false := rfl
  rw [ofWord, noNumber, if_neg Bool.false_ne_true, List.tail_cons, isNumber_toDigits,
    Nat.ofDigitChars_ten_toDigits]
  rfl

/-- **A placeholder is one place.** -/
theorem reads_placeholder (dialect : SqlDialect) (number : Nat) :
    (Pending.nothing.after dialect.quoteMark (dialect.placeholder number).toList).isOutside = true ∧
    ∃ ordinal : Option Nat, ordinal.getD number = number ∧
      lexemesOf dialect.quoteMark (dialect.placeholder number) = [.place ordinal] := by
  cases dialect with
  | sqlite =>
    have written : SqlDialect.sqlite.placeholder number = "?" := rfl
    rw [written]
    exact ⟨rfl, none, rfl, rfl⟩
  | mySql =>
    have written : SqlDialect.mySql.placeholder number = "?" := rfl
    rw [written]
    exact ⟨rfl, none, rfl, rfl⟩
  | postgres =>
    have written : (SqlDialect.postgres.placeholder number).toList =
        '$' :: Nat.toDigits 10 number := by
      rw [SqlDialect.placeholder, String.toList_append, Nat.toString_eq_ofList_toDigits,
        String.toList_ofList, String.toList_ofList, List.singleton_append]
    have digits : ∀ character ∈ Nat.toDigits 10 number,
        character ≠ '"' ∧ CharClass.of? character = some .word := by
      intro character member
      have digit := Nat.isDigit_of_mem_toDigits (by decide) (by decide) member
      refine ⟨?_, ?_⟩
      · rintro rfl
        exact absurd digit (by decide)
      · simp [CharClass.of?, Char.isAlphanum, digit]
    obtain ⟨lexemes, after⟩ := lexemesFrom_run ['$'] digits
    refine ⟨?_, some number, rfl, ?_⟩
    · rw [written]
      exact congrArg Pending.isOutside after
    · unfold lexemesOf
      rw [written]
      exact lexemes.trans (congrArg ([·]) (ofWord_dollar number))

/-- Pieces that can follow any other begin with a delimiter when they are written, unless there are
none. -/
theorem render_startDelimited {pieces : List Fragment} (starts : Fragment.startDelimited pieces = true)
    (count : Nat) :
    Fragment.render dialect.placeholder count pieces = "" ∨
      (Fragment.render dialect.placeholder count pieces).toList.head?.any isDelimiter = true := by
  cases pieces with
  | nil => exact .inl rfl
  | cons piece rest =>
    cases piece with
    | value bound => cases starts
    | text sql =>
      right
      have head : sql.toList.head?.any isDelimiter = true := starts
      rw [Fragment.render, String.toList_append]
      cases text : sql.toList with
      | nil => simp [text] at head
      | cons first others => simpa [text] using head

/-- What is read of written pieces is what is read of each. -/
theorem lexemesOf_render {pieces : List Fragment} (apart : Apart dialect pieces) (count : Nat) :
    lexemesOf dialect.quoteMark (Fragment.render dialect.placeholder count pieces) =
      Fragment.placeholders dialect count pieces := by
  have joined : ∀ {first : String} {rest : List Fragment} {number : Nat},
      (Pending.nothing.after dialect.quoteMark first.toList).isOutside = true →
      Closes dialect first ∨ Fragment.startDelimited rest = true →
      lexemesOf dialect.quoteMark (first ++ Fragment.render dialect.placeholder number rest) =
        lexemesOf dialect.quoteMark first ++
          lexemesOf dialect.quoteMark (Fragment.render dialect.placeholder number rest) := by
    intro first rest number outside seam
    rcases seam with closes | starts
    · exact Reads.lexemesOf_append outside (.inl closes)
    · rcases render_startDelimited starts number with nothing | delimited
      · rw [nothing]
        simp [lexemesOf, lexemesFrom, Pending.lexemes]
      · exact Reads.lexemesOf_append outside (.inr delimited)
  induction pieces generalizing count with
  | nil => rfl
  | cons piece rest hypothesis =>
    cases piece with
    | text sql =>
      obtain ⟨reads, seam, others⟩ := apart
      rw [Fragment.render, joined reads.outside seam, hypothesis others, Fragment.placeholders]
    | value bound =>
      obtain ⟨starts, others⟩ := apart
      obtain ⟨outside, _⟩ := reads_placeholder dialect (count + 1)
      rw [Fragment.render, joined outside (.inr starts), hypothesis others, Fragment.placeholders]

/-- Lexemes that are no places stay as they are. -/
theorem resolved_append {bindings : List Value} {first : List Lexeme}
    (unplaced : first.any isPlace = false) (count : Nat) (second : List Lexeme) :
    resolved bindings count (first ++ second) = first ++ resolved bindings count second := by
  induction first with
  | nil => rfl
  | cons lexeme rest hypothesis =>
    rw [List.any_cons, Bool.or_eq_false_iff] at unplaced
    cases lexeme with
    | place ordinal => exact nomatch unplaced.1
    | _ => rw [List.cons_append, resolved, hypothesis unplaced.2, List.cons_append]; nofun

/-- Values behind others stand in the places with their numbers. -/
theorem resolved_placeholders {pieces : List Fragment} (apart : Apart dialect pieces)
    (before : List Value) :
    resolved (before ++ Fragment.values pieces) before.length
        (Fragment.placeholders dialect before.length pieces) =
      pieces.flatMap (Fragment.lexemes dialect) := by
  induction pieces generalizing before with
  | nil => rfl
  | cons piece rest hypothesis =>
    cases piece with
    | text sql =>
      obtain ⟨reads, _, others⟩ := apart
      rw [Fragment.placeholders, resolved_append reads.unplaced, Fragment.values, hypothesis others]
      rfl
    | value bound =>
      obtain ⟨_, others⟩ := apart
      obtain ⟨_, ordinal, numbered, lexeme⟩ := reads_placeholder dialect (before.length + 1)
      have rest := hypothesis others (before ++ [bound])
      rw [List.append_assoc, List.singleton_append, List.length_append, List.length_singleton] at rest
      rw [Fragment.placeholders, lexeme, List.singleton_append, resolved, numbered, Fragment.values,
        rest]
      simp [placed, Fragment.lexemes]

/-- **What is read of a statement is what is read of its pieces**, with each value in its place. -/
theorem lexemes_statement {pieces : List Fragment} (apart : Apart dialect pieces) :
    dialect.lexemes (dialect.statement pieces) = pieces.flatMap (Fragment.lexemes dialect) := by
  have read := resolved_placeholders apart []
  unfold SqlDialect.lexemes SqlDialect.statement
  rw [lexemesOf_render apart]
  exact read

end Values

end Polystore
