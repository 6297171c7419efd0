/-
**The condition that is written for clauses, read back.**

`Spells` says of pieces of a statement that no two run together and that they are read as one formula,
whatever follows them. It is shown for each kind of condition, and by induction for groups and lists of
clauses.

* `spells_predicate`: what is written for a condition is read as its formula;
* `readCondition_whereFragments`: the `WHERE` part of a statement is read as the formulas of the
  clauses, with the same connectives and groups.
-/

import Polystore.Proofs.Statement.Formula

namespace Polystore.Sql

open Lexeme (isDelimiter)

/-- The lexemes of pieces of a statement. -/
abbrev lexemesOfAll (dialect : SqlDialect) (pieces : List Fragment) : List Lexeme :=
  pieces.flatMap (Fragment.lexemes dialect)

/-- **Pieces that spell a formula.** -/
structure Spells (dialect : SqlDialect) (pieces : List Fragment) (formula : Formula) : Prop where
  apart : Apart dialect pieces
  filled : 0 < (lexemesOfAll dialect pieces).length
  read : ∀ fuel rest, (lexemesOfAll dialect pieces).length ≤ fuel →
    readFormula (readClauses fuel .and) (lexemesOfAll dialect pieces ++ rest) = some (formula, rest)

/-! ### Columns and the words behind them -/

section Columns

variable {scope : ColumnScope} {name tail : String} {found : List Lexeme}

theorem path_ne_nil (scope : ColumnScope) (name : String) : scope.path name ≠ [] := by
  unfold ColumnScope.path Text.segmentsOf
  rw [ne_eq, List.map_eq_nil_iff]
  exact Text.segments_ne_nil _ _

/-- A column is written segment by segment. -/
theorem column_eq_joined (scope : ColumnScope) (name : String) :
    scope.column name = Text.joined "." ((scope.path name).map scope.dialect.quoteSegment) := by
  unfold ColumnScope.column ColumnScope.path
  split <;> rfl

/-- A column is read segment by segment. -/
theorem reads_column (starless : "*" ∉ scope.path name) :
    Reads scope.dialect (scope.column name) (dotted (scope.path name)) := by
  rw [column_eq_joined, ← pathLexemes_of_starless starless]
  exact reads_path _

/-- A column and words behind it. -/
theorem reads_column_append (starless : "*" ∉ scope.path name)
    (words : Reads scope.dialect tail found) (starts : tail.toList.head?.any isDelimiter = true) :
    Reads scope.dialect (scope.column name ++ tail) (dotted (scope.path name) ++ found) :=
  (reads_column starless).append words (.inr starts)

theorem closes_column_append (starless : "*" ∉ scope.path name) (closes : Closes scope.dialect tail)
    (starts : tail.toList.head?.any isDelimiter = true) :
    Closes scope.dialect (scope.column name ++ tail) := by
  unfold Closes
  rw [Reads.after_append (reads_column starless).outside (.inr starts)]
  exact closes

/-- A column begins with a name. -/
theorem exists_dotted {segments : List String} (filled : segments ≠ []) :
    ∃ first others, ∀ lexemes, dotted segments ++ lexemes = .name first :: (others ++ lexemes) := by
  match segments with
  | [only] => exact ⟨only, [], fun _ => rfl⟩
  | first :: second :: rest => exact ⟨first, .sign '.' :: dotted (second :: rest), fun _ => rfl⟩

/-- A question about a column is read behind its segments. -/
theorem readTest_column {segments : List String} (filled : segments ≠ []) (next : Lexeme)
    (apart : next ≠ .sign '.') (rest : List Lexeme) :
    readTest (dotted segments ++ next :: rest) = readQuestion segments (next :: rest) := by
  have column := readColumn_dotted filled next rest apart
  obtain ⟨first, others, starts⟩ := exists_dotted filled
  rw [starts] at column ⊢
  simp only [readTest, column]
  rfl

theorem readFormula_column {segments : List String} (filled : segments ≠ []) {next : Lexeme}
    (apart : next ≠ .sign '.')
    (inside : List Lexeme → Option (List (Connective × Formula) × List Lexeme)) (rest : List Lexeme) :
    readFormula inside (dotted segments ++ next :: rest) =
      (readQuestion segments (next :: rest)).map fun (test, rest) => (.test test, rest) := by
  have test := readTest_column filled next apart rest
  obtain ⟨first, others, starts⟩ := exists_dotted filled
  rw [starts] at test ⊢
  rw [readFormula, test]
  nofun

/-- **A column, words that ask something of it, and further pieces.** -/
theorem spells_column {pieces : List Fragment} {next : Lexeme} {words : List Lexeme} {test : Test}
    (starless : "*" ∉ scope.path name) (reads : Reads scope.dialect tail (next :: words))
    (starts : tail.toList.head?.any isDelimiter = true)
    (seam : Closes scope.dialect tail ∨ Fragment.startDelimited pieces = true)
    (others : Apart scope.dialect pieces) (noDot : next ≠ .sign '.')
    (question : ∀ rest, readQuestion (scope.path name)
      (next :: (words ++ lexemesOfAll scope.dialect pieces ++ rest)) = some (test, rest)) :
    Spells scope.dialect (.text (scope.column name ++ tail) :: pieces) (.test test) := by
  have text := reads_column_append starless reads starts
  have lexemes : lexemesOfAll scope.dialect (.text (scope.column name ++ tail) :: pieces) =
      dotted (scope.path name) ++ next :: (words ++ lexemesOfAll scope.dialect pieces) := by
    rw [lexemesOfAll, List.flatMap_cons, Fragment.lexemes, text.lexemes, List.append_assoc,
      List.cons_append]
  refine ⟨⟨text.own, ?_, others⟩, ?_, ?_⟩
  · exact seam.imp (fun closes => closes_column_append starless closes starts) id
  · rw [lexemes, List.length_append, List.length_cons]
    omega
  · intro fuel rest _
    rw [lexemes, List.append_assoc, List.cons_append, readFormula_column (path_ne_nil _ _) noDot,
      question]
    rfl

/-- A text that is a formula by itself. -/
theorem spells_text {dialect : SqlDialect} {sql : String} {formula : Formula}
    (reads : Reads dialect sql found) (filled : 0 < found.length)
    (read : ∀ inside rest, readFormula inside (found ++ rest) = some (formula, rest)) :
    Spells dialect [.text sql] formula := by
  have lexemes : lexemesOfAll dialect [.text sql] = found := by
    rw [lexemesOfAll, List.flatMap_singleton, Fragment.lexemes, reads.lexemes]
  refine ⟨⟨reads.own, .inr rfl, trivial⟩, ?_, ?_⟩
  · rw [lexemes]
    exact filled
  · intro fuel rest _
    rw [lexemes]
    exact read _ rest

/-- Pieces after which others begin with a delimiter. -/
theorem apart_append {dialect : SqlDialect} {first second : List Fragment}
    (former : Apart dialect first) (latter : Apart dialect second)
    (starts : Fragment.startDelimited second = true) : Apart dialect (first ++ second) := by
  have seam : ∀ {rest : List Fragment}, Fragment.startDelimited rest = true →
      Fragment.startDelimited (rest ++ second) = true := by
    intro rest delimited
    cases rest with
    | nil => exact starts
    | cons piece rest =>
      cases piece with
      | text sql => exact delimited
      | value bound => exact delimited
  induction first with
  | nil => exact latter
  | cons piece rest hypothesis =>
    cases piece with
    | text sql =>
      obtain ⟨reads, meets, others⟩ := former
      exact ⟨reads, meets.imp id seam, hypothesis others⟩
    | value bound =>
      obtain ⟨delimited, others⟩ := former
      exact ⟨seam delimited, hypothesis others⟩

end Columns

/-! ### One lemma for each kind of condition -/

section Kinds

variable {scope : ColumnScope} {column : String}

theorem spells_compare (starless : "*" ∉ scope.path column) (operator : Operator) (value : Value) :
    Spells scope.dialect (Condition.compare (scope.column column) operator value)
      (.test (.ofComparison (scope.path column) operator value)) := by
  have plain : Spells scope.dialect
      [.text (scope.column column ++ " " ++ operator.sql ++ " "), .value value]
      (.test (.compare (scope.path column) operator value)) := by
    have words : Reads scope.dialect (" " ++ (operator.sql ++ " ")) [.operator operator] := by
      cases scope.dialect <;> cases operator <;> exact ⟨rfl, rfl, rfl⟩
    have starts : (" " ++ (operator.sql ++ " ")).toList.head?.any isDelimiter = true := by
      cases operator <;> rfl
    have closes : Closes scope.dialect (" " ++ (operator.sql ++ " ")) := by
      cases scope.dialect <;> cases operator <;> rfl
    rw [String.append_assoc, String.append_assoc]
    exact spells_column starless words starts (.inl closes) ⟨rfl, trivial⟩ nofun fun _ => rfl
  have missing : Spells scope.dialect [.text (scope.column column ++ " IS NULL")]
      (.test (.isNull (scope.path column) false)) := by
    have words : Reads scope.dialect " IS NULL" [.keyword .identity, .keyword .null] := by
      cases scope.dialect <;> exact ⟨rfl, rfl, rfl⟩
    exact spells_column starless words rfl (.inr rfl) trivial nofun fun _ => rfl
  have present : Spells scope.dialect [.text (scope.column column ++ " IS NOT NULL")]
      (.test (.isNull (scope.path column) true)) := by
    have words : Reads scope.dialect " IS NOT NULL"
        [.keyword .identity, .keyword .negation, .keyword .null] := by
      cases scope.dialect <;> exact ⟨rfl, rfl, rfl⟩
    exact spells_column starless words rfl (.inr rfl) trivial nofun fun _ => rfl
  unfold Condition.compare
  split
  · exact missing
  · exact present
  · rename_i notMissing notPresent
    rw [Test.ofComparison]
    · exact plain
    · exact notMissing
    · exact notPresent

theorem spells_isNull (starless : "*" ∉ scope.path column) (negated : Bool) :
    Spells scope.dialect
      [.text (scope.column column ++ " IS " ++ Condition.negation negated ++ "NULL")]
      (.test (.isNull (scope.path column) negated)) := by
  rw [String.append_assoc, String.append_assoc]
  cases negated with
  | false =>
    have words : Reads scope.dialect (" IS " ++ (Condition.negation false ++ "NULL"))
        [.keyword .identity, .keyword .null] := by
      cases scope.dialect <;> exact ⟨rfl, rfl, rfl⟩
    exact spells_column starless words rfl (.inr rfl) trivial nofun fun _ => rfl
  | true =>
    have words : Reads scope.dialect (" IS " ++ (Condition.negation true ++ "NULL"))
        [.keyword .identity, .keyword .negation, .keyword .null] := by
      cases scope.dialect <;> exact ⟨rfl, rfl, rfl⟩
    exact spells_column starless words rfl (.inr rfl) trivial nofun fun _ => rfl

/-- The pieces behind the lower bound of a range. -/
theorem apart_bounds (dialect : SqlDialect) (low high : Value) :
    Apart dialect [.value low, .text " AND ", .value high] ∧
      lexemesOfAll dialect [.value low, .text " AND ", .value high] =
        [.bound low, .keyword .and, .bound high] := by
  have joint : Reads dialect " AND " [.keyword .and] := by cases dialect <;> exact ⟨rfl, rfl, rfl⟩
  have closes : Closes dialect " AND " := by cases dialect <;> rfl
  refine ⟨⟨rfl, joint.own, .inl closes, rfl, trivial⟩, ?_⟩
  simp [lexemesOfAll, Fragment.lexemes, joint.lexemes]

theorem spells_between (starless : "*" ∉ scope.path column) (low high : Value) (negated : Bool) :
    Spells scope.dialect
      [.text (scope.column column ++ " " ++ Condition.negation negated ++ "BETWEEN "), .value low,
        .text " AND ", .value high]
      (.test (.between (scope.path column) low high negated)) := by
  obtain ⟨apart, lexemes⟩ := apart_bounds scope.dialect low high
  rw [String.append_assoc, String.append_assoc]
  cases negated with
  | false =>
    have words : Reads scope.dialect (" " ++ (Condition.negation false ++ "BETWEEN "))
        [.keyword .range] := by
      cases scope.dialect <;> exact ⟨rfl, rfl, rfl⟩
    have closes : Closes scope.dialect (" " ++ (Condition.negation false ++ "BETWEEN ")) := by
      cases scope.dialect <;> rfl
    refine spells_column starless words rfl (.inl closes) apart nofun fun rest => ?_
    rw [lexemes]
    rfl
  | true =>
    have words : Reads scope.dialect (" " ++ (Condition.negation true ++ "BETWEEN "))
        [.keyword .negation, .keyword .range] := by
      cases scope.dialect <;> exact ⟨rfl, rfl, rfl⟩
    have closes : Closes scope.dialect (" " ++ (Condition.negation true ++ "BETWEEN ")) := by
      cases scope.dialect <;> rfl
    refine spells_column starless words rfl (.inl closes) apart nofun fun rest => ?_
    rw [lexemes]
    rfl

/-- Values between commas and the parenthesis behind them. -/
theorem apart_separated (dialect : SqlDialect) (values : List Value) :
    Apart dialect (Fragment.separated ", " values ++ [.text ")"]) ∧
      lexemesOfAll dialect (Fragment.separated ", " values ++ [.text ")"]) =
        separatedLexemes values := by
  have comma : Reads dialect ", " [.sign ','] := by cases dialect <;> exact ⟨rfl, rfl, rfl⟩
  have closes : Closes dialect ", " := by cases dialect <;> rfl
  have parenthesis : Reads dialect ")" [.sign ')'] := by cases dialect <;> exact ⟨rfl, rfl, rfl⟩
  induction values with
  | nil =>
    refine ⟨⟨parenthesis.own, .inr rfl, trivial⟩, ?_⟩
    rw [Fragment.separated, List.nil_append, lexemesOfAll, List.flatMap_singleton, Fragment.lexemes,
      parenthesis.lexemes]
    rfl
  | cons first rest hypothesis =>
    cases rest with
    | nil =>
      refine ⟨⟨rfl, parenthesis.own, .inr rfl, trivial⟩, ?_⟩
      simp [Fragment.separated, lexemesOfAll, Fragment.lexemes, parenthesis.lexemes, separatedLexemes]
    | cons second rest =>
      obtain ⟨apart, lexemes⟩ := hypothesis
      refine ⟨⟨rfl, comma.own, .inl closes, apart⟩, ?_⟩
      show lexemesOfAll dialect
        (.value first :: .text ", " :: (Fragment.separated ", " (second :: rest) ++ [.text ")"])) = _
      rw [lexemesOfAll, List.flatMap_cons, List.flatMap_cons, Fragment.lexemes, Fragment.lexemes,
        comma.lexemes]
      exact congrArg (fun others => .bound first :: .sign ',' :: others) lexemes

theorem spells_oneOf (starless : "*" ∉ scope.path column) (first : Value) (rest : List Value)
    (negated : Bool) :
    Spells scope.dialect (Condition.oneOf (scope.column column) (first :: rest) negated)
      (.test (.oneOf (scope.path column) (first :: rest) negated)) := by
  obtain ⟨apart, lexemes⟩ := apart_separated scope.dialect (first :: rest)
  have values (following : List Lexeme) :
      readValues (separatedLexemes (first :: rest) ++ following) = some (first :: rest, following) :=
    readValues_separated (List.cons_ne_nil _ _) following
  have written : Condition.oneOf (scope.column column) (first :: rest) negated =
      .text (scope.column column ++ (" " ++ (Condition.negation negated ++ "IN ("))) ::
        (Fragment.separated ", " (first :: rest) ++ [.text ")"]) := by
    rw [← String.append_assoc, ← String.append_assoc]
    rfl
  rw [written]
  cases negated with
  | false =>
    have words : Reads scope.dialect (" " ++ (Condition.negation false ++ "IN ("))
        [.keyword .membership, .sign '('] := by
      cases scope.dialect <;> exact ⟨rfl, rfl, rfl⟩
    have closes : Closes scope.dialect (" " ++ (Condition.negation false ++ "IN (")) := by
      cases scope.dialect <;> rfl
    refine spells_column starless words rfl (.inl closes) apart nofun fun following => ?_
    rw [lexemes, List.append_assoc, List.singleton_append, readQuestion, values]
    rfl
  | true =>
    have words : Reads scope.dialect (" " ++ (Condition.negation true ++ "IN ("))
        [.keyword .negation, .keyword .membership, .sign '('] := by
      cases scope.dialect <;> exact ⟨rfl, rfl, rfl⟩
    have closes : Closes scope.dialect (" " ++ (Condition.negation true ++ "IN (")) := by
      cases scope.dialect <;> rfl
    refine spells_column starless words rfl (.inl closes) apart nofun fun following => ?_
    rw [lexemes, List.append_assoc, List.cons_append, List.singleton_append, readQuestion, values]
    rfl

/-- A comparison of the number one with a flag. -/
theorem spells_numbers (dialect : SqlDialect) (flag : Bool) :
    Spells dialect [.text (if flag then "1 = 1" else "1 = 0")]
      (.test (.numbers 1 .equal (if flag then 1 else 0))) := by
  have words : Reads dialect (if flag then "1 = 1" else "1 = 0")
      [.number 1, .operator .equal, .number (if flag then 1 else 0)] := by
    cases dialect <;> cases flag <;> exact ⟨rfl, rfl, rfl⟩
  exact spells_text words (by simp) fun _ _ => rfl

theorem spells_like (starless : "*" ∉ scope.path column) (pattern : Value) :
    Spells scope.dialect
      [.text ("LOWER(" ++ scope.column column ++ ") LIKE LOWER("), .value pattern, .text ")"]
      (.test (.like (scope.path column) pattern)) := by
  have opening : Reads scope.dialect "LOWER(" [.keyword .lower, .sign '('] := by
    cases scope.dialect <;> exact ⟨rfl, rfl, rfl⟩
  have opened : Closes scope.dialect "LOWER(" := by cases scope.dialect <;> rfl
  have middle : Reads scope.dialect ") LIKE LOWER("
      [.sign ')', .keyword .pattern, .keyword .lower, .sign '('] := by
    cases scope.dialect <;> exact ⟨rfl, rfl, rfl⟩
  have complete : Closes scope.dialect ") LIKE LOWER(" := by cases scope.dialect <;> rfl
  have closing : Reads scope.dialect ")" [.sign ')'] := by
    cases scope.dialect <;> exact ⟨rfl, rfl, rfl⟩
  have words := reads_column_append starless middle rfl
  have text := opening.append words (.inl opened)
  have closes : Closes scope.dialect ("LOWER(" ++ (scope.column column ++ ") LIKE LOWER(")) := by
    unfold Closes
    rw [Reads.after_append opening.outside (.inl opened)]
    exact closes_column_append starless complete rfl
  have lexemes : lexemesOfAll scope.dialect
      [.text ("LOWER(" ++ (scope.column column ++ ") LIKE LOWER(")), .value pattern, .text ")"] =
        .keyword .lower :: .sign '(' :: (dotted (scope.path column) ++
          .sign ')' :: [.keyword .pattern, .keyword .lower, .sign '(', .bound pattern, .sign ')']) := by
    simp only [lexemesOfAll, List.flatMap_cons, List.flatMap_nil, Fragment.lexemes, text.lexemes,
      closing.lexemes]
    simp
  rw [String.append_assoc]
  refine ⟨⟨text.own, .inl closes, rfl, closing.own, .inr rfl, trivial⟩, ?_, ?_⟩
  · rw [lexemes, List.length_cons]
    omega
  · intro fuel rest _
    rw [lexemes, List.cons_append, List.cons_append, List.append_assoc, List.cons_append]
    simp only [readFormula, readTest, readColumn_dotted (path_ne_nil _ _) (.sign ')') _ (by simp)]
    rfl

end Kinds

/-! ### Groups and lists of clauses -/

/-- Whether the column of a condition is written without a star. -/
def isStarless (scope : ColumnScope) (condition : Predicate) : Bool :=
  condition.column?.all fun column => !(scope.path column).contains "*"

/-- A condition that is no raw SQL and whose column is no star. -/
def IsWritable (scope : ColumnScope) (condition : Predicate) : Prop :=
  condition.isRaw = false ∧ isStarless scope condition = true

theorem IsWritable.starless {scope : ColumnScope} {condition : Predicate} {column : String}
    (writable : IsWritable scope condition) (about : condition.column? = some column) :
    "*" ∉ scope.path column := by
  have starless := writable.2
  simpa [isStarless, about] using starless

/-- Lexemes that end a list of clauses. -/
def EndsClauses (rest : List Lexeme) : Prop :=
  ∀ following, rest ≠ .keyword .and :: following ∧ rest ≠ .keyword .or :: following

theorem endsClauses_nil : EndsClauses [] :=
  fun _ => ⟨List.cons_ne_nil _ _ |>.symm, List.cons_ne_nil _ _ |>.symm⟩

theorem endsClauses_parenthesis (rest : List Lexeme) : EndsClauses (.sign ')' :: rest) := by
  intro following
  constructor
  · intro same
    cases same
  · intro same
    cases same

theorem readFurther_of_ends {rest : List Lexeme} (ends : EndsClauses rest)
    (following : Connective → List Lexeme → Option (List (Connective × Formula) × List Lexeme)) :
    readFurther following rest = some ([], rest) := by
  unfold readFurther
  split
  · exact absurd rfl (ends _).1
  · exact absurd rfl (ends _).2
  · rfl

/-- **Pieces that spell what is joined to the clauses before them.** -/
structure SpellsFurther (dialect : SqlDialect) (pieces : List Fragment)
    (formulas : List (Connective × Formula)) : Prop where
  apart : Apart dialect pieces
  starts : Fragment.startDelimited pieces = true
  read : ∀ fuel rest, EndsClauses rest → (lexemesOfAll dialect pieces).length ≤ fuel →
    readFurther (readClauses fuel) (lexemesOfAll dialect pieces ++ rest) = some (formulas, rest)

/-- **Pieces that spell a list of clauses.** -/
structure SpellsClauses (dialect : SqlDialect) (pieces : List Fragment)
    (formulas : List (Connective × Formula)) : Prop where
  apart : Apart dialect pieces
  read : ∀ fuel rest, EndsClauses rest → (lexemesOfAll dialect pieces).length < fuel →
    readClauses fuel .and (lexemesOfAll dialect pieces ++ rest) = some (formulas, rest)

section Lists

variable {dialect : SqlDialect} {first others : List Fragment} {formula : Formula}
  {formulas : List (Connective × Formula)}

theorem lexemesOfAll_append (dialect : SqlDialect) (first second : List Fragment) :
    lexemesOfAll dialect (first ++ second) = lexemesOfAll dialect first ++ lexemesOfAll dialect second :=
  List.flatMap_append

/-- A condition before further clauses. -/
theorem readClauses_append (spells : Spells dialect first formula)
    (further : SpellsFurther dialect others formulas) (connective : Connective) {fuel : Nat}
    {rest : List Lexeme} (ends : EndsClauses rest)
    (enough : (lexemesOfAll dialect (first ++ others)).length ≤ fuel) :
    readClauses (fuel + 1) connective (lexemesOfAll dialect (first ++ others) ++ rest) =
      some ((connective, formula) :: formulas, rest) := by
  rw [lexemesOfAll_append, List.length_append] at enough
  rw [lexemesOfAll_append, List.append_assoc, readClauses, spells.read fuel _ (by omega)]
  simp only [Option.bind_eq_bind, Option.bind_some, further.read fuel rest ends (by omega)]
  rfl

theorem SpellsClauses.cons (spells : Spells dialect first formula)
    (further : SpellsFurther dialect others formulas) :
    SpellsClauses dialect (first ++ others) ((.and, formula) :: formulas) where
  apart := apart_append spells.apart further.apart further.starts
  read := by
    intro fuel rest ends enough
    obtain ⟨fuel, rfl⟩ : ∃ less, fuel = less + 1 := ⟨fuel - 1, by omega⟩
    exact readClauses_append spells further .and ends (by omega)

/-- The word of a connective. -/
def Keyword.ofConnective : Connective → Keyword
  | .and => .and
  | .or => .or

/-- The connective as it is written between clauses. -/
theorem reads_connective (dialect : SqlDialect) (connective : Connective) :
    Reads dialect (" " ++ connective.sql ++ " ")
        [.keyword (Keyword.ofConnective connective)] ∧
      Closes dialect (" " ++ connective.sql ++ " ") := by
  cases dialect <;> cases connective <;> exact ⟨⟨rfl, rfl, rfl⟩, rfl⟩

theorem SpellsFurther.cons (connective : Connective) (spells : Spells dialect first formula)
    (further : SpellsFurther dialect others formulas) :
    SpellsFurther dialect (.text (" " ++ connective.sql ++ " ") :: (first ++ others))
      ((connective, formula) :: formulas) where
  apart := by
    obtain ⟨joint, closes⟩ := reads_connective dialect connective
    exact ⟨joint.own, .inl closes, apart_append spells.apart further.apart further.starts⟩
  starts := by cases connective <;> rfl
  read := by
    intro fuel rest ends enough
    obtain ⟨joint, _⟩ := reads_connective dialect connective
    have lexemes : lexemesOfAll dialect (.text (" " ++ connective.sql ++ " ") :: (first ++ others)) =
        .keyword (Keyword.ofConnective connective) ::
          lexemesOfAll dialect (first ++ others) := by
      rw [lexemesOfAll, List.flatMap_cons, Fragment.lexemes, joint.lexemes]
      rfl
    rw [lexemes, List.length_cons] at enough
    rw [lexemes]
    obtain ⟨fuel, rfl⟩ : ∃ less, fuel = less + 1 := ⟨fuel - 1, by omega⟩
    have read := readClauses_append spells further connective ends (Nat.le_of_succ_le_succ enough)
    cases connective <;> exact read

theorem SpellsFurther.nil (dialect : SqlDialect) : SpellsFurther dialect [] [] where
  apart := trivial
  starts := rfl
  read := fun _ _ ends _ => readFurther_of_ends ends _

/-- Clauses in parentheses. -/
theorem Spells.group {pieces : List Fragment} (clauses : SpellsClauses dialect pieces formulas) :
    Spells dialect (.text "(" :: pieces ++ [.text ")"]) (.group formulas) := by
  have opening : Reads dialect "(" [.sign '('] := by cases dialect <;> exact ⟨rfl, rfl, rfl⟩
  have closing : Reads dialect ")" [.sign ')'] := by cases dialect <;> exact ⟨rfl, rfl, rfl⟩
  have opened : Closes dialect "(" := by cases dialect <;> rfl
  have lexemes : lexemesOfAll dialect (.text "(" :: pieces ++ [.text ")"]) =
      .sign '(' :: (lexemesOfAll dialect pieces ++ [.sign ')']) := by
    rw [List.cons_append, lexemesOfAll, List.flatMap_cons, List.flatMap_append, List.flatMap_singleton,
      Fragment.lexemes, Fragment.lexemes, opening.lexemes, closing.lexemes]
    rfl
  refine ⟨⟨opening.own, .inl opened, ?_⟩, ?_, ?_⟩
  · exact apart_append clauses.apart ⟨closing.own, .inr rfl, trivial⟩ rfl
  · rw [lexemes, List.length_cons]
    omega
  · intro fuel rest enough
    rw [lexemes, List.length_cons, List.length_append] at enough
    have inner := clauses.read fuel (.sign ')' :: rest) (endsClauses_parenthesis rest) (by
      simp only [List.length_cons, List.length_nil] at enough
      omega)
    rw [lexemes, List.cons_append, List.append_assoc, List.singleton_append]
    simp only [readFormula, inner]

end Lists

mutual

/-- **What is written for a condition is read as its formula.** -/
theorem spells_predicate (scope : ColumnScope) : (condition : Predicate) →
    (∀ leaf ∈ condition.leaves, IsWritable scope leaf) →
      ∃ pieces, Condition.predicate scope condition = .ok pieces ∧
        Spells scope.dialect pieces (condition.formula scope)
  | .compare column operator value, each =>
    have starless := (each _ (List.mem_singleton_self _)).starless rfl
    ⟨_, rfl, spells_compare starless operator value⟩
  | .oneOf column [] negated, _ => ⟨_, rfl, spells_numbers scope.dialect negated⟩
  | .oneOf column (first :: rest) negated, each =>
    have starless := (each _ (List.mem_singleton_self _)).starless rfl
    ⟨_, rfl, spells_oneOf starless first rest negated⟩
  | .between column low high negated, each =>
    have starless := (each _ (List.mem_singleton_self _)).starless rfl
    ⟨_, rfl, spells_between starless low high negated⟩
  | .isNull column negated, each =>
    have starless := (each _ (List.mem_singleton_self _)).starless rfl
    ⟨_, rfl, spells_isNull starless negated⟩
  | .like column pattern, each =>
    have starless := (each _ (List.mem_singleton_self _)).starless rfl
    ⟨_, rfl, spells_like starless (.string pattern)⟩
  | .group [], _ => ⟨_, rfl, spells_numbers scope.dialect true⟩
  | .group ((connective, condition) :: rest), each => by
    obtain ⟨first, written, spells⟩ := spells_predicate scope condition fun leaf member =>
      each leaf (List.mem_append_left _ member)
    obtain ⟨others, further, spellsOthers⟩ := spells_further scope rest fun leaf member =>
      each leaf (List.mem_append_right _ member)
    refine ⟨.text "(" :: (first ++ others) ++ [.text ")"], ?_, .group (.cons spells spellsOthers)⟩
    simp only [Condition.predicate, Condition.clauses, written, further]
    rfl
  | .raw sql values, each => nomatch (each _ (List.mem_singleton_self _)).1

/-- What is written for clauses behind others is read as their formulas. -/
theorem spells_further (scope : ColumnScope) : (clauses : List (Connective × Predicate)) →
    (∀ leaf ∈ Clause.leaves clauses, IsWritable scope leaf) →
      ∃ pieces, Condition.clauses scope false clauses = .ok pieces ∧
        SpellsFurther scope.dialect pieces (Predicate.formulas scope false clauses)
  | [], _ => ⟨[], rfl, .nil scope.dialect⟩
  | (connective, condition) :: rest, each => by
    obtain ⟨first, written, spells⟩ := spells_predicate scope condition fun leaf member =>
      each leaf (List.mem_append_left _ member)
    obtain ⟨others, further, spellsOthers⟩ := spells_further scope rest fun leaf member =>
      each leaf (List.mem_append_right _ member)
    refine ⟨_, ?_, SpellsFurther.cons connective spells spellsOthers⟩
    simp only [Condition.clauses, written, further]
    rfl

end

/-- **What is written for clauses is read as their formulas.** -/
theorem spells_clauses (scope : ColumnScope) {clauses : List Clause} (present : clauses ≠ [])
    (each : ∀ leaf ∈ Clause.leaves clauses, IsWritable scope leaf) :
    ∃ pieces, Condition.clauses scope true clauses = .ok pieces ∧
      SpellsClauses scope.dialect pieces (Predicate.formulas scope true clauses) := by
  obtain ⟨⟨connective, condition⟩, rest, rfl⟩ := List.exists_cons_of_ne_nil present
  obtain ⟨first, written, spells⟩ := spells_predicate scope condition fun leaf member =>
    each leaf (List.mem_append_left _ member)
  obtain ⟨others, further, spellsOthers⟩ := spells_further scope rest fun leaf member =>
    each leaf (List.mem_append_right _ member)
  refine ⟨first ++ others, ?_, .cons spells spellsOthers⟩
  simp only [Condition.clauses, written, further]
  rfl

/-- The word before a condition. -/
theorem reads_where (dialect : SqlDialect) :
    Reads dialect " WHERE " [.keyword .filter] ∧ Closes dialect " WHERE " := by
  cases dialect <;> exact ⟨⟨rfl, rfl, rfl⟩, rfl⟩

/-- **The `WHERE` part of a statement is read as the formulas of the clauses.** -/
theorem readCondition_whereFragments (scope : ColumnScope) (clauses : List Clause)
    (each : ∀ leaf ∈ Clause.leaves clauses, IsWritable scope leaf) :
    ∃ pieces, whereFragments scope clauses = .ok pieces ∧
      readCondition (scope.dialect.lexemes (scope.dialect.statement pieces)) =
        some (Predicate.formulas scope true clauses) := by
  cases clauses with
  | nil => exact ⟨[], rfl, rfl⟩
  | cons clause rest =>
    obtain ⟨inner, written, whole⟩ := spells_clauses scope (List.cons_ne_nil clause rest) each
    obtain ⟨word, closes⟩ := reads_where scope.dialect
    refine ⟨.text " WHERE " :: inner, ?_, ?_⟩
    · simp only [whereFragments, written]
      rfl
    · have read := whole.read _ [] endsClauses_nil (Nat.lt_succ_self _)
      have apart : Apart scope.dialect (.text " WHERE " :: inner) :=
        ⟨word.own, .inl closes, whole.apart⟩
      rw [lexemes_statement apart, List.flatMap_cons, Fragment.lexemes,
        word.lexemes, List.singleton_append, readCondition]
      rw [List.append_nil] at read
      rw [read]

end Polystore.Sql
