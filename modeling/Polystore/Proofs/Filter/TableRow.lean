/-
**Filters and SQL conditions on the row of a table.**

The row of a table is a document without further documents in it. A filter treats null as a value, SQL
as unknown: `Predicate.isNullSensitive` says of a condition and a row that the two differ there.

* `meets_eq_leafHolds`: a single condition is met exactly if SQL finds it true or it is sensitive to
  null;
* `accepts_of_keeps`: a filter accepts every row that the written condition keeps, and no other
  unless a condition is sensitive to null there.
-/

import Polystore.Proofs.Filter.Meaning
import Polystore.Proofs.Number.Whole
import Polystore.Proofs.Statement.Truth

namespace Polystore

open Memory Sql

/-- Whether documents and tables read a value alike: null, a text, or a whole number that is a double. -/
def Value.isShared : Value → Bool
  | .null | .string _ => true
  | value => value.whole?.any fun number => number.natAbs ≤ Binary64.exactLimit

/-- Whether values can stand in one column of a table. -/
def Value.isOfSort (left right : Value) : Bool :=
  left.isNull || right.isNull || left.whole?.isSome == right.whole?.isSome

namespace Predicate

/-- Whether a condition can be asked of the row of a document store and of a table: its column is one of
the row and no identifier, no path, no star and no operator, and its values are of the column's sort. -/
def isShared (row : Document) : Predicate → Bool
  | like _ _ | group _ | raw _ _ => false
  | condition =>
    condition.column?.any fun column =>
      column != idField && column != "*" && !Text.hasChar '.' column && !Text.startsWith "$" column &&
        (Document.get? column row).any fun field =>
          field.isShared && condition.operands.all fun value => value.isShared && field.isOfSort value

/-- **Whether a condition takes null for a value at a row where SQL finds it unknown.** -/
def isNullSensitive (row : Document) : Predicate → Bool
  | compare column .notEqual value =>
    ((Document.get? column row).any Value.isNull) && !value.isNull
  | oneOf column values negated =>
    (Document.get? column row).any fun field =>
      if field.isNull then
        if negated then !values.isEmpty && !values.any Value.isNull else values.any Value.isNull
      else negated && values.any Value.isNull && !values.any field.alike
  | _ => false

end Predicate

/-- Whether no segment of the base table, where it is written, is a star. -/
def Sql.ColumnScope.isStarless (scope : ColumnScope) : Bool :=
  !scope.qualified || !(Text.segmentsOf '.' scope.base).contains "*"

/-! ### Shared values -/

section Values

variable {field value : Value}

theorem order?_eq_rowOrder? (fieldShared : field.isShared = true) (valueShared : value.isShared = true) :
    field.order? value = field.rowOrder? value := by
  cases field <;> cases value <;>
    simp_all [Value.isShared, Value.order?, Value.rowOrder?, Value.text?, Value.whole?, Native.asNumber?,
      Binary64.order?_ofInt]

/-- Equality in filters is equality in SQL, and of nulls. -/
theorem alike_eq_rowOrder? (fieldShared : field.isShared = true) (valueShared : value.isShared = true) :
    field.alike value = ((field.isNull && value.isNull) || field.rowOrder? value == some .eq) := by
  cases field <;> cases value <;>
    simp_all [Value.isShared, Value.alike, Value.alikeScalar, Value.rowOrder?, Value.text?,
      Value.whole?, Value.isNull, Value.isNullish, Native.sameKey, Native.asNumber?, Value.equals,
      Binary64.equals, Binary64.order?_ofInt]

theorem rowOrder?_isSome (fieldShared : field.isShared = true) (valueShared : value.isShared = true)
    (sort : field.isOfSort value = true) (fieldPresent : field.isNull = false)
    (valuePresent : value.isNull = false) : (field.rowOrder? value).isSome = true := by
  cases field <;> cases value <;>
    simp_all [Value.isShared, Value.isOfSort, Value.rowOrder?, Value.whole?, Value.isNull]

theorem rowOrder?_null_left (missing : field.isNull = true) : field.rowOrder? value = none := by
  cases field <;> simp_all [Value.rowOrder?, Value.whole?, Value.isNull]

theorem rowOrder?_null_right (missing : value.isNull = true) : field.rowOrder? value = none := by
  cases value <;> simp_all [Value.isNull]
  cases field <;> simp [Value.rowOrder?, Value.whole?]

end Values

/-! ### The column of a condition -/

/-- **A column that a row of a table shares with a document**, and the values it is compared with. -/
structure SharedColumn (row : Document) (column : String) (operands : List Value) (field : Value) :
    Prop where
  noIdentifier : column ≠ idField
  noStar : column ≠ "*"
  undotted : Text.hasChar '.' column = false
  plain : Text.startsWith "$" column = false
  found : Document.get? column row = some field
  shared : field.isShared = true
  operands : ∀ value ∈ operands, value.isShared = true ∧ field.isOfSort value = true

theorem exists_sharedColumn {row : Document} {leaf : Predicate} (shared : leaf.isShared row = true) :
    ∃ column field, leaf.column? = some column ∧ SharedColumn row column leaf.operands field := by
  have about : leaf.column?.any (fun column =>
      column != idField && column != "*" && !Text.hasChar '.' column && !Text.startsWith "$" column &&
        (Document.get? column row).any fun field =>
          field.isShared && leaf.operands.all fun value =>
            value.isShared && field.isOfSort value) = true := by
    cases leaf <;> first | exact shared | cases shared
  obtain ⟨column, named, facts⟩ := (Option.any_eq_true _ _).mp about
  simp only [Bool.and_eq_true, bne_iff_ne, ne_eq, Bool.not_eq_true'] at facts
  obtain ⟨⟨⟨⟨noIdentifier, noStar⟩, undotted⟩, plain⟩, present⟩ := facts
  obtain ⟨field, found, values⟩ := (Option.any_eq_true _ _).mp present
  rw [Bool.and_eq_true, List.all_eq_true] at values
  refine ⟨column, field, named, noIdentifier, noStar, undotted, plain, found, values.1, ?_⟩
  intro value member
  exact (Bool.and_eq_true _ _).mp (values.2 value member)

namespace SharedColumn

variable {row : Document} {column : String} {operands : List Value} {field : Value}

theorem meant_eq (same : SharedColumn row column operands field) (value : Value) :
    Predicate.meant column value = value :=
  Predicate.meant_of_ne same.noIdentifier value

theorem segments_eq (same : SharedColumn row column operands field) :
    Text.segmentsOf '.' column = [column] :=
  Text.segmentsOf_eq_singleton same.undotted

theorem fieldOf_eq (same : SharedColumn row column operands field) :
    Predicate.fieldOf column row = some field := by
  rw [Predicate.fieldOf, if_neg same.noIdentifier, Document.atPath?, same.segments_eq]
  exact same.found

/-- The column is written alone, or behind the base table. -/
theorem path_eq (same : SharedColumn row column operands field) (scope : ColumnScope) :
    scope.path column =
      (if scope.qualified then Text.segmentsOf '.' scope.base else []) ++ [column] := by
  unfold ColumnScope.path
  rw [same.undotted, Bool.not_false, Bool.and_true]
  cases scope.qualified with
  | false => exact same.segments_eq
  | true =>
    have absent : '.' ∉ column.toList := by
      simpa [Text.hasChar] using same.undotted
    have written : (scope.base ++ "." ++ column).toList =
        scope.base.toList ++ '.' :: column.toList := by
      rw [String.toList_append, String.toList_append, List.append_assoc]
      rfl
    rw [if_pos rfl, if_pos rfl, Text.segmentsOf, written, Text.segments_append,
      Text.segments_eq_singleton absent, List.map_append, List.map_singleton, String.ofList_toList]
    rfl

theorem starless (same : SharedColumn row column operands field) {scope : ColumnScope}
    (starless : scope.isStarless = true) : "*" ∉ scope.path column := by
  rw [same.path_eq]
  unfold ColumnScope.isStarless at starless
  cases qualified : scope.qualified with
  | false => simpa using Ne.symm same.noStar
  | true =>
    rw [qualified] at starless
    simp only [Bool.not_true, Bool.false_or, Bool.not_eq_true', List.contains_eq_mem,
      decide_eq_false_iff_not] at starless
    simpa [starless] using Ne.symm same.noStar

/-- A table finds the same field. -/
theorem field?_eq (same : SharedColumn row column operands field) (scope : ColumnScope)
    (like : String → String → Bool) :
    (Situation.mk scope.base row like).field? (scope.path column) = some field := by
  have last : (scope.path column).getLast? = some column := by
    rw [same.path_eq, List.getLast?_concat]
  have front : (scope.path column).dropLast = [] ∨
      (scope.path column).dropLast = Text.segmentsOf '.' scope.base := by
    rw [same.path_eq, List.dropLast_concat]
    cases scope.qualified with
    | false => exact .inl rfl
    | true => exact .inr rfl
  rw [Situation.field?, if_pos front, last]
  exact same.found

theorem value_eq (same : SharedColumn row column operands field) (scope : ColumnScope)
    (like : String → String → Bool) :
    (Situation.mk scope.base row like).value (scope.path column) = field := by
  rw [Situation.value, same.field?_eq, Option.getD_some]

end SharedColumn

/-! ### Single conditions -/

section Leaves

variable {field value : Value}

/-- An operator of a filter on a shared field looks at the field alone. -/
theorem comparesWith_shared (fieldShared : field.isShared = true) (valueShared : value.isShared = true)
    (accepted : Ordering → Bool) :
    comparesWith accepted (some field) value = (field.rowOrder? value).any accepted := by
  rw [← order?_eq_rowOrder? fieldShared valueShared]
  cases field <;> first | rfl | cases fieldShared

theorem equalsOperand_shared (fieldShared : field.isShared = true)
    (valueShared : value.isShared = true) :
    equalsOperand (some field) value =
      ((field.isNull && value.isNull) || field.rowOrder? value == some .eq) := by
  rw [← alike_eq_rowOrder? fieldShared valueShared]
  cases field <;> first | rfl | cases fieldShared

theorem holds_decide (operator : Operator) (field value : Value) :
    Kleene.holds (operator.decide field value) = (field.rowOrder? value).any operator.accepts := by
  unfold Operator.decide
  cases field.rowOrder? value with
  | none => rfl
  | some order => cases truth : operator.accepts order <;> simp [Kleene.holds, truth]

theorem fails_decide (operator : Operator) (field value : Value) :
    Kleene.fails (operator.decide field value) = (field.rowOrder? value).any (!operator.accepts ·) := by
  unfold Operator.decide
  cases field.rowOrder? value with
  | none => rfl
  | some order => cases truth : operator.accepts order <;> simp [Kleene.fails, truth]

/-- What a written comparison finds: with null it asks for null. -/
theorem holds_ofComparison {situation : Situation} {column : List String} (operator : Operator)
    (value : Value) (named : situation.value column = field) :
    Kleene.holds ((Test.ofComparison column operator value).decide situation) =
      ((operator == .equal && field.isNull && value.isNull) ||
        (operator == .notEqual && !field.isNull && value.isNull) ||
          (field.rowOrder? value).any operator.accepts) := by
  unfold Test.ofComparison
  split
  · rw [rowOrder?_null_right rfl, Test.decide, named]
    cases field.isNull <;> rfl
  · rw [rowOrder?_null_right rfl, Test.decide, named]
    cases field.isNull <;> rfl
  · rename_i notMissing notPresent
    rw [Test.decide, named, holds_decide]
    cases missing : value.isNull with
    | false => simp
    | true =>
      have null : value = .null := by
        cases value <;> first | rfl | cases missing
      have notEqual : (operator == .equal) = false :=
        beq_eq_false_iff_ne.mpr fun equal => notMissing equal null
      have notDifferent : (operator == .notEqual) = false :=
        beq_eq_false_iff_ne.mpr fun different => notPresent different null
      rw [notEqual, notDifferent]
      rfl

variable {row : Document} {column : String} {scope : ColumnScope} {like : String → String → Bool}

/-- **Where a condition is met and where SQL finds it true.** The two differ where the condition is
sensitive to null, and there it is met. -/
def DiffersAtNull (scope : ColumnScope) (row : Document) (like : String → String → Bool)
    (leaf : Predicate) : Prop :=
  leaf.meets row = (leafHolds scope ⟨scope.base, row, like⟩ leaf || leaf.isNullSensitive row) ∧
    (leafHolds scope ⟨scope.base, row, like⟩ leaf && leaf.isNullSensitive row) = false

/-- Operators other than the two of equality ask for an order. -/
theorem holds_ordering {operator : Operator} (fieldShared : field.isShared = true)
    (valueShared : value.isShared = true) (noEqual : operator ≠ .equal)
    (noDifferent : operator ≠ .notEqual) :
    operator.holds (some field) value = (field.rowOrder? value).any operator.accepts := by
  cases operator with
  | equal => exact absurd rfl noEqual
  | notEqual => exact absurd rfl noDifferent
  | greater => exact comparesWith_shared fieldShared valueShared _
  | greaterOrEqual => exact comparesWith_shared fieldShared valueShared _
  | less => exact comparesWith_shared fieldShared valueShared _
  | lessOrEqual => exact comparesWith_shared fieldShared valueShared _

/-- No other operator is sensitive to null. -/
theorem isNullSensitive_compare {operator : Operator} (noDifferent : operator ≠ .notEqual) :
    (Predicate.compare column operator value).isNullSensitive row = false := by
  cases operator <;> first | rfl | exact absurd rfl noDifferent

theorem differs_compare {operator : Operator}
    (same : SharedColumn row column [value] field) :
    DiffersAtNull scope row like (.compare column operator value) := by
  obtain ⟨valueShared, sort⟩ := same.operands value (List.mem_singleton_self value)
  have sql : leafHolds scope ⟨scope.base, row, like⟩ (.compare column operator value) = _ :=
    holds_ofComparison operator value (same.value_eq scope like)
  have met : (Predicate.compare column operator value).meets row = operator.holds (some field) value := by
    rw [Predicate.meets, same.fieldOf_eq, same.meant_eq]
  unfold DiffersAtNull
  rw [sql, met]
  by_cases different : operator = .notEqual
  · subst different
    rw [Operator.holds, equalsOperand_shared same.shared valueShared, Predicate.isNullSensitive,
      same.found, Option.any_some]
    cases fieldMissing : field.isNull with
    | true =>
      rw [rowOrder?_null_left fieldMissing]
      cases value.isNull <;> decide
    | false =>
      cases valueMissing : value.isNull with
      | true =>
        rw [rowOrder?_null_right valueMissing]
        decide
      | false =>
        have ordered := rowOrder?_isSome same.shared valueShared sort fieldMissing valueMissing
        obtain ⟨order, found⟩ := Option.isSome_iff_exists.mp ordered
        rw [found]
        cases order <;> decide
  · rw [isNullSensitive_compare different]
    by_cases equal : operator = .equal
    · subst equal
      rw [Operator.holds, equalsOperand_shared same.shared valueShared]
      cases field.rowOrder? value with
      | none => simp
      | some order => cases order <;> simp [Operator.accepts]
    · rw [holds_ordering same.shared valueShared equal different, beq_eq_false_iff_ne.mpr equal,
        beq_eq_false_iff_ne.mpr different]
      simp

theorem differs_isNull {negated : Bool} (same : SharedColumn row column [] field) :
    DiffersAtNull scope row like (.isNull column negated) := by
  have sql : leafHolds scope ⟨scope.base, row, like⟩ (.isNull column negated) =
      (negated != field.isNull) := by
    unfold leafHolds
    rw [Predicate.formula, Formula.decide, Test.decide, same.value_eq]
    cases negated <;> cases field.isNull <;> rfl
  have met : (Predicate.isNull column negated).meets row = (negated != field.isNull) := by
    rw [Predicate.meets, same.fieldOf_eq, equalsOperand_shared same.shared rfl,
      rowOrder?_null_right rfl]
    cases field.isNull <;> rfl
  unfold DiffersAtNull
  rw [sql, met]
  exact ⟨(Bool.or_false _).symm, Bool.and_false _⟩

theorem differs_between {low high : Value} {negated : Bool}
    (same : SharedColumn row column [low, high] field) :
    DiffersAtNull scope row like (.between column low high negated) := by
  have lowShared := (same.operands low List.mem_cons_self).1
  have highShared := (same.operands high (List.mem_cons_of_mem _ List.mem_cons_self)).1
  have sql : leafHolds scope ⟨scope.base, row, like⟩ (.between column low high negated) =
      if negated then
        (field.rowOrder? low).any (Operator.accepts .less) ||
          (field.rowOrder? high).any (Operator.accepts .greater)
      else
        (field.rowOrder? low).any (Operator.accepts .greaterOrEqual) &&
          (field.rowOrder? high).any (Operator.accepts .lessOrEqual) := by
    unfold leafHolds
    rw [Predicate.formula, Formula.decide, Test.decide, same.value_eq, Kleene.holds_negatedIf]
    cases negated with
    | false =>
      simp only [Bool.false_eq_true, if_false, Kleene.holds_both, holds_decide]
    | true =>
      have below : (fun order => !Operator.accepts .greaterOrEqual order) = Operator.accepts .less := by
        funext order
        cases order <;> rfl
      have above : (fun order => !Operator.accepts .lessOrEqual order) = Operator.accepts .greater := by
        funext order
        cases order <;> rfl
      simp only [if_true, Kleene.fails_both, fails_decide, below, above]
  have met : (Predicate.between column low high negated).meets row =
      leafHolds scope ⟨scope.base, row, like⟩ (.between column low high negated) := by
    have least := comparesWith_shared same.shared lowShared
    have most := comparesWith_shared same.shared highShared
    rw [sql, Predicate.meets, same.fieldOf_eq, same.meant_eq, same.meant_eq]
    simp only [Operator.holds, least, most]
    cases negated <;> rfl
  unfold DiffersAtNull
  rw [met]
  exact ⟨(Bool.or_false _).symm, Bool.and_false _⟩

theorem equalsOperand_eq_alike (fieldShared : field.isShared = true) :
    equalsOperand (some field) = field.alike := by
  funext value
  cases field <;> first | rfl | cases fieldShared

/-- A null is alike to nulls. -/
theorem alike_of_isNull (fieldShared : field.isShared = true) (valueShared : value.isShared = true)
    (missing : field.isNull = true) : field.alike value = value.isNull := by
  rw [alike_eq_rowOrder? fieldShared valueShared, missing, rowOrder?_null_left missing, Bool.true_and]
  exact Bool.or_false _

/-- Some value of a list is found equal if the field is no null and alike to one. -/
theorem any_holds {values : List Value} (fieldShared : field.isShared = true)
    (shared : ∀ value ∈ values, value.isShared = true) :
    values.any (fun value => Kleene.holds (Operator.equal.decide field value)) =
      (!field.isNull && values.any field.alike) := by
  induction values with
  | nil => simp
  | cons value rest hypothesis =>
    have others := hypothesis fun other member => shared other (List.mem_cons_of_mem _ member)
    have valueShared := shared value List.mem_cons_self
    rw [List.any_cons, others, List.any_cons, holds_decide]
    cases missing : field.isNull with
    | true =>
      rw [rowOrder?_null_left missing]
      rfl
    | false =>
      rw [alike_eq_rowOrder? fieldShared valueShared, missing]
      cases field.rowOrder? value with
      | none => rfl
      | some order => cases order <;> rfl

/-- Every value of a list is found different if no null stands on either side and none is alike. -/
theorem all_fails {values : List Value} (fieldShared : field.isShared = true)
    (shared : ∀ value ∈ values, value.isShared = true ∧ field.isOfSort value = true) :
    values.all (fun value => Kleene.fails (Operator.equal.decide field value)) =
      if field.isNull then values.isEmpty
      else !values.any Value.isNull && !values.any field.alike := by
  induction values with
  | nil => simp
  | cons value rest hypothesis =>
    have others := hypothesis fun other member => shared other (List.mem_cons_of_mem _ member)
    obtain ⟨valueShared, sort⟩ := shared value List.mem_cons_self
    rw [List.all_cons, others, fails_decide]
    cases missing : field.isNull with
    | true =>
      rw [rowOrder?_null_left missing]
      rfl
    | false =>
      simp only [Bool.false_eq_true, if_false, List.any_cons]
      rw [alike_eq_rowOrder? fieldShared valueShared, missing]
      cases valueMissing : value.isNull with
      | true =>
        rw [rowOrder?_null_right valueMissing]
        rfl
      | false =>
        have ordered := rowOrder?_isSome fieldShared valueShared sort missing valueMissing
        obtain ⟨order, found⟩ := Option.isSome_iff_exists.mp ordered
        rw [found]
        cases order <;> simp [Operator.accepts]

theorem differs_oneOf {values : List Value} {negated : Bool}
    (same : SharedColumn row column values field) :
    DiffersAtNull scope row like (.oneOf column values negated) := by
  have shared : ∀ value ∈ values, value.isShared = true := fun value member =>
    (same.operands value member).1
  have met : (Predicate.oneOf column values negated).meets row =
      (negated != values.any field.alike) := by
    simp only [Predicate.meets, same.fieldOf_eq, same.meant_eq, equalsOperand_eq_alike same.shared]
  have sql : leafHolds scope ⟨scope.base, row, like⟩ (.oneOf column values negated) =
      if negated then values.isEmpty || (!field.isNull && !values.any Value.isNull && !values.any field.alike)
      else !field.isNull && values.any field.alike := by
    cases values with
    | nil => cases negated <;> cases field.isNull <;> rfl
    | cons first rest =>
      have every := all_fails same.shared same.operands
      have some := any_holds same.shared shared
      unfold leafHolds
      rw [Predicate.formula, Formula.decide, Test.decide, same.value_eq, Kleene.holds_negatedIf,
        Kleene.holds_any, Kleene.fails_any, List.any_map, List.all_map]
      simp only [Function.comp_def, every, some]
      cases negated <;> cases field.isNull <;> rfl
  have sensitive : (Predicate.oneOf column values negated).isNullSensitive row =
      if field.isNull then
        if negated then !values.isEmpty && !values.any Value.isNull else values.any Value.isNull
      else negated && values.any Value.isNull && !values.any field.alike := by
    rw [Predicate.isNullSensitive, same.found, Option.any_some]
  unfold DiffersAtNull
  rw [met, sql, sensitive]
  cases missing : field.isNull with
  | true =>
    have nulls : values.any field.alike = values.any Value.isNull := by
      rw [Bool.eq_iff_iff, List.any_eq_true, List.any_eq_true]
      refine exists_congr fun value => and_congr_right fun member => ?_
      rw [alike_of_isNull same.shared (shared value member) missing]
    rw [nulls]
    cases empty : values.isEmpty with
    | true =>
      rw [List.isEmpty_iff.mp empty]
      cases negated <;> decide
    | false => cases negated <;> cases values.any Value.isNull <;> decide
  | false =>
    cases empty : values.isEmpty with
    | true =>
      rw [List.isEmpty_iff.mp empty]
      cases negated <;> simp
    | false =>
      cases negated <;> cases values.any Value.isNull <;> cases values.any field.alike <;> decide

end Leaves

/-- **A single condition is met exactly if SQL finds it true or it is sensitive to null**, and never both. -/
theorem meets_eq_leafHolds {row : Document} {leaf : Predicate} (scope : ColumnScope)
    (like : String → String → Bool) (shared : leaf.isShared row = true) :
    DiffersAtNull scope row like leaf := by
  obtain ⟨column, field, named, same⟩ := exists_sharedColumn shared
  cases leaf with
  | compare other operator value =>
    obtain rfl := Option.some.inj named
    exact differs_compare same
  | oneOf other values negated =>
    obtain rfl := Option.some.inj named
    exact differs_oneOf same
  | between other low high negated =>
    obtain rfl := Option.some.inj named
    exact differs_between same
  | isNull other negated =>
    obtain rfl := Option.some.inj named
    exact differs_isNull same
  | like _ _ => cases shared
  | group _ => cases shared
  | raw _ _ => cases shared

/-! ### Lists of clauses -/

/-- What a shared condition needs for its filter, and what it needs to be written and found. -/
theorem ready_of_isShared {row : Document} {leaf : Predicate} {scope : ColumnScope}
    (like : String → String → Bool) (starless : scope.isStarless = true)
    (shared : leaf.isShared row = true) :
    (leaf.isRaw = false ∧ leaf.isPlain = true ∧ leaf.readsIdentifiers = true) ∧
      IsWritable scope leaf ∧ isNamed scope ⟨scope.base, row, like⟩ leaf = true := by
  obtain ⟨column, field, named, same⟩ := exists_sharedColumn shared
  have written : leaf.isRaw = false := by
    cases leaf <;> first | rfl | cases shared
  refine ⟨⟨written, ?_, ?_⟩, ⟨written, ?_⟩, ?_⟩
  · simp [Predicate.isPlain, named, same.plain]
  · simp [Predicate.readsIdentifiers, named, same.noIdentifier]
  · simp [Sql.isStarless, named, same.starless starless]
  · simp [isNamed, named, same.field?_eq]

/-- **A filter accepts every row that the written condition keeps**, and no other row unless some
condition is sensitive to null there. For a single condition this is exact. -/
theorem accepts_of_keeps (clauses : List Clause) (row : Document) (scope : ColumnScope)
    (like : String → String → Bool) (starless : scope.isStarless = true)
    (shared : ∀ leaf ∈ Clause.leaves clauses, leaf.isShared row = true) :
    ∃ filter accepted pieces kept,
      Native.filter clauses = .ok filter ∧ passes row filter = .ok accepted ∧
      whereFragments scope clauses = .ok pieces ∧
      scope.dialect.keeps? ⟨scope.base, row, like⟩ (scope.dialect.statement pieces) = some kept ∧
      (kept = true → accepted = true) ∧
      ((∀ leaf ∈ Clause.leaves clauses, leaf.isNullSensitive row = false) → accepted = kept) ∧
      (∀ connective leaf, clauses = [(connective, leaf)] → leaf.isShared row = true →
        (accepted ≠ kept ↔ leaf.isNullSensitive row = true)) := by
  have ready := fun leaf member => ready_of_isShared like starless (shared leaf member)
  have differs := fun leaf member => meets_eq_leafHolds scope like (shared leaf member)
  obtain ⟨filter, made⟩ := exists_filter fun leaf member =>
    ⟨(ready leaf member).1.1, (ready leaf member).1.2.2⟩
  have decided := (settles_filter row made).eq_ok fun leaf member => (ready leaf member).1.2.1
  obtain ⟨pieces, written, kept⟩ := keeps?_whereFragments scope ⟨scope.base, row, like⟩ clauses
    fun leaf member => (ready leaf member).2
  refine ⟨filter, _, pieces, _, made, decided, written, kept, ?_, ?_, ?_⟩
  · refine Clause.hold_mono fun leaf member holds => ?_
    rw [(differs leaf member).1, holds, Bool.true_or]
  · intro insensitive
    refine Clause.hold_congr fun leaf member => ?_
    rw [(differs leaf member).1, insensitive leaf member, Bool.or_false]
  · rintro connective leaf rfl alone
    obtain ⟨met, apart⟩ := meets_eq_leafHolds scope like alone
    have single : ∀ reading : Predicate → Bool,
        Clause.hold reading [(connective, leaf)] = reading leaf := by
      intro reading
      have truth : leaf.truth reading = reading leaf := by
        cases leaf <;> first | rfl | cases alone
      rw [Clause.hold_eq_cut, ← truth]
      simp
    rw [single, single, met]
    revert apart
    cases leafHolds scope ⟨scope.base, row, like⟩ leaf <;> cases leaf.isNullSensitive row <;> decide

/-- A comparison, or a negated list with a null and a range in a group. -/
def ageOrName : List Clause :=
  [(.and, .compare "age" .less (.int32 3)),
    (.or, .group [(.and, .oneOf "name" [.string "Ann", .null] true),
      (.and, .between "age" (.int64 1) (.int32 9) false)])]

/-- On a row without a name, the filter and the condition in a join agree on `ageOrName`. -/
theorem accepts_of_keeps_ageOrName :
    (ColumnScope.mk .postgres "app.people" true).isStarless = true ∧
    (∀ leaf ∈ Clause.leaves ageOrName, leaf.isShared [("age", .int32 7), ("name", .null)] = true) ∧
    (∀ leaf ∈ Clause.leaves ageOrName,
      leaf.isNullSensitive [("age", .int32 7), ("name", .null)] = false) ∧
    ∃ filter accepted pieces kept,
      Native.filter ageOrName = .ok filter ∧
      passes [("age", .int32 7), ("name", .null)] filter = .ok accepted ∧
      whereFragments ⟨.postgres, "app.people", true⟩ ageOrName = .ok pieces ∧
      SqlDialect.postgres.keeps?
        ⟨"app.people", [("age", .int32 7), ("name", .null)], fun text pattern => text == pattern⟩
        (SqlDialect.postgres.statement pieces) = some kept ∧
      accepted = kept := by
  have starless : (ColumnScope.mk .postgres "app.people" true).isStarless = true := by decide +kernel
  have each : ∀ leaf ∈ Clause.leaves ageOrName,
      leaf.isShared [("age", .int32 7), ("name", .null)] = true ∧
        leaf.isNullSensitive [("age", .int32 7), ("name", .null)] = false := by
    unfold ageOrName
    simp only [Clause.leaves, Predicate.leaves, List.cons_append, List.nil_append, List.mem_cons,
      List.not_mem_nil, or_false, forall_eq_or_imp, forall_eq]
    decide +kernel
  obtain ⟨filter, accepted, pieces, kept, made, passed, written, read, _, agrees, _⟩ :=
    accepts_of_keeps ageOrName [("age", .int32 7), ("name", .null)] ⟨.postgres, "app.people", true⟩
      (fun text pattern => text == pattern) starless fun leaf member => (each leaf member).1
  refine ⟨starless, fun leaf member => (each leaf member).1, fun leaf member => (each leaf member).2,
    filter, accepted, pieces, kept, made, passed, written, read, ?_⟩
  exact agrees fun leaf member => (each leaf member).2

/-- **A row without an age is accepted by a filter that asks for another age than five**, and is not
kept by the condition that is written for it. -/
theorem passes_null_and_not_keeps :
    (∀ leaf ∈ Clause.leaves [(.and, .compare "age" .notEqual (.int32 5))],
      leaf.isShared [("age", .null)] = true) ∧
    ∃ filter pieces,
      Native.filter [(.and, .compare "age" .notEqual (.int32 5))] = .ok filter ∧
      passes [("age", .null)] filter = .ok true ∧
      whereFragments ⟨.sqlite, "people", false⟩ [(.and, .compare "age" .notEqual (.int32 5))] =
        .ok pieces ∧
      SqlDialect.sqlite.keeps? ⟨"people", [("age", .null)], fun _ _ => false⟩
        (SqlDialect.sqlite.statement pieces) = some false := by
  refine ⟨?_, _, _, rfl, ?_, rfl, ?_⟩
  · simp only [Clause.leaves, Predicate.leaves, List.append_nil, List.mem_singleton, forall_eq]
    decide +kernel
  · decide +kernel
  · decide +kernel

end Polystore
