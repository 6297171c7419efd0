/-
**What the filter of a list of clauses accepts.**

`Predicate.meets` decides a condition on the field of a document that its column names, with the bound
values taken as they are; on the identifier column a text stands for the identifier that it writes.
`Clause.hold` carries it through connectives and groups.

* `judges_filter`: when a filter can be made of clauses, and why not;
* `settles_filter`: a filter that was made of clauses decides as the clauses do, or fails;
* `passes_filter_eq_hold`: it is made and does not fail if no clause is raw, no column begins with a
  dollar sign, and identifiers are compared with identifiers.
-/

import Mathlib.Data.List.Forall2
import Polystore.Memory.Matching
import Polystore.Proofs.Clauses.Truth
import Polystore.Proofs.Pattern.Matching

namespace Polystore

open Memory Native

namespace Predicate

/-- What a value stands for in a column. -/
def meant (column : String) : Value → Value
  | .string text =>
    if column = idField then ((ObjectId.ofHex? text).map Value.objectId).getD (.string text)
    else .string text
  | value => value

/-- Whether a value can be compared with identifiers. -/
def isIdentifier : Value → Bool
  | .null | .objectId _ => true
  | .string text => (ObjectId.ofHex? text).isSome
  | _ => false

/-- The field of a document that a column names. -/
def fieldOf (column : String) (document : Document) : Option Value :=
  Document.atPath? (if column = idField then ObjectIdentifier.nativeField else column) document

end Predicate

/-- Whether a field compares with a value as an operator says. -/
def Operator.holds (field : Option Value) (value : Value) : Operator → Bool
  | .equal => equalsOperand field value
  | .notEqual => !equalsOperand field value
  | .greater => comparesWith (· == .gt) field value
  | .greaterOrEqual => comparesWith (· != .lt) field value
  | .less => comparesWith (· == .lt) field value
  | .lessOrEqual => comparesWith (· != .gt) field value

namespace Predicate

/-- **Whether a document meets a condition that is no group.** -/
def meets (document : Document) : Predicate → Bool
  | compare column operator value => operator.holds (fieldOf column document) (meant column value)
  | oneOf column values negated =>
    negated != values.any fun value => equalsOperand (fieldOf column document) (meant column value)
  | between column low high negated =>
    let field := fieldOf column document
    if negated then
      Operator.less.holds field (meant column low) || Operator.greater.holds field (meant column high)
    else
      Operator.greaterOrEqual.holds field (meant column low)
        && Operator.lessOrEqual.holds field (meant column high)
  | isNull column negated => negated != equalsOperand (fieldOf column document) .null
  | like column pattern =>
    match fieldOf column document with
    | some (.string text) => Pattern.follows pattern.toList text.toList
    | _ => false
  | group _ | raw _ _ => false

/-- Whether the column of a condition can be told apart from an operator of filters. -/
def isPlain (condition : Predicate) : Bool :=
  condition.column?.all fun column => !Text.startsWith "$" column

/-- Whether a condition on the identifier column compares it with identifiers. -/
def readsIdentifiers (condition : Predicate) : Bool :=
  condition.column? != some idField || condition.operands.all isIdentifier

end Predicate

/-! ### Values as they are compared with a column -/

/-- In every other column a value stands for itself. -/
theorem Predicate.meant_of_ne {column : String} (other : column ≠ idField) (value : Value) :
    Predicate.meant column value = value := by
  cases value <;> simp only [Predicate.meant, if_neg other]

/-- A value that could be read for a column is the one that is meant. -/
theorem operand_eq_meant {column : String} {value bound : Value}
    (made : operand column value = .ok bound) : bound = Predicate.meant column value := by
  unfold operand at made
  by_cases identifies : column = idField
  · cases value with
    | string text =>
      simp only [identifies, Value.isNull, ObjectIdentifier.nativeValue, ObjectIdentifier.parse] at made
      simp only [Predicate.meant, identifies, if_true]
      cases written : ObjectId.ofHex? text with
      | none => simp [written, Except.map] at made
      | some identifier => simpa [written, Except.map] using made.symm
    | _ => simp_all [Value.isNull, ObjectIdentifier.nativeValue, Predicate.meant]
  · simp only [identifies, decide_false, Bool.false_and, Bool.false_eq_true, if_false] at made
    obtain rfl := Except.ok.inj made
    exact (Predicate.meant_of_ne identifies _).symm

/-- Identifiers can be read for the identifier column, and anything for any other. -/
theorem operand_of_isIdentifier {column : String} {value : Value}
    (readable : column = idField → Predicate.isIdentifier value = true) :
    operand column value = .ok (Predicate.meant column value) := by
  have made : ∃ bound, operand column value = .ok bound := by
    unfold operand
    by_cases identifies : column = idField
    · have identifier := readable identifies
      cases value with
      | string text =>
        obtain ⟨identifier, written⟩ := Option.isSome_iff_exists.mp identifier
        exact ⟨.objectId identifier, by
          simp [identifies, Value.isNull, ObjectIdentifier.nativeValue, ObjectIdentifier.parse, written,
            Except.map]⟩
      | _ => simp_all [Predicate.isIdentifier, Value.isNull, ObjectIdentifier.nativeValue]
    · exact ⟨value, by simp [identifies]⟩
  obtain ⟨bound, made⟩ := made
  rw [made, operand_eq_meant made]

theorem operands_eq_meant {column : String} {values bounds : List Value}
    (made : Native.operands column values = .ok bounds) :
    bounds = values.map (Predicate.meant column) := by
  induction values generalizing bounds with
  | nil => exact (Except.ok.inj made).symm
  | cons value rest hypothesis =>
    obtain ⟨bound, first, rest⟩ := bind_eq_ok.mp made
    obtain ⟨others, more, whole⟩ := bind_eq_ok.mp rest
    rw [← Except.ok.inj whole, List.map_cons, ← hypothesis more, ← operand_eq_meant first]

theorem operands_of_isIdentifier {column : String} {values : List Value}
    (readable : column = idField → values.all Predicate.isIdentifier = true) :
    Native.operands column values = .ok (values.map (Predicate.meant column)) := by
  induction values with
  | nil => rfl
  | cons value rest hypothesis =>
    have both : column = idField →
        Predicate.isIdentifier value = true ∧ rest.all Predicate.isIdentifier = true :=
      fun identifies => by simpa using readable identifies
    rw [Native.operands, operand_of_isIdentifier fun identifies => (both identifies).1,
      hypothesis fun identifies => (both identifies).2]
    rfl

/-! ### Tests that decide or fail -/

/-- The result of a test is a truth value; a test that is not safe may fail instead. -/
def Settles (safe : Prop) (result : Except DatabaseError Bool) (truth : Bool) : Prop :=
  result = .ok truth ∨ (¬ safe ∧ ∃ error, result = .error error)

namespace Settles

variable {safe : Prop} {result : Except DatabaseError Bool} {truth : Bool}

theorem mono {safer : Prop} (settles : Settles safe result truth) (less : safer → safe) :
    Settles safer result truth :=
  settles.imp id fun ⟨unsafely, failed⟩ => ⟨fun holds => unsafely (less holds), failed⟩

/-- A test that succeeds gives the truth value. -/
theorem eq_of_ok (settles : Settles safe result truth) {value : Bool} (succeeds : result = .ok value) :
    value = truth := by
  rcases settles with decided | ⟨_, error, failed⟩
  · exact Except.ok.inj (succeeds.symm.trans decided)
  · rw [failed] at succeeds
    cases succeeds

/-- A safe test succeeds. -/
theorem eq_ok (settles : Settles safe result truth) (holds : safe) : result = .ok truth :=
  settles.resolve_right fun failed => failed.1 holds

/-- A test whose failure or falsehood ends the whole. -/
theorem and_then {rest : Except DatabaseError Bool} {others : Bool}
    (first : Settles safe result truth) (second : Settles safe rest others) :
    Settles safe (do if ← result then rest else return false) (truth && others) := by
  rcases first with decided | ⟨unsafely, error, failed⟩
  · rw [decided]
    cases truth with
    | false => exact .inl rfl
    | true => exact second
  · rw [failed]
    exact .inr ⟨unsafely, error, rfl⟩

/-- A test whose failure or truth ends the whole. -/
theorem or_else {rest : Except DatabaseError Bool} {others : Bool}
    (first : Settles safe result truth) (second : Settles safe rest others) :
    Settles safe (do if ← result then return true else rest) (truth || others) := by
  rcases first with decided | ⟨unsafely, error, failed⟩
  · rw [decided]
    cases truth with
    | true => exact .inl rfl
    | false => exact second
  · rw [failed]
    exact .inr ⟨unsafely, error, rfl⟩

end Settles

section Junctions

variable {safe : Prop} {document : Document}

/-- A list of filters that settle, each with what it decides. -/
abbrev SettleAll (safe : Prop) (document : Document) : List Document → List Bool → Prop :=
  List.Forall₂ fun filter truth => Settles safe (passes document filter) truth

/-- A filter of one entry decides what the entry does. -/
theorem passes_singleton (document : Document) (key : String) (value : Value) :
    passes document [(key, value)] = entryPasses document key value := by
  rw [passes]
  cases entryPasses document key value with
  | error error => rfl
  | ok truth => cases truth <;> rfl

theorem all_isDocument (filters : List Document) :
    (filters.map Value.document).all Validator.isDocument = true := by
  simp [Validator.isDocument]

theorem settles_allPass {filters : List Document} {truths : List Bool}
    (each : SettleAll safe document filters truths) :
    Settles safe (allPass document (filters.map .document)) (truths.all id) := by
  induction each with
  | nil =>
    left
    simp [allPass]
  | cons first rest hypothesis =>
    simp only [List.map_cons, allPass]
    exact first.and_then hypothesis

theorem settles_anyPasses {filters : List Document} {truths : List Bool}
    (each : SettleAll safe document filters truths) :
    Settles safe (anyPasses document (filters.map .document)) (truths.any id) := by
  induction each with
  | nil =>
    left
    simp [anyPasses]
  | cons first rest hypothesis =>
    simp only [List.map_cons, anyPasses]
    exact first.or_else hypothesis

/-- A conjunction of filters, with or without `$and`, decides whether all hold. -/
theorem settles_conjunction {filters : List Document} {truths : List Bool}
    (each : SettleAll safe document filters truths) :
    Settles safe (passes document (conjunction filters)) (truths.all id) := by
  have joined : Settles safe (passes document [("$and", .array (filters.map .document))])
      (truths.all id) := by
    rw [passes_singleton, entryPasses]
    simp only [Junction.ofKey?, all_isDocument, if_true]
    exact settles_allPass each
  match each with
  | .nil => exact joined
  | .cons first .nil => simpa [conjunction] using first
  | .cons _ (.cons _ _) => exact joined

/-- A disjunction of filters, with or without `$or`, decides whether one holds; the empty one does. -/
theorem settles_disjunction {filters : List Document} {truths : List Bool}
    (each : SettleAll safe document filters truths) :
    Settles safe (passes document (disjunction filters)) (truths.isEmpty || truths.any id) := by
  match each with
  | .nil =>
    left
    simp [disjunction, passes]
  | .cons first .nil => simpa [disjunction] using first
  | .cons first (.cons second rest) =>
    have joined := settles_anyPasses (List.Forall₂.cons first (List.Forall₂.cons second rest))
    simp only [disjunction, passes_singleton, entryPasses, Junction.ofKey?, all_isDocument, if_true]
    exact joined

/-- Related clauses are cut into related runs. -/
theorem runs_forall₂ {α β : Type} {related : α → β → Prop} {left : List (Connective × α)}
    {right : List (Connective × β)}
    (each : List.Forall₂ (fun one other => one.1 = other.1 ∧ related one.2 other.2) left right) :
    List.Forall₂ (List.Forall₂ related) (runs left) (runs right) := by
  induction each with
  | nil => exact .nil
  | @cons one other lefts rights first rest hypothesis =>
    obtain ⟨connective, item⟩ := one
    cases rest with
    | nil => exact .cons (.cons first.2 .nil) .nil
    | @cons next following lefts rights second others =>
      obtain ⟨joint, next⟩ := next
      obtain ⟨_, following⟩ := following
      obtain rfl := second.1
      cases joint with
      | or => exact .cons (.cons first.2 .nil) hypothesis
      | and =>
        -- The item joins the run that the clause behind it begins.
        rw [Clause.runs_and, Clause.runs_and]
        generalize runs ((Connective.and, next) :: lefts) = left,
          runs ((Connective.and, following) :: rights) = right at hypothesis ⊢
        cases hypothesis with
        | nil => exact .cons (.cons first.2 .nil) .nil
        | cons run others => exact .cons (.cons first.2 run) others

/-- There are runs unless there are no clauses. -/
theorem isEmpty_runs {α : Type} (clauses : List (Connective × α)) :
    (runs clauses).isEmpty = clauses.isEmpty := by
  cases clauses with
  | nil => rfl
  | cons clause rest =>
    unfold runs
    split <;> rfl

/-- Filters joined by connectives decide the truth of the clauses. -/
theorem settles_combined {filters : List (Connective × Document)}
    {truths : List (Connective × Bool)}
    (each : List.Forall₂ (fun filter truth =>
      filter.1 = truth.1 ∧ Settles safe (passes document filter.2) truth.2) filters truths) :
    Settles safe (passes document (combined filters)) (Clause.truth truths) := by
  have pieces : List.Forall₂ (SettleAll safe document) (runs filters) (runs truths) :=
    runs_forall₂ each
  have conjunctions : SettleAll safe document ((runs filters).map conjunction)
      ((runs truths).map (·.all id)) := by
    refine List.forall₂_map_left_iff.mpr (List.forall₂_map_right_iff.mpr ?_)
    exact pieces.imp fun _ _ piece => settles_conjunction piece
  have whole := settles_disjunction conjunctions
  rw [Clause.truth_eq_runs]
  rw [List.isEmpty_map, isEmpty_runs, List.any_map] at whole
  exact whole

end Junctions

/-! ### Conditions that are no groups -/

section Leaves

variable {document : Document}

theorem ofKey?_of_plain {key : String} (plain : Text.startsWith "$" key = false) :
    Junction.ofKey? key = none := by
  unfold Junction.ofKey?
  split
  · exact absurd plain (by decide)
  · exact absurd plain (by decide)
  · exact absurd plain (by decide)
  · rfl

/-- An operator other than `$not` looks at nothing but its operand. -/
theorem operatorsHold_cons {field : Option Value} {options operator : String} {operand : Value}
    (single : operator ≠ "$not") (rest : List (String × Value)) :
    operatorsHold field options ((operator, operand) :: rest) =
      (do
        if ← operatorHolds field options operator operand then operatorsHold field options rest
        else return false) := by
  have alone : conditionHolds field options operator operand =
      operatorHolds field options operator operand := by
    cases operand <;> simp [conditionHolds, single]
  rw [operatorsHold, alone]

/-- One operator decides alone. -/
theorem operatorsHold_singleton {field : Option Value} {options operator : String} {operand : Value}
    {truth : Bool} (single : operator ≠ "$not")
    (decided : operatorHolds field options operator operand = .ok truth) :
    operatorsHold field options [(operator, operand)] = .ok truth := by
  rw [operatorsHold_cons single, decided]
  cases truth <;> rfl

/-- A filter of operators on a field decides what these find there. -/
theorem passes_operators {key : String} {operators : Document}
    (plain : Text.startsWith "$" key = false) (operates : isOperators operators = true) :
    passes document [(key, .document operators)] =
      operatorsHold (Document.atPath? key document) (regexOptions operators) operators := by
  rw [passes_singleton, entryPasses]
  · simp only [ofKey?_of_plain plain, fieldPasses, plain, Bool.false_eq_true, if_false, fieldMeets,
      operates, if_true]
  · exact nofun

/-- **Operators on a column decide on the field that it names**, unless the column looks like an
operator. -/
theorem settles_onColumn {column : String} {operators : Document} {truth : Bool}
    (operates : isOperators operators = true)
    (decided : operatorsHold (Predicate.fieldOf column document) (regexOptions operators) operators =
      .ok truth) :
    Settles (Text.startsWith "$" column = false) (passes document (onColumn column operators))
      truth := by
  by_cases plain : Text.startsWith "$" column = false
  · left
    have plainField : Text.startsWith "$" (field column) = false := by
      unfold field
      split
      · rfl
      · exact plain
    exact (passes_operators plainField operates).trans decided
  · refine .inr ⟨plain, ?_⟩
    have dollar : Text.startsWith "$" column = true := by simpa using plain
    have named : field column = column := by
      refine if_neg fun identifies => ?_
      rw [identifies] at dollar
      exact absurd dollar (by decide)
    rw [onColumn, named, passes_singleton]
    simp only [entryPasses]
    cases Junction.ofKey? column with
    | some junction => exact ⟨_, rfl⟩
    | none => exact ⟨.unsupported _, by simp only [fieldPasses, dollar, if_true]; rfl⟩

/-- One operator on a column. -/
theorem settles_operator {column operator : String} {operand : Value} {truth : Bool}
    (operates : Text.startsWith "$" operator = true) (single : operator ≠ "$not")
    (decided : ∀ options, operatorHolds (Predicate.fieldOf column document) options operator operand =
      .ok truth) :
    Settles (Text.startsWith "$" column = false)
      (passes document (onColumn column [(operator, operand)])) truth :=
  settles_onColumn operates (operatorsHold_singleton single (decided _))

theorem settles_compare (column : String) (operator : Operator) (value : Value) :
    Settles (Text.startsWith "$" column = false)
      (passes document (onColumn column [(operator.native, value)]))
      (operator.holds (Predicate.fieldOf column document) value) := by
  cases operator <;> exact settles_operator (by decide) (by decide) fun _ => rfl

theorem settles_oneOf (column : String) (values : List Value) (negated : Bool) :
    Settles (Text.startsWith "$" column = false)
      (passes document (onColumn column [(if negated then "$nin" else "$in", .array values)]))
      (negated != values.any (equalsOperand (Predicate.fieldOf column document))) := by
  cases negated with
  | false =>
    refine settles_operator (by decide) (by decide) fun _ => ?_
    rw [Bool.false_bne]
    rfl
  | true =>
    refine settles_operator (by decide) (by decide) fun _ => ?_
    rw [Bool.true_bne]
    rfl

theorem settles_between (column : String) (low high : Value) (negated : Bool) :
    Settles (Text.startsWith "$" column = false)
      (passes document (Native.between column low high negated))
      (if negated then
        Operator.less.holds (Predicate.fieldOf column document) low
          || Operator.greater.holds (Predicate.fieldOf column document) high
      else
        Operator.greaterOrEqual.holds (Predicate.fieldOf column document) low
          && Operator.lessOrEqual.holds (Predicate.fieldOf column document) high) := by
  cases negated with
  | true =>
    have below : Settles (Text.startsWith "$" column = false)
        (passes document (onColumn column [("$lt", low)]))
        (Operator.less.holds (Predicate.fieldOf column document) low) :=
      settles_compare column .less low
    have above : Settles (Text.startsWith "$" column = false)
        (passes document (onColumn column [("$gt", high)]))
        (Operator.greater.holds (Predicate.fieldOf column document) high) :=
      settles_compare column .greater high
    have either := settles_disjunction (.cons below (.cons above .nil))
    simpa [disjunction, Native.between] using either
  | false =>
    refine settles_onColumn rfl ?_
    rw [operatorsHold_cons (by decide), operatorsHold_cons (by decide), operatorsHold]
    simp only [operatorHolds, Operator.holds]
    cases comparesWith (· != .lt) (Predicate.fieldOf column document) low with
    | false => rfl
    | true => cases comparesWith (· != .gt) (Predicate.fieldOf column document) high <;> rfl

theorem settles_isNull (column : String) (negated : Bool) :
    Settles (Text.startsWith "$" column = false)
      (passes document (onColumn column [(if negated then "$ne" else "$eq", .null)]))
      (negated != equalsOperand (Predicate.fieldOf column document) .null) := by
  cases negated with
  | false =>
    rw [Bool.false_bne]
    exact settles_compare column .equal .null
  | true =>
    rw [Bool.true_bne]
    exact settles_compare column .notEqual .null

theorem settles_like (column pattern : String) :
    Settles (Text.startsWith "$" column = false)
      (passes document
        (onColumn column [("$regex", .string (likePattern pattern)), ("$options", .string "i")]))
      ((Predicate.like column pattern).meets document) := by
  refine settles_onColumn rfl ?_
  have switched : regexOptions
      [("$regex", .string (likePattern pattern)), ("$options", .string "i")] = "i" := rfl
  rw [operatorsHold_cons (by decide), operatorsHold_cons (by decide), operatorsHold, switched]
  simp only [operatorHolds, matchesRegex, Predicate.meets]
  cases Predicate.fieldOf column document with
  | none => rfl
  | some value =>
    cases value with
    | string text =>
      have read : Regex.ofText? (.ofLetters "i") (likePattern pattern) =
          some (Pattern.expression pattern.toList) := Pattern.ofText?_likePattern pattern
      simp only [read, Pattern.isMatch_expression]
      cases Pattern.follows pattern.toList text.toList <;> rfl
    | _ => rfl

end Leaves

/-! ### Clauses and groups -/

/-- A leaf that is plain makes the test of its filter safe. -/
theorem Settles.ofLeaf {leaf : Predicate} {column : String} {result : Except DatabaseError Bool}
    {truth : Bool} (about : leaf.column? = some column)
    (settles : Settles (Text.startsWith "$" column = false) result truth) :
    Settles (∀ condition ∈ [leaf], condition.isPlain = true) result truth := by
  refine settles.mono fun plain => ?_
  have own := plain leaf (List.mem_singleton_self leaf)
  simpa [Predicate.isPlain, about] using own

mutual

/-- **The filter of a condition decides as the condition does.** -/
theorem settles_condition {document : Document} :
    (predicate : Predicate) → {filter : Document} → condition predicate = .ok filter →
      Settles (∀ leaf ∈ predicate.leaves, leaf.isPlain = true) (passes document filter)
        (predicate.truth (Predicate.meets document))
  | .compare column operator value, filter, made => by
    obtain ⟨bound, read, whole⟩ := bind_eq_ok.mp made
    rw [← Except.ok.inj whole, operand_eq_meant read]
    exact .ofLeaf rfl (settles_compare column operator _)
  | .oneOf column values negated, filter, made => by
    obtain ⟨bounds, read, whole⟩ := bind_eq_ok.mp made
    rw [← Except.ok.inj whole, operands_eq_meant read]
    have each : (values.map (Predicate.meant column)).any
          (equalsOperand (Predicate.fieldOf column document)) =
        values.any fun value =>
          equalsOperand (Predicate.fieldOf column document) (Predicate.meant column value) :=
      List.any_map
    refine .ofLeaf rfl ?_
    rw [Predicate.truth, Predicate.meets, ← each]
    · exact settles_oneOf column _ negated
    · nofun
  | .between column low high negated, filter, made => by
    obtain ⟨lowest, readLow, rest⟩ := bind_eq_ok.mp made
    obtain ⟨highest, readHigh, whole⟩ := bind_eq_ok.mp rest
    rw [← Except.ok.inj whole, operand_eq_meant readLow, operand_eq_meant readHigh]
    exact .ofLeaf rfl (settles_between column _ _ negated)
  | .isNull column negated, filter, made => by
    rw [← Except.ok.inj made]
    exact .ofLeaf rfl (settles_isNull column negated)
  | .like column pattern, filter, made => by
    rw [← Except.ok.inj made]
    exact .ofLeaf rfl (settles_like column pattern)
  | .group clauses, filter, made => by
    obtain ⟨filters, each, rfl⟩ := map_eq_ok.mp made
    exact settles_combined (settles_conditions clauses each)
  | .raw sql values, filter, made => nomatch made

/-- `settles_condition` for each of a list of clauses. -/
theorem settles_conditions {document : Document} :
    (clauses : List (Connective × Predicate)) → {filters : List (Connective × Document)} →
      conditions clauses = .ok filters →
        List.Forall₂ (fun filter truth => filter.1 = truth.1 ∧
            Settles (∀ leaf ∈ Clause.leaves clauses, leaf.isPlain = true) (passes document filter.2)
              truth.2)
          filters (Predicate.truths (Predicate.meets document) clauses)
  | [], filters, made => by
    rw [← Except.ok.inj made]
    exact .nil
  | (connective, predicate) :: rest, filters, made => by
    obtain ⟨first, one, remaining⟩ := bind_eq_ok.mp made
    obtain ⟨others, more, whole⟩ := bind_eq_ok.mp remaining
    rw [← Except.ok.inj whole]
    refine .cons ⟨rfl, (settles_condition predicate one).mono ?_⟩
      ((settles_conditions rest more).imp fun _ _ both => ⟨both.1, both.2.mono ?_⟩)
    · exact fun plain leaf member => plain leaf (List.mem_append_left _ member)
    · exact fun plain leaf member => plain leaf (List.mem_append_right _ member)

end

/-! ### Filters of clauses -/

/-- **What a result says of conditions**: that all identifiers are readable and nothing is raw, that some
identifier is unreadable, or that something is raw. -/
def Judges {α : Type} (readable rawless : Bool) : Except DatabaseError α → Prop
  | .ok _ => readable = true ∧ rawless = true
  | .error (.invalidIdentifier _) => readable = false
  | .error _ => rawless = false

namespace Judges

variable {α β : Type} {readable rawless : Bool} {result : Except DatabaseError α}

/-- A check and what follows it judge together. -/
theorem bind {others unraw : Bool} {next : α → Except DatabaseError β}
    (first : Judges readable rawless result) (rest : ∀ value, Judges others unraw (next value)) :
    Judges (readable && others) (rawless && unraw) (result >>= next) := by
  match result, first with
  | .ok value, ⟨understood, unwritten⟩ =>
    rw [understood, unwritten]
    exact rest value
  | .error error, first => cases error <;> exact Bool.and_eq_false_iff.mpr (.inl first)

theorem map (judges : Judges readable rawless result) (change : α → β) :
    Judges readable rawless (result.map change) := by
  match result, judges with
  | .ok value, judges => exact judges
  | .error error, judges => cases error <;> exact judges

/-- Where everything is readable and nothing is raw, there is a result. -/
theorem exists_value (judges : Judges true true result) : ∃ value, result = .ok value := by
  match result, judges with
  | .ok value, _ => exact ⟨value, rfl⟩
  | .error error, judges => cases error <;> cases judges

/-- Where something is unreadable and nothing is raw, the failure is about an identifier. -/
theorem exists_reason (judges : Judges false true result) :
    ∃ reason, result = .error (.invalidIdentifier reason) := by
  match result, judges with
  | .error (.invalidIdentifier reason), _ => exact ⟨reason, rfl⟩

end Judges

theorem judges_operand (column : String) (value : Value) :
    Judges (some column != some idField || Predicate.isIdentifier value) true
      (operand column value) := by
  by_cases identifies : column = idField
  · subst identifies
    rw [bne_self_eq_false, Bool.false_or]
    cases value with
    | string text =>
      rw [operand, Predicate.isIdentifier]
      simp only [Value.isNull, ObjectIdentifier.nativeValue, ObjectIdentifier.parse]
      cases ObjectId.ofHex? text with
      | none => exact rfl
      | some identifier => exact ⟨rfl, rfl⟩
    | null => exact ⟨rfl, rfl⟩
    | objectId identifier => exact ⟨rfl, rfl⟩
    | _ => exact rfl
  · have other : (some column != some idField) = true := by simpa using identifies
    have itself : operand column value = .ok value := by
      rw [operand, decide_eq_false identifies]
      rfl
    rw [other, itself]
    exact ⟨rfl, rfl⟩

theorem judges_operands (column : String) (values : List Value) :
    Judges (some column != some idField || values.all Predicate.isIdentifier) true
      (Native.operands column values) := by
  induction values with
  | nil => exact ⟨Bool.or_true _, rfl⟩
  | cons value rest hypothesis =>
    rw [List.all_cons, Bool.or_and_distrib_left]
    exact (judges_operand column value).bind fun _ => hypothesis.map _

mutual

/-- **What the filter of a condition tells** about the conditions in it. -/
theorem judges_condition : (predicate : Predicate) →
    Judges (predicate.leaves.all Predicate.readsIdentifiers) (predicate.leaves.all (!·.isRaw))
      (condition predicate)
  | .compare column operator value => by
    have single := (judges_operand column value).map fun bound =>
      onColumn column [(operator.native, bound)]
    show Judges ((_ || (_ && true)) && true) true _
    rw [Bool.and_true, Bool.and_true]
    exact single
  | .oneOf column values negated => by
    have each := (judges_operands column values).map fun bounds =>
      onColumn column [(if negated then "$nin" else "$in", .array bounds)]
    show Judges ((_ || _) && true) true _
    rw [Bool.and_true]
    exact each
  | .between column low high negated => by
    have both := (judges_operand column low).bind fun first =>
      (judges_operand column high).map fun second => between column first second negated
    rw [← Bool.or_and_distrib_left] at both
    show Judges ((_ || (_ && (_ && true))) && true) true _
    rw [Bool.and_true, Bool.and_true]
    exact both
  | .isNull column negated => by
    refine ⟨?_, rfl⟩
    show ((_ || true) && true) = true
    rw [Bool.or_true, Bool.and_true]
  | .like column pattern => by
    refine ⟨?_, rfl⟩
    show ((_ || true) && true) = true
    rw [Bool.or_true, Bool.and_true]
  | .group clauses => (judges_conditions clauses).map combined
  | .raw sql values => rfl

/-- `judges_condition` for a list of clauses. -/
theorem judges_conditions : (clauses : List (Connective × Predicate)) →
    Judges ((Clause.leaves clauses).all Predicate.readsIdentifiers)
      ((Clause.leaves clauses).all (!·.isRaw)) (conditions clauses)
  | [] => ⟨rfl, rfl⟩
  | (connective, predicate) :: rest => by
    rw [Clause.leaves, List.all_append, List.all_append]
    exact (judges_condition predicate).bind fun _ => (judges_conditions rest).map _

end

/-- **What the filter of clauses tells about them.** It is made exactly if nothing is raw and identifiers
are compared with identifiers; which of the two is missing shows in the failure. -/
theorem judges_filter (clauses : List Clause) :
    Judges ((Clause.leaves clauses).all Predicate.readsIdentifiers)
      ((Clause.leaves clauses).all (!·.isRaw)) (Native.filter clauses) :=
  (judges_conditions clauses).map combined

/-- **The filter of clauses decides as the clauses do.** -/
theorem settles_filter {clauses : List Clause} {filter : Document} (document : Document)
    (made : Native.filter clauses = .ok filter) :
    Settles (∀ leaf ∈ Clause.leaves clauses, leaf.isPlain = true) (passes document filter)
      (Clause.hold (Predicate.meets document) clauses) := by
  obtain ⟨filters, each, rfl⟩ := map_eq_ok.mp made
  exact settles_combined (settles_conditions clauses each)

/-- Clauses without raw conditions that compare identifiers with identifiers have a filter. -/
theorem exists_filter {clauses : List Clause}
    (each : ∀ leaf ∈ Clause.leaves clauses, leaf.isRaw = false ∧ leaf.readsIdentifiers = true) :
    ∃ filter, Native.filter clauses = .ok filter := by
  have readable : (Clause.leaves clauses).all Predicate.readsIdentifiers = true :=
    List.all_eq_true.mpr fun leaf member => (each leaf member).2
  have rawless : (Clause.leaves clauses).all (!·.isRaw) = true :=
    List.all_eq_true.mpr fun leaf member => by rw [(each leaf member).1]; rfl
  have judged := judges_filter clauses
  rw [readable, rawless] at judged
  exact judged.exists_value

/-- One filter decides every document as such clauses do, if no column looks like an operator. -/
theorem exists_filter_decides {clauses : List Clause}
    (clean : ∀ leaf ∈ Clause.leaves clauses,
      leaf.isRaw = false ∧ leaf.isPlain = true ∧ leaf.readsIdentifiers = true) :
    ∃ filter, Native.filter clauses = .ok filter ∧
      ∀ document, passes document filter =
        .ok (Clause.hold (Predicate.meets document) clauses) := by
  obtain ⟨filter, made⟩ := exists_filter fun leaf member =>
    ⟨(clean leaf member).1, (clean leaf member).2.2⟩
  refine ⟨filter, made, fun document => (settles_filter document made).eq_ok ?_⟩
  exact fun leaf member => (clean leaf member).2.1

/-- **The filter of clauses keeps their meaning**: it can be made, tests every document without a
fault, and accepts it exactly if the clauses hold of it. -/
theorem passes_filter_eq_hold (clauses : List Clause) (document : Document)
    (clean : ∀ leaf ∈ Clause.leaves clauses,
      leaf.isRaw = false ∧ leaf.isPlain = true ∧ leaf.readsIdentifiers = true) :
    ∃ filter, Native.filter clauses = .ok filter ∧
      passes document filter = .ok (Clause.hold (Predicate.meets document) clauses) := by
  obtain ⟨filter, made⟩ := exists_filter fun leaf member =>
    ⟨(clean leaf member).1, (clean leaf member).2.2⟩
  refine ⟨filter, made, (settles_filter document made).eq_ok ?_⟩
  exact fun leaf member => (clean leaf member).2.1

/-- An `OR` between a group with a list without items and a comparison with a document whose key looks
like an operator, and behind it an identifier and an empty group. -/
def entangled : List Clause :=
  [(.or, .group [(.and, .oneOf "age" [] true), (.or, .like "name" "z%")]),
    (.and, .compare "spec" .equal (.document [("$gt", .int32 1)])),
    (.or, .compare "id" .equal (.string "00000000000000000000000A")),
    (.and, .group [])]

/-- The first piece of `entangled` fails of this document and the second one holds. -/
theorem passes_filter_entangled :
    (∀ leaf ∈ Clause.leaves entangled,
      leaf.isRaw = false ∧ leaf.isPlain = true ∧ leaf.readsIdentifiers = true) ∧
    ∃ filter, Native.filter entangled = .ok filter ∧
      passes [("_id", .objectId ⟨10⟩), ("spec", .int32 2)] filter = .ok true := by
  have clean : ∀ leaf ∈ Clause.leaves entangled,
      leaf.isRaw = false ∧ leaf.isPlain = true ∧ leaf.readsIdentifiers = true := by
    unfold entangled
    simp only [Clause.leaves, Predicate.leaves, List.cons_append, List.nil_append, List.mem_cons,
      List.not_mem_nil, or_false, forall_eq_or_imp, forall_eq]
    decide +kernel
  obtain ⟨filter, made, decided⟩ :=
    passes_filter_eq_hold entangled [("_id", .objectId ⟨10⟩), ("spec", .int32 2)] clean
  exact ⟨clean, filter, made, decided.trans (by decide +kernel)⟩

end Polystore
