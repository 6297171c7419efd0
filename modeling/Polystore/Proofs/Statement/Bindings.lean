/-
**What the conditions of a statement bind.**

A list of clauses binds the values of its conditions, depth first from left to right: `Predicate.bound`
of each of its leaves. `Writes` says this of the pieces that are written, together with when there are
any and where the values have their places.

* `writes_raw`: a piece of SQL takes a value for every question mark;
* `writes_predicate`, `writes_clauses`: conditions and clauses, by mutual induction;
* `writes_whereFragments`: the conditions of a statement.
-/

import Polystore.Proofs.Clauses.Truth
import Polystore.Proofs.Statement.Places

namespace Polystore

open Sql

namespace Predicate

/-- **The values that a condition binds.** A comparison with null for equality binds none. -/
def bound : Predicate → List Value
  | compare _ .equal .null | compare _ .notEqual .null => []
  | like _ pattern => [.string pattern]
  | raw _ values => values
  | condition => condition.operands

/-- Whether a piece of SQL has as many question marks as values. -/
def isCounted : Predicate → Bool
  | raw sql values => sql.toList.count '?' = values.length
  | _ => true

/-- Whether a piece of SQL has no quotes of names, and on Postgres no dollar signs. -/
def isUnquoted (dialect : SqlDialect) : Predicate → Bool
  | raw sql _ =>
    !Text.hasChar dialect.quoteMark sql && (dialect ≠ .postgres || !Text.hasChar '$' sql)
  | _ => true

/-- Whether on Postgres no digit stands directly behind a question mark of a piece of SQL. -/
def isSpaced (dialect : SqlDialect) : Predicate → Bool
  | raw sql _ =>
    dialect ≠ .postgres ||
      (Text.segments '?' sql.toList).tail.all fun segment => !segment.head?.any Char.isDigit
  | _ => true

end Predicate

namespace Sql

/-! ### Raw conditions -/

section Raw

variable {dialect : SqlDialect} {pieces : List String} {values : List Value}

/-- Every value is woven in if there is a piece in front of it. -/
theorem values_woven (long : values.length ≤ pieces.length) :
    Fragment.values (Condition.woven pieces values) = values := by
  fun_induction Condition.woven pieces values with
  | case1 values => exact (List.eq_nil_of_length_eq_zero (Nat.le_zero.mp long)).symm
  | case2 piece rest hypothesis => exact hypothesis (Nat.zero_le _)
  | case3 piece rest value values hypothesis =>
    rw [Fragment.values, Fragment.values, hypothesis (Nat.le_of_succ_le_succ long)]

theorem opens_woven (delimited : ∀ piece ∈ pieces, Delimited dialect piece.toList) :
    Opens dialect (Condition.woven pieces values) := by
  fun_induction Condition.woven pieces values with
  | case1 values => exact opens_nil
  | case2 piece rest hypothesis =>
    refine opens_text (delimited piece List.mem_cons_self) (hypothesis ?_)
    exact fun other member => delimited other (List.mem_cons_of_mem _ member)
  | case3 piece rest value values _ =>
    exact opens_text (delimited piece List.mem_cons_self) (opens_value value)

/-- Quiet pieces with values between them are numbered if no piece behind a value begins with a digit. -/
theorem numbered_woven (quiet : ∀ piece ∈ pieces, Quiet dialect piece)
    (delimited : ∀ piece ∈ pieces.tail, Delimited dialect piece.toList) :
    Numbered dialect (Condition.woven pieces values) := by
  fun_induction Condition.woven pieces values with
  | case1 values => exact numbered_nil
  | case2 piece rest hypothesis =>
    refine (hypothesis ?_ ?_).text (quiet piece List.mem_cons_self)
    · exact fun other member => quiet other (List.mem_cons_of_mem _ member)
    · exact fun other member => delimited other (List.mem_of_mem_tail member)
  | case3 piece rest value values hypothesis =>
    refine ((hypothesis ?_ ?_).value (opens_woven delimited) value).text
      (quiet piece List.mem_cons_self)
    · exact fun other member => quiet other (List.mem_cons_of_mem _ member)
    · exact fun other member => delimited other (List.mem_of_mem_tail member)

/-- The segments of a tame piece of SQL are quiet. -/
theorem quiet_segment {sql segment : String}
    (unquoted : (Predicate.raw sql values).isUnquoted dialect = true)
    (inside : segment ∈ Text.segmentsOf '?' sql) : Quiet dialect segment := by
  obtain ⟨characters, among, rfl⟩ := List.mem_map.mp inside
  refine quiet_of_silent fun character member => ?_
  rw [String.toList_ofList] at member
  obtain ⟨written, noQuestion⟩ := Text.mem_of_mem_segments among member
  have absent {mark : Char} (missing : Text.hasChar mark sql = false) : character ≠ mark := by
    rintro rfl
    rw [Text.hasChar, List.contains_eq_mem, decide_eq_false_iff_not] at missing
    exact missing written
  unfold Predicate.isUnquoted at unquoted
  rw [Bool.and_eq_true, Bool.not_eq_true', Bool.or_eq_true, decide_eq_true_eq,
    Bool.not_eq_true'] at unquoted
  unfold isSilent
  rw [Bool.and_eq_true, decide_eq_true_eq, decide_eq_true_eq]
  refine ⟨absent unquoted.1, ?_⟩
  cases dialect with
  | postgres => exact absent (unquoted.2.resolve_left fun other => other rfl)
  | sqlite => exact noQuestion
  | mySql => exact noQuestion

theorem delimited_segment {sql segment : String}
    (spaced : (Predicate.raw sql values).isSpaced dialect = true)
    (inside : segment ∈ (Text.segmentsOf '?' sql).tail) : Delimited dialect segment.toList := by
  rintro rfl head member
  rw [Text.segmentsOf, ← List.map_tail] at inside
  obtain ⟨characters, among, rfl⟩ := List.mem_map.mp inside
  rw [String.toList_ofList] at member
  unfold Predicate.isSpaced at spaced
  rw [Bool.or_eq_true, decide_eq_true_eq, List.all_eq_true] at spaced
  have apart := spaced.resolve_left (fun other => other rfl) characters among
  rw [Option.mem_def.mp member] at apart
  simpa using apart

end Raw

/-! ### Conditions -/

/-- **What the conditions of a statement write**: they can be written if their raw ones are counted, they
bind the values of each in order, and tame ones are numbered. -/
structure Writes (dialect : SqlDialect) (leaves : List Predicate)
    (result : Except DatabaseError (List Fragment)) : Prop where
  succeeds : (∃ pieces, result = .ok pieces) ↔ ∀ leaf ∈ leaves, leaf.isCounted = true
  values : ∀ {pieces}, result = .ok pieces → Fragment.values pieces = leaves.flatMap Predicate.bound
  numbered : ∀ {pieces}, result = .ok pieces →
    (∀ leaf ∈ leaves, leaf.isUnquoted dialect = true ∧ leaf.isSpaced dialect = true) →
      Numbered dialect pieces

section Conditions

variable {dialect : SqlDialect} {scope : ColumnScope}

/-- A single condition that is not raw. -/
theorem writes_leaf {leaf : Predicate} {pieces : List Fragment} (counted : leaf.isCounted = true)
    (values : Fragment.values pieces = leaf.bound) (numbered : Numbered dialect pieces) :
    Writes dialect [leaf] (.ok pieces) where
  succeeds := ⟨fun _ other member => List.mem_singleton.mp member ▸ counted, fun _ => ⟨pieces, rfl⟩⟩
  values same := by
    rw [← Except.ok.inj same, values, List.flatMap_singleton]
  numbered same _ := Except.ok.inj same ▸ numbered

theorem quiet_column (name : String) : Quiet scope.dialect (scope.column name) := by
  unfold ColumnScope.column
  split <;> exact quiet_quote _

theorem quiet_operator (operator : Operator) : Quiet dialect operator.sql := by
  cases operator <;> exact quiet_words (by decide)

theorem quiet_negation (negated : Bool) : Quiet dialect (Condition.negation negated) := by
  cases negated <;> exact quiet_words (by decide)

theorem numbered_compare (column : String) (operator : Operator) (value : Value) :
    Numbered scope.dialect (Condition.compare (scope.column column) operator value) := by
  unfold Condition.compare
  split
  · exact numbered_text ((quiet_column column).append (quiet_words (by decide)))
  · exact numbered_text ((quiet_column column).append (quiet_words (by decide)))
  · refine (numbered_nil.value opens_nil value).text ?_
    exact (((quiet_column column).append (quiet_words (by decide))).append
      (quiet_operator operator)).append (quiet_words (by decide))

theorem numbered_oneOf (column : String) (values : List Value) (negated : Bool) :
    Numbered scope.dialect (Condition.oneOf (scope.column column) values negated) := by
  unfold Condition.oneOf
  split
  · cases negated <;> exact numbered_text (quiet_words (by decide))
  · refine Numbered.append (.text (numbered_separated (quiet_words (by decide)) (by decide) values)
      ?_) (numbered_text (quiet_words (by decide))) (opens_text_cons (by decide))
    exact (((quiet_column column).append (quiet_words (by decide))).append
      (quiet_negation negated)).append (quiet_words (by decide))

theorem values_oneOf (column : String) (values : List Value) (negated : Bool) :
    Fragment.values (Condition.oneOf column values negated) = values := by
  unfold Condition.oneOf
  split
  · rename_i empty
    exact (List.isEmpty_iff.mp empty).symm
  · rw [Fragment.values_append, Fragment.values, Fragment.values_separated]
    exact List.append_nil values

theorem numbered_between (column : String) (low high : Value) (negated : Bool) :
    Numbered scope.dialect
      [.text (scope.column column ++ " " ++ Condition.negation negated ++ "BETWEEN "), .value low,
        .text " AND ", .value high] := by
  refine ((((numbered_nil.value opens_nil high).text (quiet_words (by decide))).value
    (opens_text_cons (by decide)) low).text ?_)
  exact (((quiet_column column).append (quiet_words (by decide))).append
    (quiet_negation negated)).append (quiet_words (by decide))

theorem numbered_isNull (column : String) (negated : Bool) :
    Numbered scope.dialect
      [.text (scope.column column ++ " IS " ++ Condition.negation negated ++ "NULL")] :=
  numbered_text ((((quiet_column column).append (quiet_words (by decide))).append
    (quiet_negation negated)).append (quiet_words (by decide)))

theorem numbered_like (column pattern : String) :
    Numbered scope.dialect
      [.text ("LOWER(" ++ scope.column column ++ ") LIKE LOWER("), .value (.string pattern),
        .text ")"] := by
  refine ((numbered_text (quiet_words (by decide))).value (opens_text_cons (by decide)) _).text ?_
  exact ((quiet_words (by decide)).append (quiet_column column)).append (quiet_words (by decide))

/-- **What a raw condition writes**: its text with a value for every question mark, if there are as
many of them as values. -/
theorem writes_raw (sql : String) (values : List Value) :
    Writes dialect [.raw sql values] (Condition.raw sql values) := by
  have sized : (Text.segmentsOf '?' sql).length = sql.toList.count '?' + 1 := by
    rw [Text.segmentsOf, List.length_map, Text.length_segments]
  by_cases counted : sql.toList.count '?' = values.length
  · have written : Condition.raw sql values =
        .ok (.text "(" :: Condition.woven (Text.segmentsOf '?' sql) values ++ [.text ")"]) := by
      unfold Condition.raw
      rw [if_pos (by rw [sized, Nat.add_sub_cancel, counted])]
    refine ⟨⟨fun _ leaf member => ?_, fun _ => ⟨_, written⟩⟩, fun same => ?_, fun same tame => ?_⟩
    · obtain rfl := List.mem_singleton.mp member
      exact decide_eq_true counted
    · obtain rfl := Except.ok.inj (written.symm.trans same)
      rw [Fragment.values_append, Fragment.values,
        values_woven (by rw [sized, counted]; exact Nat.le_succ _), List.flatMap_singleton]
      exact List.append_nil values
    · obtain rfl := Except.ok.inj (written.symm.trans same)
      obtain ⟨unquoted, spaced⟩ := tame _ (List.mem_singleton_self _)
      have woven : Numbered dialect (Condition.woven (Text.segmentsOf '?' sql) values) :=
        numbered_woven (fun _ inside => quiet_segment unquoted inside)
          fun _ inside => delimited_segment spaced inside
      exact (woven.text (quiet_words (by decide))).append (numbered_text (quiet_words (by decide)))
        (opens_text_cons (by decide))
  · have failed : ∀ pieces, Condition.raw sql values ≠ .ok pieces := by
      unfold Condition.raw
      rw [if_neg (by rw [sized, Nat.add_sub_cancel]; exact counted)]
      intro pieces same
      cases same
    refine ⟨⟨fun succeeds => ?_, fun each => ?_⟩, fun same => absurd same (failed _),
      fun same => absurd same (failed _)⟩
    · obtain ⟨pieces, same⟩ := succeeds
      exact absurd same (failed pieces)
    · have miscounted := each _ (List.mem_singleton_self _)
      exact absurd (of_decide_eq_true miscounted) counted

/-- Clauses behind others begin with a connective. -/
theorem opens_clauses {clauses : List Clause} {pieces : List Fragment}
    (written : Condition.clauses scope false clauses = .ok pieces) : Opens dialect pieces := by
  cases clauses with
  | nil =>
    obtain rfl := Except.ok.inj written
    exact opens_nil
  | cons clause rest =>
    obtain ⟨connective, condition⟩ := clause
    rw [Condition.clauses] at written
    obtain ⟨first, _, remaining⟩ := bind_eq_ok.mp written
    obtain ⟨others, _, whole⟩ := bind_eq_ok.mp remaining
    obtain rfl := Except.ok.inj whole
    cases connective <;> exact opens_text_cons (by decide)

mutual

/-- **What a condition writes.** -/
theorem writes_predicate : (condition : Predicate) →
    Writes scope.dialect condition.leaves (Condition.predicate scope condition)
  | .compare column operator value => by
    refine writes_leaf rfl ?_ (numbered_compare column operator value)
    cases operator <;> cases value <;> rfl
  | .oneOf column values negated =>
    writes_leaf rfl (values_oneOf _ values negated) (numbered_oneOf column values negated)
  | .between column low high negated => writes_leaf rfl rfl (numbered_between column low high negated)
  | .isNull column negated => writes_leaf rfl rfl (numbered_isNull column negated)
  | .like column pattern => writes_leaf rfl rfl (numbered_like column pattern)
  | .raw sql values => writes_raw sql values
  | .group [] => by
    rw [Predicate.leaves, Condition.predicate]
    refine ⟨⟨fun _ => nofun, fun _ => ⟨_, rfl⟩⟩, fun same => ?_, fun same _ => ?_⟩
    · exact Except.ok.inj same ▸ rfl
    · exact Except.ok.inj same ▸ numbered_text (quiet_words (by decide))
  | .group (first :: rest) => by
    have inner := writes_clauses true (first :: rest)
    rw [Predicate.leaves, Condition.predicate]
    refine ⟨?_, fun same => ?_, fun same tame => ?_⟩
    · rw [← inner.succeeds]
      refine ⟨fun ⟨_, same⟩ => ?_, fun ⟨pieces, written⟩ => ?_⟩
      · obtain ⟨pieces, written, _⟩ := bind_eq_ok.mp same
        exact ⟨pieces, written⟩
      · exact ⟨_, bind_eq_ok.mpr ⟨pieces, written, rfl⟩⟩
    · obtain ⟨pieces, written, whole⟩ := bind_eq_ok.mp same
      obtain rfl := Except.ok.inj whole
      rw [Fragment.values_append, Fragment.values, inner.values written]
      exact List.append_nil _
    · obtain ⟨pieces, written, whole⟩ := bind_eq_ok.mp same
      obtain rfl := Except.ok.inj whole
      exact ((inner.numbered written tame).text (quiet_words (by decide))).append
        (numbered_text (quiet_words (by decide))) (opens_text_cons (by decide))

/-- **What a list of clauses writes.** -/
theorem writes_clauses : (isFirst : Bool) → (clauses : List (Connective × Predicate)) →
    Writes scope.dialect (Clause.leaves clauses) (Condition.clauses scope isFirst clauses)
  | isFirst, [] => by
    rw [Clause.leaves, Condition.clauses]
    refine ⟨⟨fun _ => nofun, fun _ => ⟨_, rfl⟩⟩, fun same => ?_, fun same _ => ?_⟩
    · exact Except.ok.inj same ▸ rfl
    · exact Except.ok.inj same ▸ numbered_nil
  | isFirst, (connective, condition) :: rest => by
    have one := writes_predicate condition
    have more := writes_clauses false rest
    have joined {first : List Fragment} (numbered : Numbered scope.dialect first) :
        Numbered scope.dialect
          ((if isFirst then [] else [Fragment.text (" " ++ connective.sql ++ " ")]) ++ first) := by
      cases isFirst with
      | true => exact numbered
      | false => cases connective <;> exact numbered.text (quiet_words (by decide))
    have unvalued : Fragment.values
        (if isFirst then [] else [Fragment.text (" " ++ connective.sql ++ " ")]) = [] := by
      cases isFirst <;> rfl
    rw [Clause.leaves, Condition.clauses]
    refine ⟨?_, fun same => ?_, fun same tame => ?_⟩
    · rw [List.forall_mem_append, ← one.succeeds, ← more.succeeds]
      refine ⟨fun ⟨_, same⟩ => ?_, fun ⟨⟨first, written⟩, others, following⟩ => ?_⟩
      · obtain ⟨first, written, remaining⟩ := bind_eq_ok.mp same
        obtain ⟨others, following, _⟩ := bind_eq_ok.mp remaining
        exact ⟨⟨first, written⟩, others, following⟩
      · exact ⟨_, bind_eq_ok.mpr ⟨first, written, bind_eq_ok.mpr ⟨others, following, rfl⟩⟩⟩
    · obtain ⟨first, written, remaining⟩ := bind_eq_ok.mp same
      obtain ⟨others, following, whole⟩ := bind_eq_ok.mp remaining
      obtain rfl := Except.ok.inj whole
      rw [Fragment.values_append, Fragment.values_append, unvalued, one.values written,
        more.values following, List.flatMap_append]
      rfl
    · obtain ⟨first, written, remaining⟩ := bind_eq_ok.mp same
      obtain ⟨others, following, whole⟩ := bind_eq_ok.mp remaining
      obtain rfl := Except.ok.inj whole
      obtain ⟨tameFirst, tameOthers⟩ := List.forall_mem_append.mp tame
      exact (joined (one.numbered written tameFirst)).append (more.numbered following tameOthers)
        (opens_clauses following)

end

/-- Clauses are written behind `WHERE`, unless there are none. -/
theorem writes_whereFragments (clauses : List Clause) :
    Writes scope.dialect (Clause.leaves clauses) (whereFragments scope clauses) := by
  unfold whereFragments
  split
  · rename_i empty
    obtain rfl := List.isEmpty_iff.mp empty
    exact ⟨⟨fun _ => nofun, fun _ => ⟨_, rfl⟩⟩, fun same => Except.ok.inj same ▸ rfl,
      fun same _ => Except.ok.inj same ▸ numbered_nil⟩
  · have inner : Writes scope.dialect (Clause.leaves clauses) (Condition.clauses scope true clauses) :=
      writes_clauses true clauses
    refine ⟨?_, fun same => ?_, fun same tame => ?_⟩
    · rw [← inner.succeeds]
      refine ⟨fun ⟨_, same⟩ => ?_, fun ⟨pieces, written⟩ => ?_⟩
      · obtain ⟨pieces, written, _⟩ := map_eq_ok.mp same
        exact ⟨pieces, written⟩
      · exact ⟨_, map_eq_ok.mpr ⟨pieces, written, rfl⟩⟩
    · obtain ⟨pieces, written, rfl⟩ := map_eq_ok.mp same
      rw [Fragment.values, inner.values written]
    · obtain ⟨pieces, written, rfl⟩ := map_eq_ok.mp same
      exact (inner.numbered written tame).text (quiet_words (by decide))

theorem opens_whereFragments {clauses : List Clause} {pieces : List Fragment}
    (written : whereFragments scope clauses = .ok pieces) : Opens dialect pieces := by
  unfold whereFragments at written
  split at written
  · obtain rfl := Except.ok.inj written
    exact opens_nil
  · obtain ⟨_, _, rfl⟩ := map_eq_ok.mp written
    exact opens_text_cons (by decide)

end Conditions

end Sql

end Polystore
