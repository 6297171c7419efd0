/-
**The grammar of conditions.**

A condition is a list of products between `OR`, a product a list of factors between `AND`, and a factor
a test or a condition in parentheses. `IsTest`, `IsFactor`, `IsProduct` and `IsSum` say of lexemes that
they are such a thing, and which. The `AND` of a range belongs to its test, and a column is made of names
in quotes, each of which is one lexeme.

* `IsSum.unique`: the grammar is unambiguous, and a condition ends where no `AND` and no `OR` follows;
* `exists_isSum_of_readClauses`: what is read as clauses is a condition, its products are the runs of the
  clauses.
-/

import Polystore.Proofs.Statement.Written

namespace Polystore.Sql

/-- A condition: a leaf, or a group of runs, one of which has to hold throughout. -/
inductive RunTree (α : Type) where
  | leaf (content : α)
  | branch (runs : List (List (RunTree α)))

/-! ### The grammar -/

/-- The word before what is negated. -/
def negationLexemes (negated : Bool) : List Lexeme := if negated then [.keyword .negation] else []

/-- **Lexemes that are a test.** -/
inductive IsTest : List Lexeme → Test → Prop
  | compare {column : List String} (filled : column ≠ []) (operator : Operator) (value : Value) :
    IsTest (dotted column ++ [.operator operator, .bound value]) (.compare column operator value)
  | isNull {column : List String} (filled : column ≠ []) (negated : Bool) :
    IsTest (dotted column ++ .keyword .identity :: (negationLexemes negated ++ [.keyword .null]))
      (.isNull column negated)
  | oneOf {column : List String} {values : List Value} (filled : column ≠ []) (present : values ≠ [])
      (negated : Bool) :
    IsTest (dotted column ++ (negationLexemes negated ++
      .keyword .membership :: .sign '(' :: separatedLexemes values)) (.oneOf column values negated)
  | between {column : List String} (filled : column ≠ []) (low high : Value) (negated : Bool) :
    IsTest (dotted column ++ (negationLexemes negated ++
      [.keyword .range, .bound low, .keyword .and, .bound high])) (.between column low high negated)
  | like {column : List String} (filled : column ≠ []) (pattern : Value) :
    IsTest (.keyword .lower :: .sign '(' :: (dotted column ++
      [.sign ')', .keyword .pattern, .keyword .lower, .sign '(', .bound pattern, .sign ')']))
      (.like column pattern)
  | numbers (left : Nat) (operator : Operator) (right : Nat) :
    IsTest [.number left, .operator operator, .number right] (.numbers left operator right)

mutual

/-- **Lexemes that are a test or a condition in parentheses.** -/
inductive IsFactor : List Lexeme → RunTree Test → Prop
  | test {lexemes : List Lexeme} {test : Test} (is : IsTest lexemes test) :
    IsFactor lexemes (.leaf test)
  | group {inner : List Lexeme} {runs : List (List (RunTree Test))} (inside : IsSum inner runs) :
    IsFactor (.sign '(' :: (inner ++ [.sign ')'])) (.branch runs)

/-- **Lexemes that are factors between `AND`.** -/
inductive IsProduct : List Lexeme → List (RunTree Test) → Prop
  | single {lexemes : List Lexeme} {tree : RunTree Test} (only : IsFactor lexemes tree) :
    IsProduct lexemes [tree]
  | and {first others : List Lexeme} {tree : RunTree Test} {run : List (RunTree Test)}
      (one : IsFactor first tree) (rest : IsProduct others run) :
    IsProduct (first ++ .keyword .and :: others) (tree :: run)

/-- **Lexemes that are products between `OR`**: a condition. -/
inductive IsSum : List Lexeme → List (List (RunTree Test)) → Prop
  | single {lexemes : List Lexeme} {run : List (RunTree Test)} (only : IsProduct lexemes run) :
    IsSum lexemes [run]
  | or {first others : List Lexeme} {run : List (RunTree Test)} {runs : List (List (RunTree Test))}
      (one : IsProduct first run) (rest : IsSum others runs) :
    IsSum (first ++ .keyword .or :: others) (run :: runs)

end

/-! ### Tests -/

section Tests

variable {lexemes rest : List Lexeme} {test : Test}

/-- **A test is read as what it is**, whatever follows. -/
theorem IsTest.read (is : IsTest lexemes test) (rest : List Lexeme) :
    readTest (lexemes ++ rest) = some (test, rest) := by
  cases is with
  | compare filled operator value =>
    rw [List.append_assoc]
    exact readTest_column filled (.operator operator) (by simp) _
  | isNull filled negated =>
    rw [List.append_assoc]
    cases negated <;> exact readTest_column filled (.keyword .identity) (by simp) _
  | @oneOf column values filled present negated =>
    have inside := readValues_separated present rest
    rw [List.append_assoc]
    cases negated with
    | false =>
      have asked : readQuestion column (.keyword .membership :: .sign '(' ::
          (separatedLexemes values ++ rest)) = some (.oneOf column values false, rest) := by
        rw [readQuestion, inside]
        rfl
      exact (readTest_column filled (.keyword .membership) (by simp) _).trans asked
    | true =>
      have asked : readQuestion column (.keyword .negation :: .keyword .membership :: .sign '(' ::
          (separatedLexemes values ++ rest)) = some (.oneOf column values true, rest) := by
        rw [readQuestion, inside]
        rfl
      exact (readTest_column filled (.keyword .negation) (by simp) _).trans asked
  | between filled low high negated =>
    rw [List.append_assoc]
    cases negated with
    | false => exact readTest_column filled (.keyword .range) (by simp) _
    | true => exact readTest_column filled (.keyword .negation) (by simp) _
  | like filled pattern =>
    have column := readColumn_dotted filled (.sign ')')
      ([.keyword .pattern, .keyword .lower, .sign '(', .bound pattern, .sign ')'] ++ rest) (by simp)
    rw [List.cons_append, List.cons_append, List.append_assoc, List.cons_append]
    simp only [readTest, column]
    rfl
  | numbers left operator right => rfl

/-- What is read as a column is one. -/
theorem eq_of_readColumn {column : List String}
    (read : readColumn lexemes = some (column, rest)) :
    column ≠ [] ∧ lexemes = dotted column ++ rest := by
  fun_induction readColumn lexemes generalizing column rest with
  | case1 first following hypothesis =>
    obtain ⟨⟨others, behind⟩, inner, same⟩ := Option.map_eq_some_iff.mp read
    cases same
    obtain ⟨filled, rfl⟩ := hypothesis inner
    obtain ⟨second, more, rfl⟩ := List.exists_cons_of_ne_nil filled
    exact ⟨List.cons_ne_nil _ _, rfl⟩
  | case2 only following apart =>
    cases read
    exact ⟨List.cons_ne_nil _ _, rfl⟩
  | case3 => cases read

/-- What is read as a list of values is one. -/
theorem eq_of_readValues {values : List Value}
    (read : readValues lexemes = some (values, rest)) :
    values ≠ [] ∧ lexemes = separatedLexemes values ++ rest := by
  fun_induction readValues lexemes generalizing values rest with
  | case1 first following hypothesis =>
    obtain ⟨⟨others, behind⟩, inner, same⟩ := Option.map_eq_some_iff.mp read
    cases same
    obtain ⟨filled, rfl⟩ := hypothesis inner
    obtain ⟨second, more, rfl⟩ := List.exists_cons_of_ne_nil filled
    exact ⟨List.cons_ne_nil _ _, rfl⟩
  | case2 only following =>
    cases read
    exact ⟨List.cons_ne_nil _ _, rfl⟩
  | case3 => cases read

theorem exists_isTest_of_readQuestion {column : List String} (filled : column ≠ [])
    (read : readQuestion column lexemes = some (test, rest)) :
    ∃ words, IsTest (dotted column ++ words) test ∧ lexemes = words ++ rest := by
  unfold readQuestion at read
  split at read
  · cases read
    exact ⟨_, .compare filled _ _, rfl⟩
  · cases read
    exact ⟨_, .isNull filled false, rfl⟩
  · cases read
    exact ⟨_, .isNull filled true, rfl⟩
  · obtain ⟨⟨values, behind⟩, inner, same⟩ := Option.map_eq_some_iff.mp read
    cases same
    obtain ⟨present, rfl⟩ := eq_of_readValues inner
    exact ⟨_, .oneOf filled present false, rfl⟩
  · obtain ⟨⟨values, behind⟩, inner, same⟩ := Option.map_eq_some_iff.mp read
    cases same
    obtain ⟨present, rfl⟩ := eq_of_readValues inner
    exact ⟨_, .oneOf filled present true, rfl⟩
  · cases read
    exact ⟨_, .between filled _ _ false, rfl⟩
  · cases read
    exact ⟨_, .between filled _ _ true, rfl⟩
  · cases read

/-- **What is read as a test is one.** -/
theorem exists_isTest_of_readTest (read : readTest lexemes = some (test, rest)) :
    ∃ words, IsTest words test ∧ lexemes = words ++ rest := by
  unfold readTest at read
  split at read
  · cases read
    exact ⟨_, .numbers _ _ _, rfl⟩
  · obtain ⟨⟨column, behind⟩, inner, asked⟩ := Option.bind_eq_some_iff.mp read
    obtain ⟨filled, rfl⟩ := eq_of_readColumn inner
    have asked : readLike column behind = some (test, rest) := asked
    unfold readLike at asked
    split at asked
    · cases asked
      exact ⟨_, .like filled _, by simp⟩
    · cases asked
  · obtain ⟨⟨column, behind⟩, inner, asked⟩ := Option.bind_eq_some_iff.mp read
    obtain ⟨filled, rfl⟩ := eq_of_readColumn inner
    obtain ⟨words, is, rfl⟩ := exists_isTest_of_readQuestion filled asked
    exact ⟨_, is, (List.append_assoc _ _ _).symm⟩

end Tests

/-! ### One reading at most -/

section Unique

/-- A test does not begin like a group. -/
theorem IsTest.not_group {lexemes : List Lexeme} {test : Test} (is : IsTest lexemes test)
    (rest others : List Lexeme) : lexemes ++ rest ≠ .sign '(' :: others := by
  intro same
  have read := is.read rest
  rw [same] at read
  cases read

theorem or_ne_and (rest : List Lexeme) :
    ∀ following, Lexeme.keyword .or :: rest ≠ .keyword .and :: following := by
  intro following same
  cases same

-- Where two readings begin alike, both end at the same place: a factor by itself, a product where no
-- `AND` follows, a condition where neither `AND` nor `OR` does.
mutual

theorem IsFactor.unique {first second rest others : List Lexeme} {tree other : RunTree Test} :
    IsFactor first tree → IsFactor second other → first ++ rest = second ++ others →
      tree = other ∧ rest = others
  | .test one, .test two, same => by
    have former := one.read rest
    have latter := two.read others
    rw [same, latter] at former
    cases former
    exact ⟨rfl, rfl⟩
  | .test one, .group _, same => absurd same (one.not_group _ _)
  | .group _, .test two, same => absurd same.symm (two.not_group _ _)
  | .group one, .group two, same => by
    rw [List.cons_append, List.cons_append, List.append_assoc, List.append_assoc] at same
    obtain ⟨runs, behind⟩ := IsSum.unique one two (endsClauses_parenthesis _)
      (endsClauses_parenthesis _) (List.cons.inj same).2
    exact ⟨congrArg RunTree.branch runs, (List.cons.inj behind).2⟩

theorem IsProduct.unique {first second rest others : List Lexeme} {run other : List (RunTree Test)} :
    IsProduct first run → IsProduct second other → (∀ following, rest ≠ .keyword .and :: following) →
      (∀ following, others ≠ .keyword .and :: following) → first ++ rest = second ++ others →
      run = other ∧ rest = others
  | .single one, .single two, _, _, same => by
    obtain ⟨rfl, behind⟩ := IsFactor.unique one two same
    exact ⟨rfl, behind⟩
  | .single one, .and two _, ends, _, same => by
    rw [List.append_assoc] at same
    exact absurd (IsFactor.unique one two same).2 (ends _)
  | .and one _, .single two, _, ends, same => by
    rw [List.append_assoc] at same
    exact absurd (IsFactor.unique one two same).2.symm (ends _)
  | .and one more, .and two further, ends, stops, same => by
    rw [List.append_assoc, List.append_assoc] at same
    obtain ⟨rfl, behind⟩ := IsFactor.unique one two same
    obtain ⟨rfl, rest⟩ := IsProduct.unique more further ends stops (List.cons.inj behind).2
    exact ⟨rfl, rest⟩

/-- **Lexemes are a condition in one way at most.** -/
theorem IsSum.unique {first second rest others : List Lexeme} {runs other : List (List (RunTree Test))} :
    IsSum first runs → IsSum second other → EndsClauses rest → EndsClauses others →
      first ++ rest = second ++ others → runs = other ∧ rest = others
  | .single one, .single two, ends, stops, same => by
    obtain ⟨rfl, behind⟩ := IsProduct.unique one two (fun _ => (ends _).1) (fun _ => (stops _).1) same
    exact ⟨rfl, behind⟩
  | .single one, .or two _, ends, _, same => by
    rw [List.append_assoc] at same
    have behind := (IsProduct.unique one two (fun _ => (ends _).1) (or_ne_and _) same).2
    exact absurd behind (ends _).2
  | .or one _, .single two, _, ends, same => by
    rw [List.append_assoc] at same
    have behind := (IsProduct.unique one two (or_ne_and _) (fun _ => (ends _).1) same).2
    exact absurd behind.symm (ends _).2
  | .or one more, .or two further, ends, stops, same => by
    rw [List.append_assoc, List.append_assoc] at same
    obtain ⟨rfl, behind⟩ := IsProduct.unique one two (or_ne_and _) (or_ne_and _) same
    obtain ⟨rfl, rest⟩ := IsSum.unique more further ends stops (List.cons.inj behind).2
    exact ⟨rfl, rest⟩

end

end Unique

/-! ### What is read -/

section Reader

mutual

/-- The tree of a formula. -/
def Formula.tree : Formula → RunTree Test
  | .test question => .leaf question
  | .group clauses => .branch (Native.runs (Formula.trees clauses))

/-- The trees of formulas beside their connectives. -/
def Formula.trees : List (Connective × Formula) → List (Connective × RunTree Test)
  | [] => []
  | (connective, formula) :: rest => (connective, formula.tree) :: Formula.trees rest

end

/-- What is read as a formula is a factor, if what is read in parentheses is a condition. -/
theorem exists_isFactor_of_readFormula
    {inside : List Lexeme → Option (List (Connective × Formula) × List Lexeme)}
    (sums : ∀ {lexemes rest clauses}, inside lexemes = some (clauses, rest) →
      ∃ words, IsSum words (Native.runs (Formula.trees clauses)) ∧ lexemes = words ++ rest)
    {lexemes rest : List Lexeme} {formula : Formula}
    (read : readFormula inside lexemes = some (formula, rest)) :
    ∃ words, IsFactor words formula.tree ∧ lexemes = words ++ rest := by
  unfold readFormula at read
  split at read
  · split at read
    · cases read
      obtain ⟨words, sum, rfl⟩ := sums ‹_›
      exact ⟨_, .group sum, by simp⟩
    · cases read
  · obtain ⟨⟨test, behind⟩, tested, same⟩ := Option.map_eq_some_iff.mp read
    cases same
    obtain ⟨words, is, same⟩ := exists_isTest_of_readTest tested
    exact ⟨words, .test is, same⟩

/-- A factor before an `AND` joins the first product. -/
theorem IsSum.and_front {first others : List Lexeme} {tree : RunTree Test} {run : List (RunTree Test)}
    {runs : List (List (RunTree Test))} (one : IsFactor first tree) (sum : IsSum others (run :: runs)) :
    IsSum (first ++ .keyword .and :: others) ((tree :: run) :: runs) := by
  cases sum with
  | single only => exact .single (.and one only)
  | or product rest =>
    rw [← List.cons_append, ← List.append_assoc]
    exact .or (.and one product) rest

/-- **What is read as clauses is a condition**, and its products are the runs of the clauses. -/
theorem exists_isSum_of_readClauses (fuel : Nat) {connective : Connective}
    {lexemes rest : List Lexeme} {clauses : List (Connective × Formula)}
    (read : readClauses fuel connective lexemes = some (clauses, rest)) :
    (∃ formula others, clauses = (connective, formula) :: others) ∧
    ∃ words, IsSum words (Native.runs (Formula.trees clauses)) ∧ lexemes = words ++ rest := by
  induction fuel generalizing connective lexemes rest clauses with
  | zero => cases read
  | succ fuel hypothesis =>
    obtain ⟨⟨formula, behind⟩, one, read⟩ := Option.bind_eq_some_iff.mp read
    obtain ⟨⟨others, following⟩, more, same⟩ := Option.bind_eq_some_iff.mp read
    cases same
    obtain ⟨first, factor, rfl⟩ :=
      exists_isFactor_of_readFormula (fun inner => (hypothesis inner).2) one
    refine ⟨⟨formula, others, rfl⟩, ?_⟩
    have more : readFurther (readClauses fuel) behind = some (others, rest) := more
    unfold readFurther at more
    split at more
    · obtain ⟨⟨next, further, rfl⟩, words, sum, rfl⟩ := hypothesis more
      obtain ⟨run, runs, cut⟩ := Clause.exists_runs_cons .and next.tree (Formula.trees further)
      have sum : IsSum words ((next.tree :: run) :: runs) := cut ▸ sum
      refine ⟨first ++ .keyword .and :: words, ?_, by simp⟩
      show IsSum _ (Native.runs ((connective, formula.tree) :: (.and, next.tree) :: _))
      rw [Clause.runs_and, cut]
      exact sum.and_front factor
    · obtain ⟨⟨next, further, rfl⟩, words, sum, rfl⟩ := hypothesis more
      exact ⟨first ++ .keyword .or :: words, .or (.single factor) sum, by simp⟩
    · cases more
      exact ⟨first, .single (.single factor), rfl⟩

end Reader

end Polystore.Sql
