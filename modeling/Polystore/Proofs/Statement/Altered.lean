/-
**Changes of a table.**

All changes of a list are written as statements before the first statement is sent. The driver is traced,
so that it shows which calls it has received.

* `alterStatements_eq_error_iff`: what cannot be written as statements;
* `exists_firstUnsupported`, `exists_each`: what is written for a list of changes, or why it is not;
* `sends_executeAll`: how a driver receives statements, up to the first one that it does not carry out;
* `alter_sends`: so an unsupported change anywhere in the list leaves the driver without a call, and
  otherwise it receives the statements of the changes in their order.
-/

import Mathlib.Data.List.Basic
import Polystore.Proofs.Program.Run
import Polystore.Script
import Polystore.Sql.Schema

namespace Polystore.Sql

/-! ### What is written -/

/-- Whether some change of a list has no statements, and why the first such has none. -/
def FirstUnsupported (dialect : SqlDialect) (table : String) (alterations : List Alteration)
    (error : DatabaseError) : Prop :=
  ∃ before alteration after, alterations = before ++ alteration :: after ∧
    (∀ earlier ∈ before, ∃ statements, alterStatements dialect table earlier = .ok statements) ∧
    alterStatements dialect table alteration = .error error

section Written

variable {dialect : SqlDialect} {table : String} {alterations : List Alteration}

/-- **A change has no statements exactly if it changes a column of SQLite in place.** -/
theorem alterStatements_eq_error_iff {alteration : Alteration} {error : DatabaseError} :
    alterStatements dialect table alteration = .error error ↔
      dialect = .sqlite ∧ ∃ column, alteration = .changeColumn column ∧
        error = .unsupported ("changing column '" ++ column.name ++ "' is not supported by SQLite") := by
  constructor
  · intro failed
    cases alteration with
    | changeColumn column =>
      cases dialect with
      | sqlite => exact ⟨rfl, column, rfl, (Except.error.inj failed).symm⟩
      | mySql => cases failed
      | postgres => cases failed
    | _ => cases failed
  · rintro ⟨rfl, column, rfl, rfl⟩
    rfl

/-- A list with such a change cannot be written, for the first one of them, -/
theorem exists_firstUnsupported
    (unsupported : ∃ alteration ∈ alterations, ∃ error,
      alterStatements dialect table alteration = .error error) :
    ∃ error, FirstUnsupported dialect table alterations error ∧
      alterAllStatements dialect table alterations = .error error := by
  obtain ⟨unfit, member, reason, refused⟩ := unsupported
  induction alterations with
  | nil => cases member
  | cons alteration rest hypothesis =>
    cases written : alterStatements dialect table alteration with
    | error error =>
      refine ⟨error, ⟨[], alteration, rest, rfl, nofun, written⟩, ?_⟩
      rw [alterAllStatements, written]
      rfl
    | ok statements =>
      have behind : unfit ∈ rest := by
        rcases List.mem_cons.mp member with rfl | later
        · rw [written] at refused
          cases refused
        · exact later
      obtain ⟨error, ⟨before, first, after, rfl, fine, fails⟩, unwritten⟩ := hypothesis behind
      refine ⟨error, ⟨alteration :: before, first, after, rfl, ?_, fails⟩, ?_⟩
      · exact List.forall_mem_cons.mpr ⟨⟨statements, written⟩, fine⟩
      · rw [alterAllStatements, written, unwritten]
        rfl

/-- and any other list is written as the statements of its changes in their order. -/
theorem exists_each (supported : ∀ alteration ∈ alterations, ∃ statements,
      alterStatements dialect table alteration = .ok statements) :
    ∃ each : List (List Statement),
      alterations.map (alterStatements dialect table) = each.map .ok ∧
        alterAllStatements dialect table alterations = .ok each.flatten := by
  induction alterations with
  | nil => exact ⟨[], rfl, rfl⟩
  | cons alteration rest hypothesis =>
    obtain ⟨⟨first, written⟩, others⟩ := List.forall_mem_cons.mp supported
    obtain ⟨each, apiece, whole⟩ := hypothesis others
    refine ⟨first :: each, ?_, ?_⟩
    · rw [List.map_cons, written, apiece, List.map_cons]
    · rw [alterAllStatements, written, whole]
      rfl

end Written

/-! ### What is sent -/

section Sent

variable {σ : Type}

/-- **Whether a driver carries out statements**, one after the other, and in which state it ends. -/
inductive Carries (driver : Driver interface σ) : List Statement → σ → σ → Prop
  | nil (state : σ) : Carries driver [] state state
  | cons {statement : Statement} {rest : List Statement} {state middle last : σ} {affected : Nat}
    (done : driver.answer .connection (.execute statement) state = (.given (.ok affected), middle))
    (others : Carries driver rest middle last) : Carries driver (statement :: rest) state last

/-- What is left of a world where a traced driver has received statements. -/
def received (world : World (List Call × σ)) (statements : List Statement) (state : σ) :
    World (List Call × σ) :=
  { world with state := (world.state.1 ++ statements.map Call.execute, state) }

/-- **How statements are sent**: until the driver has carried all of them out, or up to the first one that
it rejects, whose error is passed on, or that it makes wait. -/
inductive Sends (driver : Driver interface σ) (statements : List Statement)
    (world : World (List Call × σ)) : Outcome Unit × World (List Call × σ) → Prop
  | all {last : σ} (carried : Carries driver statements world.state.2 last) :
    Sends driver statements world (.finished (.ok ()), received world statements last)
  | rejected {before after : List Statement} {statement : Statement} {middle last : σ}
    {error : DatabaseError} (split : statements = before ++ statement :: after)
    (carried : Carries driver before world.state.2 middle)
    (refused : driver.answer .connection (.execute statement) middle = (.given (.error error), last)) :
    Sends driver statements world
      (.finished (.error error), received world (before ++ [statement]) last)
  | waiting {before after : List Statement} {statement : Statement} {middle last : σ}
    (split : statements = before ++ statement :: after)
    (carried : Carries driver before world.state.2 middle)
    (waits : driver.answer .connection (.execute statement) middle = (.waiting, last)) :
    Sends driver statements world (.blocked, received world (before ++ [statement]) last)

variable {driver : Driver interface σ} {world : World (List Call × σ)} {statement : Statement}
  {rest : List Statement} {middle : σ} {affected : Nat}

theorem received_cons (world : World (List Call × σ)) (statement : Statement) (rest : List Statement)
    (state last : σ) :
    received (received world [statement] state) rest last = received world (statement :: rest) last := by
  simp [received]

/-- A statement that is carried out goes before what is sent behind it. -/
theorem Sends.cons {result : Outcome Unit × World (List Call × σ)}
    (done : driver.answer .connection (.execute statement) world.state.2 =
      (.given (.ok affected), middle))
    (others : Sends driver rest (received world [statement] middle) result) :
    Sends driver (statement :: rest) world result := by
  cases others with
  | all carried =>
    rw [received_cons]
    exact .all (.cons done carried)
  | @rejected before after _ _ _ _ split carried refused =>
    rw [received_cons]
    exact .rejected (congrArg (statement :: ·) split) (.cons done carried) refused
  | @waiting before after _ _ _ split carried waits =>
    rw [received_cons]
    exact .waiting (congrArg (statement :: ·) split) (.cons done carried) waits

/-- A traced driver receives a statement and answers it as it would. -/
theorem answer_traced {scope : Scope} {answer : Answer Nat} (world : World (List Call × σ))
    (answered : driver.answer scope (.execute statement) world.state.2 = (answer, middle)) :
    driver.traced.answer scope (.execute statement) world.state =
      (answer, (received world [statement] middle).state) := by
  rw [Driver.traced]
  simp only [answered]
  rfl

/-- **Statements are sent one after the other**, up to the first one that is not carried out. -/
theorem sends_executeAll (driver : Driver interface σ) (statements : List Statement)
    (world : World (List Call × σ)) :
    Sends driver statements world ((executeAll statements).run driver.traced world) := by
  induction statements generalizing world with
  | nil =>
    have unchanged : received world [] world.state.2 = world := by simp [received]
    have nothing : Sends driver [] world (.finished (.ok ()), received world [] world.state.2) :=
      .all (.nil _)
    rwa [unchanged] at nothing
  | cons statement rest hypothesis =>
    cases answered : driver.answer .connection (.execute statement) world.state.2 with
    | mk answer middle =>
      have given := answer_traced world answered
      cases answer with
      | waiting =>
        have blocked := Program.run_bind_of_blocked (Program.run_ask_of_waiting given)
          fun _ : Nat => executeAll rest
        exact blocked ▸ .waiting rfl (.nil _) answered
      | given result =>
        cases result with
        | error error =>
          have failed := Program.run_bind_of_error (Program.run_ask_of_given given)
            fun _ : Nat => executeAll rest
          exact failed ▸ .rejected rfl (.nil _) answered
        | ok affected =>
          have went := Program.run_bind_of_ok (Program.run_ask_of_given given)
            fun _ : Nat => executeAll rest
          exact went ▸ (hypothesis _).cons answered

/-- **Nothing of a list of changes is sent that cannot be written as a whole.** If some change has no
statements, changing the table fails as the first such change does and the driver receives nothing.
Otherwise it receives the statements of the changes in their order, up to the first one that it rejects,
whose error is the failure. Only changing a column of SQLite has no statements. -/
theorem alter_sends (driver : Driver interface σ) (dialect : SqlDialect) (table : String)
    (alterations : List Alteration) (world : World (List Call × σ)) :
    ((∃ alteration ∈ alterations, ∃ error, alterStatements dialect table alteration = .error error) →
      ∃ error, FirstUnsupported dialect table alterations error ∧
        ((schema dialect).alter table alterations).run driver.traced world =
          (.finished (.error error), world)) ∧
    ((∀ alteration ∈ alterations, ∃ statements,
        alterStatements dialect table alteration = .ok statements) →
      ∃ each : List (List Statement),
        alterations.map (alterStatements dialect table) = each.map .ok ∧
        Sends driver each.flatten world
          (((schema dialect).alter table alterations).run driver.traced world)) ∧
    ∀ alteration error, alterStatements dialect table alteration = .error error ↔
      dialect = .sqlite ∧ ∃ column, alteration = .changeColumn column ∧
        error = .unsupported ("changing column '" ++ column.name ++ "' is not supported by SQLite") := by
  have steps : (schema dialect).alter table alterations =
      (Program.ofExcept (alterAllStatements dialect table alterations) >>= executeAll) := rfl
  rw [steps]
  refine ⟨fun unsupported => ?_, fun supported => ?_, fun _ _ => alterStatements_eq_error_iff⟩
  · obtain ⟨error, first, unwritten⟩ := exists_firstUnsupported unsupported
    rw [unwritten]
    exact ⟨error, first, rfl⟩
  · obtain ⟨each, apiece, written⟩ := exists_each supported
    rw [written]
    exact ⟨each, apiece, sends_executeAll driver each.flatten world⟩

/-- A list of changes, the second of which SQLite cannot make. -/
def reshaping : List Alteration :=
  [.dropColumn "nick", .changeColumn (.plain "age" .bigInteger), .renameColumn "age" "years"]

/-- The statements of these changes in PostgreSQL. -/
def reshapingStatements : List (List Statement) :=
  [[.plain "ALTER TABLE \"people\" DROP COLUMN \"nick\""],
    [.plain "ALTER TABLE \"people\" ALTER COLUMN \"age\" TYPE BIGINT",
      .plain "ALTER TABLE \"people\" ALTER COLUMN \"age\" DROP NOT NULL"],
    [.plain "ALTER TABLE \"people\" RENAME COLUMN \"age\" TO \"years\""]]

/-- The driver of SQLite receives none of these changes. One of PostgreSQL that rejects the third
statement does not receive the fourth. -/
theorem alter_sends_reshaping :
    (∃ alteration ∈ reshaping, ∃ error, alterStatements .sqlite "people" alteration = .error error) ∧
    ((schema .sqlite).alter "people" reshaping).run Script.sqlDriver.traced ⟨⟨0, 0⟩, ([], .empty)⟩ =
      (.finished (.error (.unsupported "changing column 'age' is not supported by SQLite")),
        ⟨⟨0, 0⟩, ([], .empty)⟩) ∧
    (∀ alteration ∈ reshaping, ∃ statements,
      alterStatements .postgres "people" alteration = .ok statements) ∧
    Sends Script.sqlDriver reshapingStatements.flatten
      ⟨⟨0, 0⟩, ([], ⟨[.silent, .silent, ⟨some (.backend "locked"), [], none, []⟩], 0⟩)⟩
      (.finished (.error (.backend "locked")),
        ⟨⟨0, 0⟩, ((reshapingStatements.flatten.take 3).map Call.execute, .empty)⟩) := by
  have unsupported : ∃ alteration ∈ reshaping, ∃ error,
      alterStatements .sqlite "people" alteration = .error error :=
    ⟨_, List.mem_cons_of_mem _ List.mem_cons_self, _, rfl⟩
  have supported : ∀ alteration ∈ reshaping, ∃ statements,
      alterStatements .postgres "people" alteration = .ok statements :=
    List.forall_mem_cons.mpr ⟨⟨_, rfl⟩,
      List.forall_mem_cons.mpr ⟨⟨_, rfl⟩, List.forall_mem_singleton.mpr ⟨_, rfl⟩⟩⟩
  obtain ⟨refused, -, -⟩ :=
    alter_sends Script.sqlDriver .sqlite "people" reshaping ⟨⟨0, 0⟩, ([], .empty)⟩
  obtain ⟨error, -, failed⟩ := refused unsupported
  have cause : Except.error error =
      .error (.unsupported "changing column 'age' is not supported by SQLite") :=
    Outcome.finished.inj ((congrArg Prod.fst failed).symm.trans rfl)
  obtain ⟨-, taken, -⟩ := alter_sends Script.sqlDriver .postgres "people" reshaping
    ⟨⟨0, 0⟩, ([], ⟨[.silent, .silent, ⟨some (.backend "locked"), [], none, []⟩], 0⟩)⟩
  obtain ⟨each, apiece, sent⟩ := taken supported
  have written : reshapingStatements = each :=
    List.map_injective_iff.mpr (fun _ _ => Except.ok.inj)
      (show reshapingStatements.map (Except.ok (ε := DatabaseError)) = _ from apiece)
  subst written
  rw [cause] at failed
  exact ⟨unsupported, failed, supported, sent⟩

end Sent

end Polystore.Sql
