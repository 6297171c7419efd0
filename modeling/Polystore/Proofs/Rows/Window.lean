/-
**The rows of a query between an offset and a limit.**

A query without joins, groups and distinct rows has its window taken by the store, every other one has it
taken from its rows at the end. Both windows are that of the rows without one, and neither makes a
query fail or keeps it from failing: not where the store answers, and not where the collections cannot
be seen, within a transaction that is over or outside of one that is open.

* `run_selectRows_windowed`: the rows within a window, before identifiers that cannot be read are passed
  over;
* `select_eq_window`: the rows that a query has.
-/

import Polystore.Proofs.Rows.Pages

namespace Polystore

open Memory Native

/-- An outcome whose value is changed. -/
def Outcome.map {α β : Type} (change : α → β) : Outcome α → Outcome β
  | .finished result => .finished (result.map change)
  | .blocked => .blocked

/-- What stands before the calls of a query: its table and its conditions. -/
theorem selectRows_eq (scope : Scope) (query : Query) :
    selectRows scope query = (do
      let table ← Program.ofExcept query.requireTable
      let filter ← Program.ofExcept (Native.filter query.clauses)
      let found ← findRows scope table (queryRead query filter)
      let joined ← applyJoins scope query.joins found
      return windowed query (selected query (grouped query joined))) := by
  unfold selectRows
  rw [read_eq]
  cases query.requireTable with
  | error error => rfl
  | ok table => cases Native.filter query.clauses <;> rfl

section

variable {scope : Scope} {world : World Server}

/-- **A scope that sees no collections reads nothing**: whatever is to be read, its calls wait, or they
fail with one error. -/
theorem run_findRows_of_invisible (invisible : world.state.visible? scope = none) :
    (∀ collection read,
      (findRows scope collection read).run Server.driver world = (.blocked, world)) ∨
    ∃ error, ∀ collection read,
      (findRows scope collection read).run Server.driver world = (.finished (.error error), world) := by
  cases scope with
  | connection =>
    have held : world.state.transaction.isSome = true := by
      by_contra free
      rw [Server.visible?, if_neg free] at invisible
      cases invisible
    refine .inl fun collection read => ?_
    have waits : world.state.answer .connection (Call.find collection read) =
        (.waiting, world.state) := answer_of_held held
    exact Program.run_bind_of_blocked (Program.run_ask_of_waiting waits) _
  | transaction number =>
    refine .inr ⟨Store.finishedTransaction, fun collection read => ?_⟩
    have refused : world.state.answer (.transaction number) (Call.find collection read) =
        (.given (.error Store.finishedTransaction), world.state) :=
      answer_of_closed invisible (by simp)
    exact Program.run_bind_of_error (Program.run_ask_of_given refused) _

/-- **The rows within a window** are those of the same query without one. -/
theorem run_selectRows_windowed (scope : Scope) (query : Query) (world : World Server) :
    (selectRows scope query).run Server.driver world =
      ((selectRows scope query.unwindowed).run Server.driver world).map
        (Outcome.map query.window) id := by
  cases visible : world.state.visible? scope with
  | some store =>
    rw [run_of_reads visible (reads_selectRows query), run_of_reads visible (reads_selectRows _),
      evaluate_selectRows_windowed]
    rfl
  | none =>
    -- The checks before the first call are the same ones, and the first call ends both runs.
    rw [selectRows_eq, selectRows_eq,
      show query.unwindowed.requireTable = query.requireTable from rfl,
      show query.unwindowed.clauses = query.clauses from rfl]
    cases query.requireTable with
    | error error => rfl
    | ok table =>
      cases Native.filter query.clauses with
      | error error => rfl
      | ok filter =>
        show (findRows scope table (queryRead query filter) >>= _).run _ _ =
          ((findRows scope table (queryRead query.unwindowed filter) >>= _).run _ _).map _ _
        rw [Program.run_bind, Program.run_bind]
        rcases run_findRows_of_invisible visible with waits | ⟨error, fails⟩
        · rw [waits, waits]
          rfl
        · rw [fails, fails]
          rfl

/-- Identifiers that cannot be read leave no rows, within every window. -/
theorem run_select_windowed (scope : Scope) (query : Query) (world : World Server) :
    (engine.select scope query).run Server.driver world =
      ((engine.select scope query.unwindowed).run Server.driver world).map
        (Outcome.map query.window) id := by
  show ((selectRows scope query).orIfInvalidIdentifier []).run _ _ =
    (((selectRows scope query.unwindowed).orIfInvalidIdentifier []).run _ _).map _ _
  rw [Program.run_orIfInvalidIdentifier, Program.run_orIfInvalidIdentifier, run_selectRows_windowed]
  generalize (selectRows scope query.unwindowed).run Server.driver world = ran
  obtain ⟨result | _, last⟩ := ran
  · have kept := Program.readable_map (query.window : List Document → List Document) [] result
    rw [window_nil] at kept
    simp only [Prod.map, Outcome.map, kept]
  · rfl

/-- **A page of a query is a window on all its rows.** On every store and in every scope, a query with an
offset and a limit has the rows that it has without them, less those before the offset and those behind
the limit. It fails or waits exactly if it does so without them, and both leave the same world. -/
theorem select_eq_window (scope : Scope) (query : Query) (offset limit : Option Nat)
    (world : World Server) :
    (engine.select scope { query with offset, limit }).run Server.driver world =
      ((engine.select scope { query with offset := none, limit := none }).run Server.driver world).map
        (Outcome.map fun rows =>
          match limit with
          | some limit => (rows.drop (offset.getD 0)).take limit
          | none => rows.drop (offset.getD 0)) id :=
  run_select_windowed scope { query with offset, limit } world

end

end Polystore
