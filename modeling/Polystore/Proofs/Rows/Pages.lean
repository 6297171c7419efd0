/-
**Walks through the pages of a query.**

A page is a window of the rows that the query has without one. Walking on from the first page by the
number of the next page visits every row once and in order, and walking on from the last page by the
number of the previous one leads back.

* `evaluate_get_windowed`: the rows within a window;
* `trail_next`, `trail_previous`, `flatMap_visit`: walks through the pages of a list;
* `pages_of_query`: walks through the pages of a query.
-/

import Polystore.Proofs.Rows.Count

namespace Polystore

open Memory Native

/-! ### The rows within a window -/

section Windows

variable {scope : Scope} {store : Store} {query : Query} {validator : Validator}

theorem window_map {α β : Type} (query : Query) (change : α → β) (rows : List α) :
    query.window (rows.map change) = (query.window rows).map change := by
  unfold Query.window
  cases query.limit <;> simp only [List.map_drop, List.map_take]

theorem window_nil {α : Type} (query : Query) : query.window ([] : List α) = [] := by
  unfold Query.window
  cases query.limit <;> simp only [List.drop_nil, List.take_nil]

theorem selected_window (repeated : query.distinct = []) (rows : List Document) :
    selected query (query.window rows) = query.window (selected query rows) := by
  rw [selected_of_undistinct repeated, selected_of_undistinct repeated]
  split
  · exact (window_map query _ rows).symm
  · rfl

/-- **The rows of a query** are those within its window. -/
theorem evaluate_selectRows_windowed (query : Query) :
    (selectRows scope query).evaluate store.reply =
      ((selectRows scope query.unwindowed).evaluate store.reply).map query.window := by
  rw [evaluate_selectRows, evaluate_selectRows, map_bind_eq]
  refine bind_congr fun table => ?_
  rw [map_bind_eq]
  refine bind_congr fun filter => ?_
  rw [map_bind_eq]
  refine bind_congr fun accepted => ?_
  cases processed : query.isPostProcessed with
  | true =>
    have listed : listedRows query accepted = listedRows query.unwindowed accepted := by
      have same : query.unwindowed.isPostProcessed = true := processed
      rw [listedRows, listedRows, processed, same]
      rfl
    rw [listed, map_bind_eq]
    refine bind_congr fun rows => congrArg Except.ok ?_
    rw [windowed_eq, processed, if_pos rfl, windowed_of_unwindowed rfl rfl]
    rfl
  | false =>
    obtain ⟨unjoined, ungrouped, repeated⟩ := isPostProcessed_eq_false_iff.mp processed
    have listed : listedRows query accepted = query.window (listedRows query.unwindowed accepted) := by
      have whole : listedRows query.unwindowed accepted =
          (sorted (sort query.orders) accepted).map (storedRow query) :=
        listedRows_of_unwindowed rfl rfl accepted
      rw [whole, window_map, listedRows, processed]
      rfl
    have whole (rows : List Document) : windowed query (selected query (grouped query rows)) =
        selected query rows := by
      rw [windowed_eq, processed, if_neg Bool.false_ne_true, grouped_of_ungrouped ungrouped]
    rw [listed, unjoined, show query.unwindowed.joins = [] from unjoined]
    refine congrArg Except.ok ?_
    rw [whole, selected_window repeated, windowed_of_unwindowed rfl rfl]
    refine congrArg query.window ?_
    show _ = selected query (grouped query _)
    rw [grouped_of_ungrouped ungrouped]

/-- Rows with what is loaded beside each of them. -/
theorem evaluate_loadAll_ok {loads : List Load} {rows results : List Document} :
    ((Connection.mk engine scope validator).loadAll loads rows).evaluate store.reply = .ok results ↔
      List.Forall₂ (fun row result =>
        ((Connection.mk engine scope validator).loadInto loads row).evaluate store.reply = .ok result)
        rows results := by
  induction rows generalizing results with
  | nil =>
    rw [List.forall₂_nil_left_iff]
    exact ⟨fun done => (Except.ok.inj done).symm, fun empty => congrArg Except.ok empty.symm⟩
  | cons row rest hypothesis =>
    rw [Connection.loadAll, Program.evaluate_bind, bind_eq_ok, List.forall₂_cons_left_iff]
    refine exists_congr fun first => ?_
    rw [Program.evaluate_bind]
    constructor
    · rintro ⟨one, remaining⟩
      obtain ⟨others, more, whole⟩ := bind_eq_ok.mp remaining
      exact ⟨others, one, hypothesis.mp more, (Except.ok.inj whole).symm⟩
    · rintro ⟨others, one, more, rfl⟩
      exact ⟨one, bind_eq_ok.mpr ⟨others, hypothesis.mpr more, rfl⟩⟩

/-- **When a query with relationships has rows.** -/
theorem evaluate_get_ok {results : List Document} :
    ((Connection.mk engine scope validator).get query).evaluate store.reply = .ok results ↔
      ∃ table rows, query.requireTable = .ok table ∧
        Program.readable [] ((selectRows scope query).evaluate store.reply) = .ok rows ∧
        List.Forall₂ (fun row result =>
          ((Connection.mk engine scope validator).loadInto query.loads row).evaluate store.reply =
            .ok result) rows results := by
  have loading (rows : List Document) :
      (if query.loads.isEmpty then pure rows
        else (Connection.mk engine scope validator).loadAll query.loads rows).evaluate store.reply =
      ((Connection.mk engine scope validator).loadAll query.loads rows).evaluate store.reply := by
    cases query.loads with
    | nil => exact (evaluate_loadAll_ok.mpr (List.forall₂_same.mpr fun row _ => rfl)).symm
    | cons load others => rfl
  unfold Connection.get
  rw [Program.evaluate_bind, Program.evaluate_ofExcept, bind_eq_ok]
  refine exists_congr fun table => ?_
  rw [Program.evaluate_bind, evaluate_select, bind_eq_ok, ← exists_and_left]
  refine exists_congr fun rows => and_congr_right fun bound => and_congr_right fun selects => ?_
  rw [loading, evaluate_loadAll_ok]

/-- Identifiers that cannot be read leave no rows, which are within every window. -/
theorem readable_selectRows (query : Query) :
    Program.readable [] ((selectRows scope query).evaluate store.reply) =
      (Program.readable [] ((selectRows scope query.unwindowed).evaluate store.reply)).map
        query.window := by
  rw [evaluate_selectRows_windowed, ← Program.readable_map, window_nil]

/-- **The rows of a query with relationships** are those within its window, too. -/
theorem evaluate_get_windowed {rows : List Document}
    (gets : ((Connection.mk engine scope validator).get query.unwindowed).evaluate store.reply =
      .ok rows) :
    ((Connection.mk engine scope validator).get query).evaluate store.reply =
      .ok (query.window rows) := by
  obtain ⟨table, base, bound, selects, loaded⟩ := evaluate_get_ok.mp gets
  refine evaluate_get_ok.mpr ⟨table, query.window base, bound, ?_, ?_⟩
  · rw [readable_selectRows, selects]
    rfl
  · unfold Query.window
    cases query.limit with
    | none => exact List.forall₂_drop _ loaded
    | some limit => exact List.forall₂_take _ (List.forall₂_drop _ loaded)

end Windows

/-! ### The pages of a list -/

/-- **A walk** from a number: each page is shown under its number and links to the number of the one
behind it, the last page to none. -/
inductive Trail {α : Type} (shown : Nat → α → Prop) (link : α → Option Nat) :
    Nat → List (Nat × α) → Prop
  | last {number : Nat} {page : α} (now : shown number page) (ends : link page = none) :
    Trail shown link number [(number, page)]
  | step {number next : Nat} {page : α} {visits : List (Nat × α)} (now : shown number page)
    (goes : link page = some next) (rest : Trail shown link next visits) :
    Trail shown link number ((number, page) :: visits)

section Lists

variable {α : Type} {rows : List α} {perPage number : Nat}

/-- A page of a list: the next one is the one behind it if rows remain there. -/
def pageOf (rows : List α) (perPage number : Nat) : Page α :=
  let request : PageRequest := ⟨number, perPage⟩
  let items := (rows.drop request.offset).take perPage
  { items
    count := rows.length
    next := if request.offset + items.length < rows.length then some (request.number + 1) else none
    previous := if 1 < request.number then some (request.number - 1) else none }

/-- A page of a list with its number. -/
def visit (rows : List α) (perPage number : Nat) : Nat × Page α := (number, pageOf rows perPage number)

/-- How many pages a list has: one at least. -/
def pageCount (rows : List α) (perPage : Nat) : Nat := (rows.length - 1) / perPage + 1

theorem length_le_pageCount_mul (positive : 1 ≤ perPage) :
    rows.length ≤ pageCount rows perPage * perPage := by
  have bound : rows.length - 1 < (rows.length - 1) / perPage * perPage + perPage :=
    Nat.lt_div_mul_add positive
  unfold pageCount
  rw [Nat.add_mul, Nat.one_mul]
  omega

theorem mul_lt_length (positive : 1 ≤ perPage) (visited : 1 ≤ number)
    (inner : number < pageCount rows perPage) : number * perPage < rows.length := by
  have below : number ≤ (rows.length - 1) / perPage := Nat.le_of_lt_succ inner
  have scaled : number * perPage ≤ rows.length - 1 := (Nat.le_div_iff_mul_le positive).mp below
  have filled : 1 ≤ number * perPage := Nat.mul_pos visited positive
  omega

theorem number_succ (number perPage : Nat) : PageRequest.number ⟨number + 1, perPage⟩ = number + 1 :=
  Nat.max_eq_left (Nat.le_add_left 1 number)

/-- As many rows stand before a page as fit on the pages before it. -/
theorem offset_succ (positive : 1 ≤ perPage) (countable : rows.length ≤ maxCount)
    (inside : number < pageCount rows perPage) :
    PageRequest.offset ⟨number + 1, perPage⟩ = number * perPage := by
  have small : number * perPage ≤ maxCount := by
    cases number with
    | zero => omega
    | succ former => exact (Nat.le_of_lt (mul_lt_length positive (by omega) inside)).trans countable
  unfold PageRequest.offset
  rw [number_succ, Nat.add_sub_cancel]
  exact Nat.min_eq_left small

/-- A page that is not the last one is followed by the next one. -/
theorem next_pageOf (positive : 1 ≤ perPage) (countable : rows.length ≤ maxCount)
    (inside : number < pageCount rows perPage) :
    (pageOf rows perPage (number + 1)).next =
      if number + 1 < pageCount rows perPage then some (number + 2) else none := by
  have before := offset_succ positive countable inside
  have following : (number + 1) * perPage = number * perPage + perPage := Nat.succ_mul number perPage
  unfold pageOf
  simp only [before, List.length_take, List.length_drop]
  by_cases inner : number + 1 < pageCount rows perPage
  · have remaining := mul_lt_length positive (by omega) inner
    have numbered : number + 1 ≤ (number + 1) * perPage := Nat.le_mul_of_pos_right _ positive
    rw [if_pos inner, if_pos (by omega), number_succ]
  · have last : pageCount rows perPage = number + 1 := by omega
    have reached : rows.length ≤ pageCount rows perPage * perPage := length_le_pageCount_mul positive
    rw [last] at reached
    have begun : number * perPage ≤ rows.length := by
      cases number with
      | zero => omega
      | succ former => exact Nat.le_of_lt (mul_lt_length positive (by omega) inside)
    rw [if_neg inner, if_neg (by omega)]

/-- **No number runs out on the pages of a list**: each of them is made. -/
theorem ofTotal_pageOf (positive : 1 ≤ perPage) (countable : rows.length ≤ maxCount) (number : Nat) :
    let request : PageRequest := ⟨number, perPage⟩
    Page.ofTotal ((rows.drop request.offset).take perPage) rows.length request =
      .ok (pageOf rows perPage number) := by
  intro request
  have ends : ((rows.drop request.offset).take perPage).length =
      min perPage (rows.length - request.offset) := by
    rw [List.length_take, List.length_drop]
  have shape : request.offset = min ((request.number - 1) * perPage) maxCount := rfl
  have scaled : request.number - 1 ≤ (request.number - 1) * perPage := Nat.le_mul_of_pos_right _ positive
  have next : request.next (min (request.offset + ((rows.drop request.offset).take perPage).length)
      maxCount) rows.length = .ok (if request.offset + ((rows.drop request.offset).take perPage).length <
        rows.length then some (request.number + 1) else none) := by
    unfold PageRequest.next
    by_cases remain : request.offset + ((rows.drop request.offset).take perPage).length < rows.length
    · have below : request.number < maxCount := by omega
      rw [if_pos (by omega), PageRequest.following, if_pos below, if_pos remain]
      rfl
    · rw [if_neg (by omega), if_neg remain]
  unfold Page.ofTotal
  rw [next]
  rfl

/-- **The pages of a list show it whole.** -/
theorem flatMap_visit (positive : 1 ≤ perPage) (countable : rows.length ≤ maxCount) :
    ((List.range' 1 (pageCount rows perPage)).map (visit rows perPage)).flatMap (·.2.items) = rows := by
  have first (count : Nat) (inside : count ≤ pageCount rows perPage) :
      ((List.range' 1 count).map (visit rows perPage)).flatMap (·.2.items) =
        rows.take (count * perPage) := by
    induction count with
    | zero => simp
    | succ count hypothesis =>
      have before := offset_succ positive countable inside
      rw [List.range'_concat, Nat.one_mul, List.map_append, List.flatMap_append, hypothesis (by omega),
        Nat.succ_mul, List.take_add, Nat.add_comm 1 count]
      simp [visit, pageOf, before]
  rw [first _ le_rfl, List.take_of_length_le (length_le_pageCount_mul positive)]

variable {shown : Nat → Page α → Prop}

/-- The walk on from a page to the last one. -/
theorem trail_next (positive : 1 ≤ perPage) (countable : rows.length ≤ maxCount)
    (shows : ∀ number, shown number (pageOf rows perPage number)) {others : Nat}
    (last : number + others + 1 = pageCount rows perPage) :
    Trail shown Page.next (number + 1)
      ((List.range' (number + 1) (others + 1)).map (visit rows perPage)) := by
  induction others generalizing number with
  | zero =>
    refine .last (shows _) ?_
    rw [next_pageOf positive countable (by omega), if_neg (by omega)]
  | succ others hypothesis =>
    rw [List.range'_succ, List.map_cons]
    refine .step (shows _) ?_ (hypothesis (by omega))
    rw [next_pageOf positive countable (by omega), if_pos (by omega)]

/-- The walk back from a page to the first one. -/
theorem trail_previous (shows : ∀ number, shown number (pageOf rows perPage number)) (others : Nat) :
    Trail shown Page.previous (others + 1)
      ((List.range' 1 (others + 1)).map (visit rows perPage)).reverse := by
  induction others with
  | zero => exact .last (shows 1) rfl
  | succ others hypothesis =>
    rw [List.range'_concat, List.map_append, List.reverse_append, Nat.one_mul, Nat.add_comm 1]
    refine .step (shows _) ?_ hypothesis
    simp [pageOf, PageRequest.number]

end Lists

/-! ### The pages of a query -/

section Queries

variable {scope : Scope} {store : Store} {world : World Server} {query : Query} {validator : Validator}
  {rows : List Document}

/-- Without relationships, a query has all its rows if it has those within its window. -/
theorem evaluate_get_unwindowed (unrelated : query.loads.isEmpty = true)
    (gets : ((Connection.mk engine scope validator).get query).evaluate store.reply = .ok rows) :
    ∃ all, ((Connection.mk engine scope validator).get query.unwindowed).evaluate store.reply =
      .ok all := by
  obtain ⟨table, base, bound, selects, _⟩ := evaluate_get_ok.mp gets
  have alone : query.unwindowed.loads = [] := List.isEmpty_iff.mp unrelated
  cases whole : Program.readable [] ((selectRows scope query.unwindowed).evaluate store.reply) with
  | ok all =>
    refine ⟨all, evaluate_get_ok.mpr ⟨table, all, bound, whole, ?_⟩⟩
    rw [alone]
    exact List.forall₂_same.mpr fun row _ => rfl
  | error error =>
    have kept : Program.readable [] ((selectRows scope query).evaluate store.reply) = _ :=
      readable_selectRows query
    rw [selects, whole] at kept
    cases kept

/-- **The count of a query** whose rows can be made. -/
theorem evaluate_count_ok (visible : world.state.visible? scope = some store)
    (distinct : store.hasDistinctKeys = true) (apart : query.groups = [] ∨ query.distinct = [])
    (gets : ((Connection.mk engine scope validator).get query.unwindowed).evaluate store.reply =
      .ok rows) :
    ((Connection.mk engine scope validator).count query).evaluate store.reply = .ok rows.length := by
  obtain ⟨table, base, bound, selects, loaded⟩ := evaluate_get_ok.mp gets
  have lengths := Program.readable_map_congr [] (map_unordered visible distinct
    fun rows others perm => length_selected_of_perm apart perm)
  have shown : query.requireTable = .ok table := bound
  unfold Connection.count
  rw [Program.evaluate_bind, Program.evaluate_ofExcept, shown]
  show (engine.count scope query).evaluate store.reply = _
  rw [evaluate_count, ← lengths, selects, ← loaded.length_eq]
  rfl

/-- **The pages of a query** whose rows can be made. -/
theorem evaluate_paginate (visible : world.state.visible? scope = some store)
    (distinct : store.hasDistinctKeys = true) (apart : query.groups = [] ∨ query.distinct = [])
    (gets : ((Connection.mk engine scope validator).get query.unwindowed).evaluate store.reply =
      .ok rows) {perPage : Nat} (positive : 1 ≤ perPage) (countable : rows.length ≤ maxCount)
    (number : Nat) :
    ((Connection.mk engine scope validator).paginate query ⟨number, perPage⟩).evaluate store.reply =
      .ok (pageOf rows perPage number) := by
  let request : PageRequest := ⟨number, perPage⟩
  let within : Query := (query.withOffset request.offset).withLimit request.perPage
  have same : within.unwindowed = query.unwindowed := rfl
  have items : ((Connection.mk engine scope validator).get within).evaluate store.reply =
      .ok (within.window rows) := evaluate_get_windowed (same ▸ gets)
  unfold Connection.paginate
  rw [Program.evaluate_bind, evaluate_count_ok visible distinct apart gets]
  show ((Connection.mk engine scope validator).get within >>= _ : Program Native.interface _).evaluate _ = _
  rw [Program.evaluate_bind, items, ← ofTotal_pageOf positive countable]
  exact Program.evaluate_ofExcept _

/-- Whether a connection shows a page of a query under a number, changing nothing. -/
def ShowsPage (connection : Connection Native.interface) (query : Query) (perPage : Nat)
    (world : World Server) (number : Nat) (page : Page Document) : Prop :=
  (connection.paginate query ⟨number, perPage⟩).run Server.driver world =
    (.finished (.ok page), world)

/-- **Walking through the pages of a query shows its rows once and in order**, and there is a way back
along the same pages. The query has to have its rows: within its window if they come without
relationships, all of them otherwise. Rows that are both grouped and freed of repetitions may not be as
many as they are counted. -/
theorem pages_of_query (visible : world.state.visible? scope = some store)
    (distinct : store.hasDistinctKeys = true) (apart : query.groups = [] ∨ query.distinct = [])
    {perPage : Nat} (positive : 1 ≤ perPage) {results : List Document}
    (succeeds : ((Connection.mk engine scope validator).get
        (if query.loads.isEmpty then query else query.unwindowed)).run Server.driver world =
      (.finished (.ok results), world)) :
    ∃ rows : List Document,
      ((Connection.mk engine scope validator).get query.unwindowed).run Server.driver world =
        (.finished (.ok rows), world) ∧
      (rows.length ≤ maxCount → ∃ visits : List (Nat × Page Document),
        Trail (ShowsPage ⟨engine, scope, validator⟩ query perPage world) Page.next 1 visits ∧
        Trail (ShowsPage ⟨engine, scope, validator⟩ query perPage world) Page.previous
          visits.length visits.reverse ∧
        visits.flatMap (·.2.items) = rows ∧
        ∀ visit ∈ visits, visit.2.count = rows.length) := by
  have evaluated : ((Connection.mk engine scope validator).get
      (if query.loads.isEmpty then query else query.unwindowed)).evaluate store.reply =
      .ok results := by
    rw [run_of_reads visible (reads_get _)] at succeeds
    exact Outcome.finished.inj (congrArg Prod.fst succeeds)
  obtain ⟨rows, gets⟩ : ∃ rows,
      ((Connection.mk engine scope validator).get query.unwindowed).evaluate store.reply =
        .ok rows := by
    by_cases unrelated : query.loads.isEmpty = true
    · rw [if_pos unrelated] at evaluated
      exact evaluate_get_unwindowed unrelated evaluated
    · rw [if_neg unrelated] at evaluated
      exact ⟨results, evaluated⟩
  refine ⟨rows, ?_, fun countable => ?_⟩
  · rw [run_of_reads visible (reads_get _), gets]
  have shows (number : Nat) : ShowsPage ⟨engine, scope, validator⟩ query perPage world number
      (pageOf rows perPage number) := by
    unfold ShowsPage
    rw [run_of_reads visible (reads_paginate query _),
      evaluate_paginate visible distinct apart gets positive countable number]
  refine ⟨(List.range' 1 (pageCount rows perPage)).map (visit rows perPage), ?_, ?_, ?_, ?_⟩
  · exact trail_next positive countable shows (by rw [Nat.zero_add]; rfl)
  · rw [List.length_map, List.length_range']
    exact trail_previous shows _
  · exact flatMap_visit positive countable
  · intro shown member
    obtain ⟨number, _, rfl⟩ := List.mem_map.mp member
    rfl

end Queries

/-- Two people, one of whom belongs to a club. -/
def members : Store :=
  [("members",
    [[("_id", .objectId ⟨1⟩), ("name", .string "Ann")],
      [("_id", .objectId ⟨2⟩), ("name", .string "Bob"), ("club", .int32 7)]]),
    ("clubs", [[("_id", .objectId ⟨3⟩), ("number", .int32 7)]])]

/-- The first member with the club, which is looked for in the given table. -/
def firstMember (clubs : String) : Query :=
  { Query.ofTable "members" with
    limit := some 1, loads := [⟨"club", .belongsTo "club" "number" clubs⟩] }

/-- A member to a page. -/
theorem pages_of_query_members :
    ∃ visits : List (Nat × Page Document),
      Trail (ShowsPage ⟨engine, .connection, .raising⟩ (firstMember "clubs") 1
        ⟨⟨0, 0⟩, ⟨members, none, 0⟩⟩) Page.next 1 visits ∧
      visits.flatMap (·.2.items) =
        [[("id", .string "000000000000000000000001"), ("name", .string "Ann"), ("club", .null)],
          [("id", .string "000000000000000000000002"), ("name", .string "Bob"),
            ("club", .document
              [("id", .string "000000000000000000000003"), ("number", .int32 7)])]] := by
  have gets : ((Connection.mk engine .connection .raising).get
      (firstMember "clubs").unwindowed).run Server.driver ⟨⟨0, 0⟩, ⟨members, none, 0⟩⟩ =
      (.finished (.ok
        [[("id", .string "000000000000000000000001"), ("name", .string "Ann"), ("club", .null)],
          [("id", .string "000000000000000000000002"), ("name", .string "Bob"),
            ("club", .document
              [("id", .string "000000000000000000000003"), ("number", .int32 7)])]]),
        ⟨⟨0, 0⟩, ⟨members, none, 0⟩⟩) := by
    rfl
  obtain ⟨rows, again, walks⟩ := @pages_of_query .connection members
    ⟨⟨0, 0⟩, ⟨members, none, 0⟩⟩ (firstMember "clubs") .raising rfl (by decide) (.inl rfl) 1 le_rfl _ gets
  rw [gets] at again
  obtain rfl := Except.ok.inj (Outcome.finished.inj (congrArg Prod.fst again))
  obtain ⟨visits, onward, _, whole, _⟩ := walks (by decide)
  exact ⟨visits, onward, whole⟩

/-- The club of the second member is looked for nowhere. The first member alone is shown, and links to a
page that is not. -/
theorem firstMember_without_second :
    ((Connection.mk engine .connection .raising).get (firstMember "")).run
        Server.driver ⟨⟨0, 0⟩, ⟨members, none, 0⟩⟩ =
      (.finished (.ok
        [[("id", .string "000000000000000000000001"), ("name", .string "Ann"), ("club", .null)]]),
        ⟨⟨0, 0⟩, ⟨members, none, 0⟩⟩) ∧
    ((Connection.mk engine .connection .raising).get (firstMember "").unwindowed).run
        Server.driver ⟨⟨0, 0⟩, ⟨members, none, 0⟩⟩ =
      (.finished (.error .missingTable), ⟨⟨0, 0⟩, ⟨members, none, 0⟩⟩) ∧
    ((Connection.mk engine .connection .raising).paginate (firstMember "") ⟨1, 1⟩).run
        Server.driver ⟨⟨0, 0⟩, ⟨members, none, 0⟩⟩ =
      (.finished (.ok
        { items := [[("id", .string "000000000000000000000001"), ("name", .string "Ann"),
            ("club", .null)]]
          count := 2, next := some 2, previous := none }), ⟨⟨0, 0⟩, ⟨members, none, 0⟩⟩) ∧
    ((Connection.mk engine .connection .raising).paginate (firstMember "") ⟨2, 1⟩).run
        Server.driver ⟨⟨0, 0⟩, ⟨members, none, 0⟩⟩ =
      (.finished (.error .missingTable), ⟨⟨0, 0⟩, ⟨members, none, 0⟩⟩) := by
  refine ⟨?_, ?_, ?_, ?_⟩
  all_goals rfl

end Polystore
