/-
**Transactions of the shared store are serializable.**

* `Moves`: everything that a step can do to a server (`moves_take`);
* `Books`: how the ledger of a run and the server agree. A transaction that is open has the last block,
  and its staged collections are what the calls of that block leave of the published ones;
* `books_enter`: no step breaks this;
* `serializable`: after every run, the published collections are what the calls on the connection and
  the committed transactions leave, one after another and in the order in which the lock was taken.
-/

import Polystore.Proofs.Memory.Ledger
import Polystore.Proofs.Program.Run

namespace Polystore.Memory

open Native (Call)

/-! ### What a step can do -/

/-- **Everything that a step can do**, with what the client sees of it. -/
inductive Moves : Server → Event → Server → Prop
  | direct {published : Store} {begun : Nat} {call : Call} (other : call ≠ .begin) :
    Moves ⟨published, none, begun⟩ (.answered .connection ⟨call, (published.answer call).1⟩)
      ⟨(published.answer call).2, none, begun⟩
  | begin {published : Store} {begun : Nat} :
    Moves ⟨published, none, begun⟩ (.answered .connection ⟨.begin, .ok begun⟩)
      ⟨published, some ⟨begun, published⟩, begun + 1⟩
  | wait {server : Server} {call : Call} (held : server.transaction.isSome = true) :
    Moves server (.waited .connection call) server
  | nested {server : Server} {number : Nat} {error : DatabaseError} :
    Moves server (.answered (.transaction number) ⟨.begin, .error error⟩) server
  | refused {server : Server} {number : Nat} {call : Call} (other : call ≠ .begin)
    (closed : server.staged? number = none) :
    Moves server (.answered (.transaction number) ⟨call, .error Store.finishedTransaction⟩) server
  | staged {published staged : Store} {begun number : Nat} {call : Call} (data : isData call = true) :
    Moves ⟨published, some ⟨number, staged⟩, begun⟩
      (.answered (.transaction number) ⟨call, (staged.answer call).1⟩)
      ⟨published, some ⟨number, (staged.answer call).2⟩, begun⟩
  | commit {published staged : Store} {begun number : Nat} :
    Moves ⟨published, some ⟨number, staged⟩, begun⟩
      (.answered (.transaction number) ⟨.commit, .ok ()⟩) ⟨staged, none, begun⟩
  | rollback {published staged : Store} {begun number : Nat} :
    Moves ⟨published, some ⟨number, staged⟩, begun⟩
      (.answered (.transaction number) ⟨.rollback, .ok ()⟩) ⟨published, none, begun⟩
  | drop {published staged : Store} {begun number : Nat} :
    Moves ⟨published, some ⟨number, staged⟩, begun⟩ (.dropped number) ⟨published, none, begun⟩
  | dropped {server : Server} {number : Nat} (closed : server.staged? number = none) :
    Moves server (.dropped number) server

section Moving

variable {server next : Server} {published staged : Store} {begun number : Nat} {scope : Scope}
  {call : Call}

/-- A step whose call is answered. -/
theorem take_of_given {result : Except DatabaseError (Native.interface.Reply call)}
    (answered : server.answer scope call = (.given result, next)) :
    server.take (.call scope call) = (.answered scope ⟨call, result⟩, next) := by
  simp only [Server.take, answered]

/-- A step whose call waits. -/
theorem take_of_waiting (waits : server.answer scope call = (.waiting, next)) :
    server.take (.call scope call) = (.waited scope call, next) := by
  simp only [Server.take, waits]

theorem staged?_self :
    Server.staged? number ⟨published, some ⟨number, staged⟩, begun⟩ = some staged := by
  unfold Server.staged?
  rw [Option.filter_some, beq_self_eq_true]
  rfl

/-- A server with an open transaction. -/
theorem eq_of_staged? (holds : server.staged? number = some staged) :
    server = ⟨server.published, some ⟨number, staged⟩, server.begun⟩ := by
  have holder := Server.transaction_of_staged? holds
  obtain ⟨published, transaction, begun⟩ := server
  obtain rfl : transaction = some ⟨number, staged⟩ := holder
  rfl

/-- Giving up a transaction that is not open changes nothing. -/
theorem discard_of_closed (closed : server.staged? number = none) : server.discard number = server := by
  obtain ⟨published, transaction, begun⟩ := server
  cases transaction with
  | none => rfl
  | some transaction =>
    obtain ⟨other, content⟩ := transaction
    have different : other ≠ number := by
      rintro rfl
      rw [staged?_self] at closed
      cases closed
    unfold Server.discard
    rw [Option.filter_some, bne_iff_ne.mpr different, if_pos rfl]

/-- Giving up the open transaction discards its collections. -/
theorem discard_self :
    Server.discard number ⟨published, some ⟨number, staged⟩, begun⟩ = ⟨published, none, begun⟩ := by
  unfold Server.discard
  rw [Option.filter_some, bne_self_eq_false, if_neg Bool.false_ne_true]

/-- **A call on a transaction that is not open fails and changes nothing.** -/
theorem answer_of_closed (closed : server.staged? number = none) (other : call ≠ .begin) :
    server.answer (.transaction number) call =
      (.given (.error Store.finishedTransaction), server) := by
  cases call <;> first | exact absurd rfl other | simp only [Server.answer, closed]

/-- A call on the connection waits while a transaction is open. -/
theorem answer_of_held (held : server.transaction.isSome = true) :
    server.answer .connection call = (.waiting, server) := by
  cases call <;> simp only [Server.answer, held, if_true]

theorem answer_direct (other : call ≠ .begin) :
    Server.answer ⟨published, none, begun⟩ .connection call =
      (.given (published.answer call).1, ⟨(published.answer call).2, none, begun⟩) := by
  cases call <;> first | exact absurd rfl other | rfl

theorem answer_staged (data : isData call = true) :
    Server.answer ⟨published, some ⟨number, staged⟩, begun⟩ (.transaction number) call =
      (.given (staged.answer call).1, ⟨published, some ⟨number, (staged.answer call).2⟩, begun⟩) := by
  cases call <;>
    first | exact absurd data Bool.false_ne_true | (simp only [Server.answer, staged?_self]; rfl)

theorem answer_commit :
    Server.answer ⟨published, some ⟨number, staged⟩, begun⟩ (.transaction number) .commit =
      (.given (.ok ()), ⟨staged, none, begun⟩) := by
  simp only [Server.answer, staged?_self]
  rfl

theorem answer_rollback :
    Server.answer ⟨published, some ⟨number, staged⟩, begun⟩ (.transaction number) .rollback =
      (.given (.ok ()), ⟨published, none, begun⟩) := by
  simp only [Server.answer, staged?_self]
  rfl

/-- Calls on an open transaction. -/
theorem moves_of_open (other : call ≠ .begin) :
    Moves ⟨published, some ⟨number, staged⟩, begun⟩
      (Server.take ⟨published, some ⟨number, staged⟩, begun⟩ (.call (.transaction number) call)).1
      (Server.take ⟨published, some ⟨number, staged⟩, begun⟩ (.call (.transaction number) call)).2 := by
  by_cases data : isData call = true
  · rw [take_of_given (answer_staged data)]
    exact .staged data
  · cases call with
    | begin => exact absurd rfl other
    | commit =>
      rw [take_of_given answer_commit]
      exact .commit
    | rollback =>
      rw [take_of_given answer_rollback]
      exact .rollback
    | _ => exact absurd rfl data

/-- Calls on the connection. -/
theorem moves_of_connection (server : Server) (call : Call) :
    Moves server (server.take (.call .connection call)).1 (server.take (.call .connection call)).2 := by
  cases held : server.transaction.isSome with
  | true =>
    rw [take_of_waiting (answer_of_held held)]
    exact .wait held
  | false =>
    obtain ⟨published, transaction, begun⟩ := server
    have free : transaction.isNone = true := Option.isSome_eq_false_iff.mp held
    obtain rfl := Option.isNone_iff_eq_none.mp free
    by_cases begins : call = .begin
    · subst begins
      exact .begin
    · rw [take_of_given (answer_direct begins)]
      exact .direct begins

/-- **A step is one of the moves.** -/
theorem moves_take (server : Server) (step : Step) :
    Moves server (server.take step).1 (server.take step).2 := by
  cases step with
  | drop number =>
    show Moves server (.dropped number) (server.discard number)
    cases held : server.staged? number with
    | none =>
      rw [discard_of_closed held]
      exact .dropped held
    | some staged =>
      rw [eq_of_staged? held, discard_self]
      exact .drop
  | call scope call =>
    cases scope with
    | connection => exact moves_of_connection server call
    | transaction number =>
      by_cases begins : call = .begin
      · subst begins
        exact .nested
      · cases held : server.staged? number with
        | none =>
          rw [take_of_given (answer_of_closed held begins)]
          exact .refused begins held
        | some staged =>
          rw [eq_of_staged? held]
          exact moves_of_open begins

end Moving

/-! ### What an event does to the ledger -/

section Entering

variable {ledger : Ledger} {number : Nat} {call : Call}
  {result : Except DatabaseError (Native.interface.Reply call)}

theorem enter_direct (ledger : Ledger) (other : call ≠ .begin) :
    ledger.enter (.answered .connection ⟨call, result⟩) =
      ledger ++ [⟨none, [⟨call, result⟩], .kept⟩] := by
  cases call <;> first | exact absurd rfl other | rfl

theorem enter_data (ledger : Ledger) (data : isData call = true) :
    ledger.enter (.answered (.transaction number) ⟨call, result⟩) =
      ledger.map (Block.recorded number ⟨call, result⟩) := by
  cases call <;> first | exact absurd data Bool.false_ne_true | rfl

theorem enter_refused (ledger : Ledger) (other : call ≠ .begin) (error : DatabaseError) :
    ledger.enter (.answered (.transaction number) ⟨call, .error error⟩) =
      ledger.map (Block.recorded number ⟨call, .error error⟩) := by
  cases call <;> first | exact absurd rfl other | rfl

theorem recorded_of_closed {block : Block} (closed : block.isOpen number = false) (entry : Entry) :
    block.recorded number entry = block := by
  unfold Block.recorded
  rw [closed, if_neg Bool.false_ne_true]

theorem settled_of_closed {block : Block} (closed : block.isOpen number = false) (fate : Fate) :
    block.settled number fate = block := by
  unfold Block.settled
  rw [closed, if_neg Bool.false_ne_true]

theorem isOpen_self (number : Nat) (entries : List Entry) :
    Block.isOpen number ⟨some number, entries, .pending⟩ = true := by
  unfold Block.isOpen
  rw [beq_self_eq_true, beq_self_eq_true]
  rfl

theorem recorded_self (number : Nat) (entries : List Entry) (entry : Entry) :
    Block.recorded number entry ⟨some number, entries, .pending⟩ =
      ⟨some number, entries ++ [entry], .pending⟩ := by
  unfold Block.recorded
  rw [isOpen_self, if_pos rfl]

theorem settled_self (number : Nat) (entries : List Entry) (fate : Fate) :
    Block.settled number fate ⟨some number, entries, .pending⟩ = ⟨some number, entries, fate⟩ := by
  unfold Block.settled
  rw [isOpen_self, if_pos rfl]

/-- What changes nothing but open blocks leaves a ledger without them alone. -/
theorem map_of_closed {change : Block → Block}
    (same : ∀ block, block.isOpen number = false → change block = block)
    (closed : ∀ block ∈ ledger, block.isOpen number = false) : ledger.map change = ledger := by
  have each : ledger.map change = ledger.map id :=
    List.map_congr_left fun block member => same block (closed block member)
  rw [each, List.map_id]

end Entering

/-! ### The ledger and the server -/

/-- Whether a block has ended and is that of no later transaction. -/
def Block.EndedBefore (bound : Nat) (block : Block) : Prop :=
  block.fate ≠ .pending ∧ ∀ number, block.owner = some number → number < bound

theorem Block.EndedBefore.mono {bound later : Nat} {block : Block} (ended : block.EndedBefore bound)
    (less : bound ≤ later) : block.EndedBefore later :=
  ⟨ended.1, fun number owned => Nat.lt_of_lt_of_le (ended.2 number owned) less⟩

theorem Block.EndedBefore.isOpen {bound number : Nat} {block : Block}
    (ended : block.EndedBefore bound) : block.isOpen number = false := by
  unfold Block.isOpen
  rw [beq_eq_false_iff_ne.mpr ended.1, Bool.and_false]

/-- **How the ledger of a run and the server agree.** -/
inductive Books (start : Store) : Ledger → Server → Prop
  | free {ledger : Ledger} {published : Store} {begun : Nat}
    (serial : Serial start ledger published) (ended : ∀ block ∈ ledger, block.EndedBefore begun) :
    Books start ledger ⟨published, none, begun⟩
  | held {ledger : Ledger} {published staged : Store} {number : Nat} {entries : List Entry}
    (serial : Serial start ledger published) (ended : ∀ block ∈ ledger, block.EndedBefore number)
    (own : published.serve (entries.map Sigma.fst) = (entries, staged)) :
    Books start (ledger ++ [⟨some number, entries, .pending⟩])
      ⟨published, some ⟨number, staged⟩, number + 1⟩

section Agreement

variable {start : Store} {ledger : Ledger} {server next : Server} {event : Event}

/-- The blocks of a server are serial. -/
theorem Books.serial (books : Books start ledger server) : Serial start ledger server.published := by
  cases books with
  | free serial ended => exact serial
  | held serial ended own => exact serial.unkept (by decide) own

/-- A transaction that is not open has no open block. -/
theorem Books.isOpen_of_closed (books : Books start ledger server) {number : Nat}
    (closed : server.staged? number = none) : ∀ block ∈ ledger, block.isOpen number = false := by
  intro block member
  cases books with
  | free serial ended => exact (ended block member).isOpen
  | @held earlier published staged holder entries serial ended own =>
    rcases List.mem_append.mp member with before | last
    · exact (ended block before).isOpen
    · have different : holder ≠ number := by
        rintro rfl
        rw [staged?_self] at closed
        cases closed
      obtain rfl := List.mem_singleton.mp last
      unfold Block.isOpen
      rw [beq_eq_false_iff_ne.mpr fun same => different (Option.some.inj same), Bool.false_and]

/-- A transaction with a block that has ended is not open. -/
theorem Books.closed_of_ended (books : Books start ledger server) {block : Block} {number : Nat}
    (member : block ∈ ledger) (owned : block.owner = some number) (ended : block.fate ≠ .pending) :
    server.staged? number = none := by
  cases books with
  | free serial before => rfl
  | @held earlier published staged holder entries serial before own =>
    rcases List.mem_append.mp member with inside | last
    · have different : holder ≠ number := Nat.ne_of_gt ((before block inside).2 number owned)
      unfold Server.staged?
      rw [Option.filter_some, beq_eq_false_iff_ne.mpr different, if_neg Bool.false_ne_true]
      rfl
    · obtain rfl := List.mem_singleton.mp last
      exact absurd rfl ended

/-- The end of the open transaction ends its block. -/
theorem map_settled_concat {number : Nat} {entries : List Entry}
    (ended : ∀ block ∈ ledger, block.EndedBefore number) (fate : Fate) :
    (ledger ++ [⟨some number, entries, .pending⟩] : Ledger).map (Block.settled number fate) =
      ledger ++ [⟨some number, entries, fate⟩] := by
  rw [List.map_append, map_of_closed (fun block closed => settled_of_closed closed fate)
    fun block member => (ended block member).isOpen]
  exact congrArg _ (congrArg (· :: []) (settled_self number entries fate))

/-- Blocks that have ended, with one more. -/
theorem ended_concat {number : Nat} {entries : List Entry} {fate : Fate}
    (ended : ∀ block ∈ ledger, block.EndedBefore number) (final : fate ≠ .pending) :
    ∀ block ∈ (ledger ++ [⟨some number, entries, fate⟩] : Ledger), block.EndedBefore (number + 1) := by
  intro block member
  rcases List.mem_append.mp member with before | last
  · exact (ended block before).mono (Nat.le_succ number)
  · obtain rfl := List.mem_singleton.mp last
    refine ⟨final, fun other owned => ?_⟩
    rw [← Option.some.inj owned]
    exact Nat.lt_succ_self number

/-- **No step breaks the agreement of ledger and server.** -/
theorem books_enter (books : Books start ledger server) (move : Moves server event next) :
    Books start (ledger.enter event) next := by
  cases move with
  | @direct published begun call other =>
    cases books with
    | free serial ended =>
      rw [enter_direct ledger other]
      refine .free (serial.kept (serve_singleton published call)) fun block member => ?_
      rcases List.mem_append.mp member with before | last
      · exact ended block before
      · obtain rfl := List.mem_singleton.mp last
        refine ⟨show Fate.kept ≠ .pending by decide, fun number owned => ?_⟩
        cases owned
  | begin =>
    cases books with
    | free serial ended => exact .held serial ended rfl
  | wait held => exact books
  | nested => exact books
  | refused other closed =>
    rw [enter_refused ledger other,
      map_of_closed (fun block closed => recorded_of_closed closed _) (books.isOpen_of_closed closed)]
    exact books
  | @staged published staged begun number call data =>
    cases books with
    | @held earlier _ _ _ entries serial ended own =>
      have longer : (earlier ++ [⟨some number, entries, .pending⟩] : Ledger).map
            (Block.recorded number ⟨call, (staged.answer call).1⟩) =
          earlier ++ [⟨some number, entries ++ [⟨call, (staged.answer call).1⟩], .pending⟩] := by
        rw [List.map_append, map_of_closed (fun block closed => recorded_of_closed closed _)
          fun block member => (ended block member).isOpen]
        exact congrArg _ (congrArg (· :: []) (recorded_self number entries _))
      rw [enter_data _ data, longer]
      exact .held serial ended (serve_concat own call)
  | commit =>
    cases books with
    | held serial ended own =>
      show Books start (List.map (Block.settled _ .kept) _) _
      rw [map_settled_concat ended]
      exact .free (serial.kept own) (ended_concat ended (by decide))
  | rollback =>
    cases books with
    | held serial ended own =>
      show Books start (List.map (Block.settled _ .discarded) _) _
      rw [map_settled_concat ended]
      exact .free (serial.unkept (by decide) own) (ended_concat ended (by decide))
  | drop =>
    cases books with
    | held serial ended own =>
      show Books start (List.map (Block.settled _ .discarded) _) _
      rw [map_settled_concat ended]
      exact .free (serial.unkept (by decide) own) (ended_concat ended (by decide))
  | dropped closed =>
    show Books start (List.map (Block.settled _ .discarded) _) _
    rw [map_of_closed (fun block closed => settled_of_closed closed _) (books.isOpen_of_closed closed)]
    exact books

end Agreement

/-! ### Nothing is left out -/

section Accounting

variable {start : Store} {ledger : Ledger} {server next : Server} {event : Event} {scope : Scope}
  {entry : Entry}

/-- A block stays with its owner, its entries, and its fate once it has ended. -/
def Block.Remains (earlier later : Block) : Prop :=
  later.owner = earlier.owner ∧ earlier.entries ⊆ later.entries ∧
    (earlier.fate ≠ .pending → later.fate = earlier.fate)

theorem Block.Remains.refl (block : Block) : block.Remains block :=
  ⟨rfl, List.Subset.refl _, fun _ => rfl⟩

theorem remains_recorded (number : Nat) (entry : Entry) (block : Block) :
    block.Remains (block.recorded number entry) := by
  unfold Block.recorded
  by_cases holds : block.isOpen number = true
  · rw [if_pos holds]
    exact ⟨rfl, List.subset_append_left _ _, fun _ => rfl⟩
  · rw [if_neg holds]
    exact .refl block

theorem remains_settled (number : Nat) (fate : Fate) (block : Block) :
    block.Remains (block.settled number fate) := by
  unfold Block.settled
  by_cases holds : block.isOpen number = true
  · rw [if_pos holds]
    refine ⟨rfl, List.Subset.refl _, fun ended => absurd ?_ ended⟩
    unfold Block.isOpen at holds
    exact eq_of_beq (Bool.and_eq_true_iff.mp holds).2
  · rw [if_neg holds]
    exact .refl block

/-- No event removes a block. -/
theorem exists_of_enter (move : Moves server event next) {block : Block} (member : block ∈ ledger) :
    ∃ later ∈ ledger.enter event, block.Remains later := by
  cases move with
  | direct other =>
    rw [enter_direct ledger other]
    exact ⟨block, List.mem_append_left _ member, .refl block⟩
  | begin => exact ⟨block, List.mem_append_left _ member, .refl block⟩
  | wait held => exact ⟨block, member, .refl block⟩
  | nested => exact ⟨block, member, .refl block⟩
  | refused other closed =>
    rw [enter_refused ledger other]
    exact ⟨_, List.mem_map_of_mem member, remains_recorded _ _ block⟩
  | staged data =>
    rw [enter_data ledger data]
    exact ⟨_, List.mem_map_of_mem member, remains_recorded _ _ block⟩
  | commit => exact ⟨_, List.mem_map_of_mem member, remains_settled _ _ block⟩
  | rollback => exact ⟨_, List.mem_map_of_mem member, remains_settled _ _ block⟩
  | drop => exact ⟨_, List.mem_map_of_mem member, remains_settled _ _ block⟩
  | dropped closed => exact ⟨_, List.mem_map_of_mem member, remains_settled _ _ block⟩

/-- What a ledger accounts for it accounts for ever after. -/
theorem accounts_enter (move : Moves server event next) (accounts : ledger.Accounts scope entry) :
    (ledger.enter event).Accounts scope entry := by
  cases accounts with
  | ofData data member owned listed =>
    obtain ⟨later, inside, owner, entries, _⟩ := exists_of_enter move member
    exact .ofData data inside (owner.trans owned) (entries listed)
  | ofBegin member owned =>
    obtain ⟨later, inside, owner, _, _⟩ := exists_of_enter move member
    exact .ofBegin inside (owner.trans owned)
  | ofCommit member owned kept =>
    obtain ⟨later, inside, owner, _, fate⟩ := exists_of_enter move member
    exact .ofCommit inside (owner.trans owned) ((fate (by rw [kept]; decide)).trans kept)
  | ofRollback member owned discarded =>
    obtain ⟨later, inside, owner, _, fate⟩ := exists_of_enter move member
    exact .ofRollback inside (owner.trans owned) ((fate (by rw [discarded]; decide)).trans discarded)

/-- Collections only answer calls about collections. -/
theorem isData_of_served {store : Store} {call : Call}
    (served : Entry.Served ⟨call, (store.answer call).1⟩) : isData call = true := by
  rcases served with succeeded | ⟨data, _⟩
  · cases call <;> first | rfl | exact absurd succeeded Bool.false_ne_true
  · exact data

/-- A failure for want of an open transaction is nothing that was carried out. -/
theorem not_served_refused (call : Call) :
    ¬ Entry.Served ⟨call, .error Store.finishedTransaction⟩ := by
  rintro (succeeded | ⟨_, other⟩)
  · cases succeeded
  · exact other rfl

/-- A call that is carried out is accounted for. -/
theorem accounts_of_move (books : Books start ledger server) (move : Moves server event next)
    (answered : event = .answered scope entry) (served : entry.Served) :
    (ledger.enter event).Accounts scope entry := by
  cases move with
  | direct other =>
    cases answered
    rw [enter_direct ledger other]
    exact .ofData (isData_of_served served) (List.mem_append_right _ List.mem_cons_self) rfl
      List.mem_cons_self
  | begin =>
    cases answered
    exact .ofBegin (List.mem_append_right ledger List.mem_cons_self) rfl
  | wait held => cases answered
  | nested =>
    cases answered
    rcases served with succeeded | ⟨data, _⟩
    · cases succeeded
    · cases data
  | @refused _ number call other closed =>
    cases answered
    exact absurd served (not_served_refused call)
  | @staged published staged begun number call data =>
    cases answered
    cases books with
    | @held earlier _ _ _ entries serial ended own =>
      rw [enter_data _ data]
      refine .ofData data (List.mem_map_of_mem (List.mem_append_right earlier List.mem_cons_self)) ?_ ?_
      · rw [recorded_self]
        rfl
      · rw [recorded_self]
        exact List.mem_append_right entries List.mem_cons_self
  | commit =>
    cases answered
    cases books with
    | @held earlier _ _ number entries serial ended own =>
      refine .ofCommit (List.mem_map_of_mem (List.mem_append_right earlier List.mem_cons_self)) ?_ ?_
      · rw [settled_self]
      · rw [settled_self]
  | rollback =>
    cases answered
    cases books with
    | @held earlier _ _ number entries serial ended own =>
      refine .ofRollback (List.mem_map_of_mem (List.mem_append_right earlier List.mem_cons_self)) ?_ ?_
      · rw [settled_self]
      · rw [settled_self]
  | drop => cases answered
  | dropped closed => cases answered

end Accounting

/-! ### Runs -/

section Runs

variable {start : Store} {ledger : Ledger} {server : Server} {scope : Scope} {entry : Entry}

/-- **After every run the ledger and the server agree.** -/
theorem books_history (steps : List Step) (books : Books start ledger server) :
    Books start ((server.history steps).1.foldl Ledger.enter ledger) (server.history steps).2 := by
  induction steps generalizing ledger server with
  | nil => exact books
  | cons step rest hypothesis => exact hypothesis (books_enter books (moves_take server step))

theorem accounts_history (steps : List Step) (accounts : ledger.Accounts scope entry) :
    ((server.history steps).1.foldl Ledger.enter ledger).Accounts scope entry := by
  induction steps generalizing ledger server with
  | nil => exact accounts
  | cons step rest hypothesis => exact hypothesis (accounts_enter (moves_take server step) accounts)

/-- The ledger of a run accounts for every call that was carried out in it. -/
theorem accounts_of_history (steps : List Step) (books : Books start ledger server)
    (member : .answered scope entry ∈ (server.history steps).1) (served : entry.Served) :
    ((server.history steps).1.foldl Ledger.enter ledger).Accounts scope entry := by
  induction steps generalizing ledger server with
  | nil => cases member
  | cons step rest hypothesis =>
    rcases List.mem_cons.mp member with first | later
    · exact accounts_history rest
        (accounts_of_move books (moves_take server step) first.symm served)
    · exact hypothesis (books_enter books (moves_take server step)) later

/-- **Transactions are serializable.** After every run from collections that no transaction holds:

* the calls on the connection and in committed transactions, run one after another in the order in which
  the lock was taken, get the answers that the clients got and leave the published collections;
* the calls of every block, also of a transaction that is open or was given up, get theirs after the
  calls of the kept blocks before it;
* every call that was carried out is in the ledger;
* a call on a transaction that has ended fails and changes nothing. -/
theorem serializable (start : Store) (begun : Nat) (steps : List Step) :
    let run := Server.history steps ⟨start, none, begun⟩
    let ledger := Ledger.ofEvents run.1
    start.serve (ledger.published.map Sigma.fst) = (ledger.published, run.2.published) ∧
    (∀ (before : Ledger) (block : Block) (after : Ledger), ledger = before ++ block :: after →
      ((start.serve (before.published.map Sigma.fst)).2.serve (block.entries.map Sigma.fst)).1 =
        block.entries) ∧
    (∀ scope entry, .answered scope entry ∈ run.1 → entry.Served →
      ledger.Accounts scope entry) ∧
    ∀ block ∈ ledger, ∀ number, block.owner = some number → block.fate ≠ .pending → ∀ call,
      ∃ error, run.2.answer (.transaction number) call = (.given (.error error), run.2) := by
  have opening : Books start [] ⟨start, none, begun⟩ :=
    .free .nil fun block member => absurd member List.not_mem_nil
  have books := books_history steps opening
  refine ⟨books.serial.serve_published, fun before block after whole => ?_, ?_, ?_⟩
  · exact books.serial.serve_block whole
  · exact fun scope entry member served => accounts_of_history steps opening member served
  · intro block member number owned ended call
    by_cases begins : call = .begin
    · subst begins
      exact ⟨_, rfl⟩
    · exact ⟨_, answer_of_closed (books.closed_of_ended member owned ended) begins⟩

end Runs

/-- A client writes in a transaction while another one waits for it, and commits; the next transaction
is given up. -/
def twoClients : List Step :=
  [.call .connection (.insert "people" [[("_id", .int32 1)]]),
    .call .connection .begin,
    .call (.transaction 0) (.insert "people" [[("_id", .int32 2)]]),
    .call .connection (.find "people" ⟨[], none, none, none, none⟩),
    .call (.transaction 0) .commit,
    .call (.transaction 0) (.insert "people" [[("_id", .int32 3)]]),
    .call .connection .begin,
    .call (.transaction 1) (.delete "people" []),
    .drop 1,
    .call (.transaction 1) .rollback,
    .call .connection (.find "people" ⟨[], none, none, none, none⟩)]

/-- The calls of the connection and of the first transaction are the serial run. -/
theorem serializable_twoClients :
    (Ledger.ofEvents (Server.history twoClients ⟨[], none, 0⟩).1).map
        (fun block => (block.owner, block.entries.length, block.fate)) =
      [(none, 1, .kept), (some 0, 1, .kept), (some 1, 1, .discarded), (none, 1, .kept)] ∧
    (Store.serve ((Ledger.ofEvents (Server.history twoClients ⟨[], none, 0⟩).1).published.map Sigma.fst)
        []).2 = (Server.history twoClients ⟨[], none, 0⟩).2.published :=
  ⟨by decide +kernel, congrArg Prod.snd (serializable [] 0 twoClients).1⟩

end Polystore.Memory
