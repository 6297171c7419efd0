/-
**What the clients of a server have to show for their steps.**

`Server.history` lets clients take steps in any order: calls on the connection or on a transaction, and
transactions given up. A `Ledger` is written from the answers alone. It has a block for every time the
lock of the store was taken, in that order: one for each call on the connection and one for each
transaction, with the calls that were answered in it and what became of it.

* `Serial`: every block is what its calls give after the kept blocks before it, one after another;
* `Serial.serve_published`: the kept blocks are a serial run of their calls.
-/

import Polystore.Memory.Server

namespace Polystore

/-- The transaction through which a call is made. -/
def Scope.number? : Scope → Option Nat
  | .connection => none
  | .transaction number => some number

namespace Memory

/-- A call with what it was answered. -/
abbrev Entry := (call : Native.Call) × Except DatabaseError (Native.interface.Reply call)

/-- Whether a call is about collections and not about transactions. -/
def isData : Native.Call → Bool
  | .begin | .commit | .rollback => false
  | _ => true

/-- Whether a call was carried out, be it in vain: it succeeded, or it is about collections and did not
fail for want of an open transaction. -/
def Entry.Served (entry : Entry) : Prop :=
  entry.2.isOk = true ∨ (isData entry.1 = true ∧ entry.2 ≠ .error Store.finishedTransaction)

/-- Calls answered one after another out of the collections. -/
def Store.serve : List Native.Call → Store → List Entry × Store
  | [], store => ([], store)
  | call :: rest, store =>
    let (result, next) := store.answer call
    let (others, last) := next.serve rest
    (⟨call, result⟩ :: others, last)

/-- What a client does next. -/
inductive Step where
  | call (scope : Scope) (call : Native.Call)
  /-- Gives a transaction up. -/
  | drop (number : Nat)

/-- What comes of a step. -/
inductive Event where
  | answered (scope : Scope) (entry : Entry)
  | waited (scope : Scope) (call : Native.Call)
  | dropped (number : Nat)

namespace Server

/-- A server that takes a step. -/
def take (server : Server) : Step → Event × Server
  | .call scope call =>
    match server.answer scope call with
    | (.given result, next) => (.answered scope ⟨call, result⟩, next)
    | (.waiting, next) => (.waited scope call, next)
  | .drop number => (.dropped number, server.discard number)

/-- **A run**: the steps of all clients in the order in which they are taken. -/
def history : List Step → Server → List Event × Server
  | [], server => ([], server)
  | step :: rest, server =>
    let (event, next) := server.take step
    let (others, last) := next.history rest
    (event :: others, last)

end Server

/-- What became of a block. -/
inductive Fate where
  | pending
  | kept
  | discarded
  deriving DecidableEq, Repr

/-- What was done while the lock of the store was held once. -/
structure Block where
  /-- The transaction that held it, unless it was one call on the connection. -/
  owner : Option Nat
  entries : List Entry
  fate : Fate

namespace Block

/-- Whether a block is that of an open transaction. -/
def isOpen (number : Nat) (block : Block) : Bool := block.owner == some number && block.fate == .pending

/-- One more call in an open transaction. -/
def recorded (number : Nat) (entry : Entry) (block : Block) : Block :=
  if block.isOpen number then { block with entries := block.entries ++ [entry] } else block

/-- The end of an open transaction. -/
def settled (number : Nat) (fate : Fate) (block : Block) : Block :=
  if block.isOpen number then { block with fate } else block

end Block

/-- The blocks of a run, in the order in which the lock was taken. -/
abbrev Ledger := List Block

namespace Ledger

/-- **The ledger after one more event.** -/
def enter (ledger : Ledger) : Event → Ledger
  | .answered .connection ⟨.begin, .ok number⟩ => ledger ++ [⟨some number, [], .pending⟩]
  | .answered .connection ⟨.begin, .error _⟩ => ledger
  | .answered .connection entry => ledger ++ [⟨none, [entry], .kept⟩]
  | .answered (.transaction _) ⟨.begin, _⟩ => ledger
  | .answered (.transaction number) ⟨.commit, .ok _⟩ => ledger.map (Block.settled number .kept)
  | .answered (.transaction number) ⟨.rollback, .ok _⟩ => ledger.map (Block.settled number .discarded)
  | .answered (.transaction number) entry => ledger.map (Block.recorded number entry)
  | .waited _ _ => ledger
  | .dropped number => ledger.map (Block.settled number .discarded)

/-- The ledger of a run. -/
def ofEvents (events : List Event) : Ledger := events.foldl enter []

/-- **Whether a ledger accounts for a call**: it stands in a block of its scope, or the block shows what
it did to the transaction. -/
inductive Accounts (ledger : Ledger) : Scope → Entry → Prop
  | ofData {scope : Scope} {entry : Entry} {block : Block} (data : isData entry.1 = true)
    (member : block ∈ ledger) (owned : block.owner = scope.number?) (listed : entry ∈ block.entries) :
    Accounts ledger scope entry
  | ofBegin {number : Nat} {block : Block} (member : block ∈ ledger)
    (owned : block.owner = some number) : Accounts ledger .connection ⟨.begin, .ok number⟩
  | ofCommit {number : Nat} {block : Block} (member : block ∈ ledger)
    (owned : block.owner = some number) (kept : block.fate = .kept) :
    Accounts ledger (.transaction number) ⟨.commit, .ok ()⟩
  | ofRollback {number : Nat} {block : Block} (member : block ∈ ledger)
    (owned : block.owner = some number) (discarded : block.fate = .discarded) :
    Accounts ledger (.transaction number) ⟨.rollback, .ok ()⟩

/-- The calls of the kept blocks with their answers. -/
def published (ledger : Ledger) : List Entry :=
  (ledger.filter (·.fate == .kept)).flatMap (·.entries)

end Ledger

/-- **A serial ledger**: every block holds the answers that its calls get, one after another, out of what
the kept blocks before it leave. -/
inductive Serial (start : Store) : Ledger → Store → Prop
  | nil : Serial start [] start
  | kept {ledger : Ledger} {store next : Store} {owner : Option Nat} {entries : List Entry}
    (before : Serial start ledger store)
    (served : store.serve (entries.map Sigma.fst) = (entries, next)) :
    Serial start (ledger ++ [⟨owner, entries, .kept⟩]) next
  | unkept {ledger : Ledger} {store next : Store} {owner : Option Nat} {entries : List Entry}
    {fate : Fate} (before : Serial start ledger store) (lost : fate ≠ .kept)
    (served : store.serve (entries.map Sigma.fst) = (entries, next)) :
    Serial start (ledger ++ [⟨owner, entries, fate⟩]) store

/-! ### Calls one after another -/

section Serve

variable {store middle last : Store} {calls more : List Native.Call} {entries others : List Entry}

/-- Calls after calls. -/
theorem serve_append (first : store.serve calls = (entries, middle))
    (second : middle.serve more = (others, last)) :
    store.serve (calls ++ more) = (entries ++ others, last) := by
  induction calls generalizing store entries with
  | nil =>
    obtain ⟨rfl, rfl⟩ := Prod.mk.inj first
    exact second
  | cons call rest hypothesis =>
    have split : (⟨call, (store.answer call).1⟩ :: ((store.answer call).2.serve rest).1,
        ((store.answer call).2.serve rest).2) = (entries, middle) := first
    obtain ⟨rfl, ends⟩ := Prod.mk.inj split
    have behind : (store.answer call).2.serve (rest ++ more) =
        (((store.answer call).2.serve rest).1 ++ others, last) :=
      hypothesis (Prod.ext rfl ends)
    show (⟨call, (store.answer call).1⟩ :: ((store.answer call).2.serve (rest ++ more)).1,
      ((store.answer call).2.serve (rest ++ more)).2) = _
    rw [behind]
    rfl

/-- A single call. -/
theorem serve_singleton (store : Store) (call : Native.Call) :
    store.serve [call] = ([⟨call, (store.answer call).1⟩], (store.answer call).2) := rfl

/-- One more call. -/
theorem serve_concat (first : store.serve (entries.map Sigma.fst) = (entries, middle))
    (call : Native.Call) :
    store.serve ((entries ++ [(⟨call, (middle.answer call).1⟩ : Entry)]).map Sigma.fst) =
      (entries ++ [⟨call, (middle.answer call).1⟩], (middle.answer call).2) := by
  rw [List.map_append]
  exact serve_append first (serve_singleton middle call)

end Serve

/-! ### Serial ledgers -/

section SerialLedgers

variable {start store : Store} {ledger : Ledger}

theorem published_concat_kept (ledger : Ledger) (owner : Option Nat) (entries : List Entry) :
    Ledger.published (ledger ++ [⟨owner, entries, .kept⟩]) = ledger.published ++ entries := by
  unfold Ledger.published
  rw [List.filter_append, List.flatMap_append]
  exact congrArg _ (List.append_nil entries)

theorem published_concat_of_ne {fate : Fate} (lost : fate ≠ .kept) (ledger : Ledger)
    (owner : Option Nat) (entries : List Entry) :
    Ledger.published (ledger ++ [⟨owner, entries, fate⟩]) = ledger.published := by
  unfold Ledger.published
  rw [List.filter_append, List.filter_cons_of_neg (by simpa using lost)]
  exact congrArg _ (List.append_nil _)

/-- **The kept blocks are a serial run**: their calls, one after another, get the same answers and leave
the same collections. -/
theorem Serial.serve_published (serial : Serial start ledger store) :
    start.serve (ledger.published.map Sigma.fst) = (ledger.published, store) := by
  induction serial with
  | nil => rfl
  | kept _ served hypothesis =>
    rw [published_concat_kept, List.map_append]
    exact serve_append hypothesis served
  | unkept _ lost _ hypothesis =>
    rw [published_concat_of_ne lost]
    exact hypothesis

/-- A block of a longer ledger is its last one or one of the shorter ledger. -/
theorem eq_or_exists_of_concat_eq {α : Type} {shorter before after : List α} {latest item : α}
    (same : shorter ++ [latest] = before ++ item :: after) :
    (shorter = before ∧ latest = item) ∨ ∃ rest, shorter = before ++ item :: rest := by
  rcases List.eq_nil_or_concat after with rfl | ⟨rest, final, rfl⟩
  · obtain ⟨front, lasts⟩ := List.append_inj' same rfl
    exact .inl ⟨front, (List.cons.inj lasts).1⟩
  · have longer : shorter ++ [latest] = (before ++ item :: rest) ++ [final] := by simpa using same
    exact .inr ⟨rest, (List.append_inj' longer rfl).1⟩

/-- **Every block is what its calls give after the kept ones before it.** -/
theorem Serial.serve_block (serial : Serial start ledger store) {before after : Ledger} {block : Block}
    (whole : ledger = before ++ block :: after) :
    ((start.serve (before.published.map Sigma.fst)).2.serve (block.entries.map Sigma.fst)).1 =
      block.entries := by
  induction serial generalizing after with
  | nil => simp at whole
  | kept earlier served hypothesis =>
    rcases eq_or_exists_of_concat_eq whole with ⟨rfl, rfl⟩ | ⟨rest, same⟩
    · rw [earlier.serve_published, served]
    · exact hypothesis same
  | unkept earlier _ served hypothesis =>
    rcases eq_or_exists_of_concat_eq whole with ⟨rfl, rfl⟩ | ⟨rest, same⟩
    · rw [earlier.serve_published, served]
    · exact hypothesis same

end SerialLedgers

end Memory

end Polystore
