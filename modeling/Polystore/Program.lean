/-
**Programs that talk to a driver.**

An `Interface` lists the calls that a driver takes and what each is answered with. A `Program` is a
finite tree of such calls: it may draw fresh identifiers, and it sees the answer of every call,
failures included, before it goes on. `Program.run` runs it on a `Driver`, which answers calls out of
a state of its own.

A driver can also make a call wait, for a lock that a transaction holds. A program that has to wait
is given up: its outcome is `Outcome.blocked`.
-/

import Polystore.Error
import Polystore.Identifier.Source

namespace Polystore

/-- The calls that a driver takes, each with the kind of its answer. -/
structure Interface where
  Call : Type
  Reply : Call → Type

/-- Through what a call is made: the connection itself or one of its transactions. -/
inductive Scope where
  | connection
  | transaction (number : Nat)
  deriving DecidableEq, Repr

/-- A finite, answer-dependent series of calls that ends in a value or a failure. -/
inductive Program (interface : Interface) (α : Type) : Type where
  | done (value : α)
  | fail (error : DatabaseError)
  | draw (next : Draw → Program interface α)
  | call (scope : Scope) (call : interface.Call)
      (next : Except DatabaseError (interface.Reply call) → Program interface α)

namespace Program

variable {interface : Interface} {α β : Type}

/-- The first program and then the second one on its value; a failure ends both. -/
def andThen : Program interface α → (α → Program interface β) → Program interface β
  | done value, continuation => continuation value
  | fail error, _ => fail error
  | draw next, continuation => draw fun bits => (next bits).andThen continuation
  | call scope request next, continuation =>
    call scope request fun reply => (next reply).andThen continuation

instance : Monad (Program interface) where
  pure := done
  bind := andThen

/-- The value or the failure of a pure computation. -/
def ofExcept : Except DatabaseError α → Program interface α
  | .ok value => done value
  | .error error => fail error

/-- One call whose failure is the failure of the program. -/
def ask (interface : Interface) (scope : Scope) (request : interface.Call) :
    Program interface (interface.Reply request) :=
  call scope request ofExcept

/-- The bits of a fresh draw. -/
def fresh : Program interface Draw := draw done

/-- The program with its failure as a value. -/
def attempt : Program interface α → Program interface (Except DatabaseError α)
  | done value => done (.ok value)
  | fail error => done (.error error)
  | draw next => draw fun bits => (next bits).attempt
  | call scope request next => call scope request fun reply => (next reply).attempt

/-- The program with a value in the place of a failure about an identifier. -/
def orIfInvalidIdentifier (fallback : α) : Program interface α → Program interface α
  | done value => done value
  | fail error => if error.isInvalidIdentifier then done fallback else fail error
  | draw next => draw fun bits => (next bits).orIfInvalidIdentifier fallback
  | call scope request next =>
    call scope request fun reply => (next reply).orIfInvalidIdentifier fallback

theorem andThen_done (program : Program interface α) : program.andThen done = program := by
  induction program with
  | done value => rfl
  | fail error => rfl
  | draw next hypothesis => simp [andThen, hypothesis]
  | call scope request next hypothesis => simp [andThen, hypothesis]

theorem andThen_assoc {γ : Type} (program : Program interface α) (first : α → Program interface β)
    (second : β → Program interface γ) :
    (program.andThen first).andThen second = program.andThen fun value => (first value).andThen second := by
  induction program with
  | done value => rfl
  | fail error => rfl
  | draw next hypothesis => simp [andThen, hypothesis]
  | call scope request next hypothesis => simp [andThen, hypothesis]

end Program

/-- How a driver takes a call: it answers, or makes the caller wait. -/
inductive Answer (α : Type) where
  | given (result : Except DatabaseError α)
  | waiting

/-- Something that answers calls out of a state. -/
structure Driver (interface : Interface) (σ : Type) where
  answer : Scope → (call : interface.Call) → σ → Answer (interface.Reply call) × σ

/-- The state of a driver beside the supply of identifiers. -/
structure World (σ : Type) where
  identifiers : IdentifierSource
  state : σ

/-- How a program ends. -/
inductive Outcome (α : Type) where
  | finished (result : Except DatabaseError α)
  | blocked

namespace Program

variable {interface : Interface} {σ α : Type}

/-- Runs a program on a driver. -/
def run (driver : Driver interface σ) : Program interface α → World σ → Outcome α × World σ
  | done value, world => (.finished (.ok value), world)
  | fail error, world => (.finished (.error error), world)
  | draw next, world =>
    let (bits, identifiers) := world.identifiers.next
    (next bits).run driver { world with identifiers }
  | call scope request next, world =>
    match driver.answer scope request world.state with
    | (.given result, state) => (next result).run driver { world with state }
    | (.waiting, state) => (.blocked, { world with state })

end Program

/-- The driver that also keeps the calls made to it, in order. -/
def Driver.traced {interface : Interface} {σ : Type} (driver : Driver interface σ) :
    Driver interface (List interface.Call × σ) where
  answer scope call state :=
    let (answer, inner) := driver.answer scope call state.2
    (answer, (state.1 ++ [call], inner))

/-- The driver that also keeps whether an alarm went off, which is asked in front of every call. -/
def Driver.watched {interface : Interface} {σ : Type} (alarm : Scope → interface.Call → σ → Bool)
    (driver : Driver interface σ) : Driver interface (Bool × σ) where
  answer scope call state :=
    let (answer, inner) := driver.answer scope call state.2
    (answer, (state.1 || alarm scope call state.2, inner))

end Polystore
