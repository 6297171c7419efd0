/-
**Programs that go through a list of items.**

A `Batch` deals with its items one after the other (`Steps`): an item is refused, or nothing is done
with it, or one call is made. It stops partway if an item is refused behind one that a call was made for.

* `Batch.careful`: a batch that does not stop partway fails of itself only before its first call;
* `Batch.rejectsFirst_iff`: exactly those reject first.
-/

import Polystore.Proofs.Program.Rejection

namespace Polystore

/-- **Whether a list stops partway**: an item is refused, and one before the first such is written. -/
def stopsPartway {ι : Type} (refuses writes : ι → Bool) (items : List ι) : Bool :=
  items.any refuses && (items.takeWhile (!refuses ·)).any writes

section Stops

variable {ι : Type} {refuses writes : ι → Bool} {item : ι} {rest : List ι}

theorem stopsPartway_of_refused (refused : refuses item = true) :
    stopsPartway refuses writes (item :: rest) = false := by
  rw [stopsPartway, List.takeWhile_cons, refused]
  exact Bool.and_false _

theorem stopsPartway_of_idle (accepted : refuses item = false) (idle : writes item = false) :
    stopsPartway refuses writes (item :: rest) = stopsPartway refuses writes rest := by
  rw [stopsPartway, List.takeWhile_cons, List.any_cons, accepted]
  simp only [Bool.not_false, if_true, List.any_cons, idle, Bool.false_or]
  rfl

theorem stopsPartway_of_written (accepted : refuses item = false) (written : writes item = true) :
    stopsPartway refuses writes (item :: rest) = rest.any refuses := by
  rw [stopsPartway, List.takeWhile_cons, List.any_cons, accepted]
  simp only [Bool.not_false, if_true, List.any_cons, written, Bool.true_or, Bool.and_true,
    Bool.false_or]

/-- Where nothing is written, nothing stops partway. -/
theorem stopsPartway_false (refuses : ι → Bool) (items : List ι) :
    stopsPartway refuses (fun _ => false) items = false := by
  rw [stopsPartway, List.any_eq_false.mpr fun _ _ => Bool.false_ne_true, Bool.and_false]

/-- Where nothing is refused, neither. -/
theorem stopsPartway_of_accepted {items : List ι} (accepted : ∀ item ∈ items, refuses item = false) :
    stopsPartway refuses writes items = false := by
  rw [stopsPartway, List.any_eq_false.mpr fun item member => ne_true_of_eq_false (accepted item member),
    Bool.false_and]

end Stops

namespace Program

variable {interface : Interface} {ι α β : Type}

/-- **What is done with one item**: `Steps refused written` says whether it is refused, and whether a
call is made for it if it is not. -/
inductive Steps : Bool → Bool → Program interface α → Prop
  | refused (written : Bool) (error : DatabaseError) : Steps true written (.fail error)
  | idle (value : α) : Steps false false (.done value)
  | writes (scope : Scope) (request : interface.Call) (change : interface.Reply request → α) :
    Steps false true (ask interface scope request >>= fun reply => pure (change reply))

/-- **A program that goes through items**, with what is refused and what a call is made for. It may draw
before an item. -/
inductive Batch (refuses writes : ι → Bool) : List ι → Program interface β → Prop
  | nil (value : β) : Batch refuses writes [] (.done value)
  | draw {items : List ι} {next : Draw → Program interface β}
    (each : ∀ bits, Batch refuses writes items (next bits)) :
    Batch refuses writes items (.draw next)
  | cons {α : Type} {item : ι} {rest : List ι} {first : Program interface α}
    {next : α → Program interface β} (steps : Steps (refuses item) (writes item) first)
    (others : ∀ value, Batch refuses writes rest (next value)) :
    Batch refuses writes (item :: rest) (first >>= next)

/-! ### Single items -/

namespace Steps

variable {written : Bool} {program : Program interface α}

theorem relays (steps : Steps false written program) : program.Relays := by
  cases steps with
  | idle value => trivial
  | writes scope request change => exact relays_reply scope request change

theorem exists_fail (steps : Steps true written program) : ∃ error, program = .fail error := by
  cases steps with
  | refused _ error => exact ⟨error, rfl⟩

theorem exists_done (steps : Steps false false program) : ∃ value, program = .done value := by
  cases steps with
  | idle value => exact ⟨value, rfl⟩

/-- A call whose reply is the value. -/
theorem ask (scope : Scope) (request : interface.Call) :
    Steps false true (ask interface scope request) := by
  rw [← andThen_done (Program.ask interface scope request)]
  exact .writes scope request id

variable (reply : (request : interface.Call) → interface.Reply request) (world : World Unit)

/-- Where its call is granted, an accepted item is dealt with. -/
theorem exists_run (steps : Steps false written program) :
    ∃ value last, program.run (.granting reply) world = (.finished (.ok value), last) := by
  cases steps with
  | idle value => exact ⟨value, world, rfl⟩
  | writes scope request change => exact ⟨change (reply request), world, rfl⟩

theorem log_ne_nil (steps : Steps false true program) :
    program.log (.granting reply) world ≠ [] := by
  cases steps with
  | writes scope request change => exact List.cons_ne_nil _ _

end Steps

/-! ### Batches -/

namespace Batch

variable {refuses writes : ι → Bool} {items : List ι} {program : Program interface β}

/-- A batch whose result is changed. -/
theorem map {γ : Type} (batch : Batch refuses writes items program) (change : β → γ) :
    Batch refuses writes items (program >>= fun value => pure (change value)) := by
  induction batch with
  | nil value => exact .nil (change value)
  | draw each hypothesis => exact .draw hypothesis
  | cons steps others hypothesis =>
    show Batch refuses writes _ ((andThen _ _).andThen _)
    rw [andThen_assoc]
    exact .cons steps hypothesis

theorem relays (batch : Batch refuses writes items program) (accepted : items.any refuses = false) :
    program.Relays := by
  induction batch with
  | nil value => trivial
  | draw each hypothesis => exact fun bits => hypothesis bits accepted
  | cons steps others hypothesis =>
    obtain ⟨first, rest⟩ := Bool.or_eq_false_iff.mp accepted
    rw [first] at steps
    exact steps.relays.bind fun value => hypothesis value rest

/-- **Batches that do not stop partway are careful.** -/
theorem careful (batch : Batch refuses writes items program)
    (orderly : stopsPartway refuses writes items = false) : program.Careful := by
  induction batch with
  | nil value => trivial
  | draw each hypothesis => exact fun bits => hypothesis bits orderly
  | @cons _ item _ _ _ steps others hypothesis =>
    cases refused : refuses item with
    | true =>
      rw [refused] at steps
      obtain ⟨error, rfl⟩ := steps.exists_fail
      trivial
    | false =>
      rw [refused] at steps
      cases written : writes item with
      | false =>
        rw [written] at steps
        rw [stopsPartway_of_idle refused written] at orderly
        obtain ⟨value, rfl⟩ := steps.exists_done
        exact hypothesis value orderly
      | true =>
        rw [stopsPartway_of_written refused written] at orderly
        exact (steps.relays.bind fun value => (others value).relays orderly).careful

section Granted

variable (reply : (request : interface.Call) → interface.Reply request) (world : World Unit)

/-- A batch with a refused item fails. -/
theorem exists_run (batch : Batch refuses writes items program) (refused : items.any refuses = true) :
    ∃ error last, program.run (.granting reply) world = (.finished (.error error), last) := by
  induction batch generalizing world with
  | nil value => cases refused
  | draw each hypothesis => exact hypothesis _ _ refused
  | @cons _ item _ _ next steps others hypothesis =>
    cases first : refuses item with
    | true =>
      rw [first] at steps
      obtain ⟨error, rfl⟩ := steps.exists_fail
      exact ⟨error, world, rfl⟩
    | false =>
      rw [first] at steps
      rw [List.any_cons, first, Bool.false_or] at refused
      obtain ⟨value, middle, ran⟩ := steps.exists_run reply world
      rw [run_bind_of_ok ran]
      exact hypothesis value middle refused

/-- A batch that stops partway has made a call. -/
theorem log_ne_nil (batch : Batch refuses writes items program)
    (stops : stopsPartway refuses writes items = true) : program.log (.granting reply) world ≠ [] := by
  induction batch generalizing world with
  | nil value => cases stops
  | draw each hypothesis => exact hypothesis _ _ stops
  | @cons _ item _ _ next steps others hypothesis =>
    cases refused : refuses item with
    | true =>
      rw [stopsPartway_of_refused refused] at stops
      cases stops
    | false =>
      rw [refused] at steps
      cases written : writes item with
      | true =>
        rw [written] at steps
        rw [log_bind]
        exact List.append_ne_nil_of_left_ne_nil (steps.log_ne_nil reply world) _
      | false =>
        rw [written] at steps
        rw [stopsPartway_of_idle refused written] at stops
        obtain ⟨value, rfl⟩ := steps.exists_done
        exact hypothesis value world stops

end Granted

/-- **A batch rejects first exactly if it does not stop partway.** -/
theorem rejectsFirst_iff (reply : (request : interface.Call) → interface.Reply request)
    (batch : Batch refuses writes items program) :
    program.RejectsFirst ↔ stopsPartway refuses writes items = false := by
  refine ⟨fun rejects => Bool.eq_false_iff.mpr fun stops => ?_,
    fun orderly => (batch.careful orderly).rejectsFirst⟩
  obtain ⟨error, last, failed⟩ :=
    batch.exists_run reply ⟨⟨0, 0⟩, ()⟩ (Bool.and_eq_true_iff.mp stops).1
  exact not_rejectsFirst failed (batch.log_ne_nil reply _ stops) rejects

end Batch

end Program

end Polystore
