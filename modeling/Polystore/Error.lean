/-
**The causes for which an operation fails, and their wording.**
-/

namespace Polystore

/-- The cause of a failure. -/
inductive DatabaseError where
  /-- No table was bound to the query. -/
  | missingTable
  /-- An identifier that the store cannot read. -/
  | invalidIdentifier (reason : String)
  /-- A document of the wrong shape for the operation. -/
  | invalidDocument (reason : String)
  /-- A connection that is not configured. -/
  | unknownConnection (name : String)
  /-- A driver that is not in the table of drivers. -/
  | unknownDriver (name : String)
  /-- An operation that the store has no equivalent for. -/
  | unsupported (operation : String)
  /-- A value that cannot be converted. -/
  | serialization (reason : String)
  | configuration (reason : String)
  /-- A driver that could not be opened. -/
  | initialization (reason : String)
  /-- A failure that the driver reports. -/
  | backend (reason : String)
  /-- The program gives up, as something that it relies on does not hold. -/
  | panic (reason : String)
  deriving DecidableEq, Repr, Inhabited

namespace DatabaseError

/-- The cause of giving up where a sum is no word of 64 bits. -/
def overflow : DatabaseError := .panic "attempt to add with overflow"

/-- The text of a cause. -/
def message : DatabaseError → String
  | missingTable => "No table bound to the query"
  | invalidIdentifier reason => "Invalid identifier: " ++ reason
  | invalidDocument reason => "Invalid document: " ++ reason
  | unknownConnection name => "Invalid database connection: " ++ name
  | unknownDriver name => "Invalid database driver: " ++ name
  | unsupported operation => "Unsupported operation: " ++ operation
  | serialization reason => "Serialization error: " ++ reason
  | configuration reason => "Configuration error: " ++ reason
  | initialization reason => "Initialization error: " ++ reason
  | backend reason => "Backend error: " ++ reason
  | panic reason => reason

/-- Reads turn this cause into "nothing found". -/
def isInvalidIdentifier : DatabaseError → Bool
  | invalidIdentifier _ => true
  | _ => false

end DatabaseError

/-- A step and what follows it succeed exactly if both do. -/
theorem bind_eq_ok {ε α β : Type} {first : Except ε α} {next : α → Except ε β} {result : β} :
    (first >>= next) = .ok result ↔ ∃ middle, first = .ok middle ∧ next middle = .ok result := by
  cases first with
  | error error => simp [bind, Except.bind]
  | ok middle => simp [bind, Except.bind]

theorem map_eq_ok {ε α β : Type} {first : Except ε α} {change : α → β} {result : β} :
    first.map change = .ok result ↔ ∃ middle, first = .ok middle ∧ change middle = result := by
  cases first with
  | error error => simp [Except.map]
  | ok middle => simp [Except.map]

/-- A change of the result of a series is one of its last step. -/
theorem map_bind_eq {ε α β γ : Type} (first : Except ε α) (next : α → Except ε β) (change : β → γ) :
    (first >>= next).map change = first >>= fun one => (next one).map change := by
  cases first <;> rfl

/-- Two steps that agree up to a view of their results, followed by steps that agree up to a view of
theirs. -/
theorem map_bind_congr {ε α β γ δ : Type} {view : α → γ} {look : β → δ} {first second : Except ε α}
    {next later : α → Except ε β} (same : first.map view = second.map view)
    (follow : ∀ one other, view one = view other → (next one).map look = (later other).map look) :
    (first >>= next).map look = (second >>= later).map look := by
  cases first with
  | error error =>
    cases second with
    | error other =>
      cases same
      rfl
    | ok other => cases same
  | ok one =>
    cases second with
    | error error => cases same
    | ok other => exact follow one other (Except.ok.inj same)

/-- One step followed by steps that agree up to a view of their results. -/
theorem map_bind_congr_right {ε α β δ : Type} {look : β → δ} {first : Except ε α}
    {next later : α → Except ε β}
    (follow : ∀ one, first = .ok one → (next one).map look = (later one).map look) :
    (first >>= next).map look = (first >>= later).map look := by
  cases first with
  | error error => rfl
  | ok one => exact follow one rfl

theorem map_map_congr {ε α β γ δ : Type} {view : α → γ} {look : β → δ} {first second : Except ε α}
    {change other : α → β} (same : first.map view = second.map view)
    (follow : ∀ one another, view one = view another → look (change one) = look (other another)) :
    (first.map change).map look = (second.map other).map look :=
  map_bind_congr same fun one another alike => congrArg Except.ok (follow one another alike)

/-- Results that agree up to a view: one error, or two results that look the same. -/
theorem map_eq_map_iff {ε α β : Type} {view : α → β} {first second : Except ε α} :
    first.map view = second.map view ↔
      (∃ error, first = .error error ∧ second = .error error) ∨
        ∃ one other, first = .ok one ∧ second = .ok other ∧ view one = view other := by
  cases first with
  | error error => cases second <;> simp [Except.map, eq_comm]
  | ok one => cases second <;> simp [Except.map]

end Polystore
