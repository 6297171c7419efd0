/-
**Tables of entries in the order of their names.**
-/

namespace Polystore

/-- Entries by name. `NameTable.put` keeps the names in order and distinct. -/
abbrev NameTable (α : Type) := List (String × α)

namespace NameTable

variable {α β : Type}

/-- The entry under a name. -/
def get? (name : String) : NameTable α → Option α
  | [] => none
  | (other, entry) :: rest => if other = name then some entry else get? name rest

/-- Writes an entry: over the one of the same name, else before the first greater name. -/
def put (name : String) (entry : α) : NameTable α → NameTable α
  | [] => [(name, entry)]
  | (other, old) :: rest =>
    if other = name then (name, entry) :: rest
    else if name < other then (name, entry) :: (other, old) :: rest
    else (other, old) :: put name entry rest

/-- The table of a list of entries, where the last one of a name counts. -/
def ofList (entries : List (String × α)) : NameTable α :=
  entries.foldl (fun table entry => put entry.1 entry.2 table) []

def names (table : NameTable α) : List String := table.map Prod.fst

/-- A written entry reads back. -/
theorem get?_put_self (name : String) (entry : α) (table : NameTable α) :
    get? name (put name entry table) = some entry := by
  induction table with
  | nil => simp [put, get?]
  | cons first rest hypothesis =>
    obtain ⟨other, old⟩ := first
    by_cases equal : other = name
    · simp [put, get?, equal]
    · by_cases before : name < other <;> simp [put, get?, equal, before, hypothesis]

/-- Writing an entry leaves every other name alone. -/
theorem get?_put_of_ne {name wanted : String} (different : wanted ≠ name) (entry : α)
    (table : NameTable α) : get? wanted (put name entry table) = get? wanted table := by
  induction table with
  | nil => simp [put, get?, Ne.symm different]
  | cons first rest hypothesis =>
    obtain ⟨other, old⟩ := first
    by_cases equal : other = name
    · subst equal
      simp [put, get?, Ne.symm different]
    · by_cases before : name < other
      · simp [put, get?, equal, before, Ne.symm different]
      · simp [put, get?, equal, before, hypothesis]

end NameTable

end Polystore
