/-
**Numbered pages of a result.**

Pages count from one, and a request for page zero means the first one. Offsets and ends stop at
`maxCount`, the greatest number of 64 bits; page numbers are words of 64 bits, so no page follows the one
of the greatest number. `Page.ofTotal` knows the pages beside its own from the total number of rows, and
gives up where the page that follows would have no number.
-/

import Polystore.Error

namespace Polystore

/-- The greatest count of rows there is. -/
def maxCount : Nat := 0xffffffffffffffff

/-- Which page is wanted, and how many rows a page has. -/
structure PageRequest where
  page : Nat
  perPage : Nat
  deriving DecidableEq, Repr

namespace PageRequest

/-- The first page of ten rows. -/
def standard : PageRequest := ⟨1, 10⟩

/-- The number of the page, at least one. -/
def number (request : PageRequest) : Nat := max request.page 1

/-- The number of the page behind this one, which has to be a word. -/
def following (request : PageRequest) : Except DatabaseError Nat :=
  if request.number < maxCount then .ok (request.number + 1) else .error .overflow

/-- The number of the page that follows a page with the given end, if rows remain behind it. -/
def next (request : PageRequest) (reached count : Nat) : Except DatabaseError (Option Nat) :=
  if reached < count then request.following.map some else .ok none

/-- How many rows stand before the page. -/
def offset (request : PageRequest) : Nat := min ((request.number - 1) * request.perPage) maxCount

end PageRequest

/-- Rows with the total number of rows and the numbers of the neighbouring pages. -/
structure Page (α : Type) where
  items : List α
  count : Nat
  next : Option Nat
  previous : Option Nat
  deriving Repr

namespace Page

/-- The page without rows or neighbours. -/
def empty {α : Type} : Page α := ⟨[], 0, none, none⟩

/-- A page of a result with `count` rows: another page follows if rows remain behind this one. -/
def ofTotal {α : Type} (items : List α) (count : Nat) (request : PageRequest) :
    Except DatabaseError (Page α) :=
  (request.next (min (request.offset + items.length) maxCount) count).map fun next =>
    { items, count, next
      previous := if 1 < request.number then some (request.number - 1) else none }

end Page

end Polystore
