/-
**The arithmetic of page numbers.**

Offsets and ends of pages stop at `maxCount`, but a count is a word itself, so an end that has stopped
there is behind no row: which page follows is decided as in exact arithmetic. The number of the page
that follows has to be a word too, and behind the page of the greatest number there is none.

* `offset_add_lt_iff`: an end that stops at `maxCount` compares with a count as the exact one does;
* `hasNeighbours_ofTotal_iff`: the pages beside a page are those of exact arithmetic, unless rows remain
  behind the page of the greatest number: there the program gives up.
-/

import Mathlib.Tactic.ByContra
import Polystore.Page

namespace Polystore

/-- How many rows stand on the pages before the one that is wanted, however many that are. -/
def PageRequest.before (request : PageRequest) : Nat := (request.number - 1) * request.perPage

namespace Page

variable {α : Type}

/-- The pages beside the one at hand are those of exact arithmetic, and their numbers are words. -/
structure HasNeighbours (page : Page α) (request : PageRequest) : Prop where
  follows : page.next.isSome ↔ request.before + page.items.length < page.count
  next : ∀ number, page.next = some number →
    number = request.number + 1 ∧ request.number < number ∧ number ≤ maxCount
  precedes : page.previous.isSome ↔ 1 < request.number
  previous : ∀ number, page.previous = some number → number = request.number - 1

/-- The page has the greatest number of all, and rows remain behind it. -/
def RunsOut (items : List α) (count : Nat) (request : PageRequest) : Prop :=
  request.page = maxCount ∧ request.before + items.length < count

section Total

variable {items : List α} {count : Nat} {request : PageRequest}

/-- The end of a page is behind a count exactly if it would be without stopping at `maxCount`. -/
theorem offset_add_lt_iff (counted : count ≤ maxCount) :
    min (request.offset + items.length) maxCount < count ↔
      request.before + items.length < count := by
  have offset : request.offset = min request.before maxCount := rfl
  omega

/-- A page with the given next one. -/
def withNext (items : List α) (count : Nat) (request : PageRequest) (next : Option Nat) : Page α :=
  ⟨items, count, next, if 1 < request.number then some (request.number - 1) else none⟩

theorem ofTotal_eq (counted : count ≤ maxCount) :
    ofTotal items count request =
      (if request.before + items.length < count then request.following.map some else .ok none).map
        (withNext items count request) := by
  rw [← if_congr (offset_add_lt_iff counted) rfl rfl]
  rfl

theorem number_greatest (greatest : request.page = maxCount) : request.number = maxCount := by
  unfold PageRequest.number
  rw [greatest]
  decide

/-- Behind the greatest number rows remain only on pages of one row at most. -/
theorem perPage_le_one (counted : count ≤ maxCount) (out : RunsOut items count request) :
    request.perPage ≤ 1 := by
  obtain ⟨greatest, remain⟩ := out
  by_contra many
  have doubled : (maxCount - 1) * 2 ≤ request.before := by
    unfold PageRequest.before
    rw [number_greatest greatest]
    exact Nat.mul_le_mul_left _ (by omega)
  have great : maxCount < (maxCount - 1) * 2 := by decide
  omega

/-- The page before one is the one of exact arithmetic, whichever page follows. -/
theorem hasNeighbours_withNext {next : Option Nat}
    (follows : next.isSome ↔ request.before + items.length < count)
    (numbered : ∀ number, next = some number →
      number = request.number + 1 ∧ request.number < number ∧ number ≤ maxCount) :
    (withNext items count request next).HasNeighbours request where
  follows := follows
  next := numbered
  precedes := by
    unfold withNext
    rw [Option.isSome_ite]
  previous number precedes := by
    obtain ⟨-, found⟩ := Option.ite_none_right_eq_some.mp precedes
    exact (Option.some.inj found).symm

/-- A page behind which no number runs out has its neighbours. -/
theorem exists_page_of_not_runsOut (counted : count ≤ maxCount) (numbered : request.page ≤ maxCount)
    (enough : ¬ RunsOut items count request) :
    ∃ next, ofTotal items count request = .ok (withNext items count request next) ∧
      (withNext items count request next).HasNeighbours request := by
  rw [ofTotal_eq counted]
  by_cases remain : request.before + items.length < count
  · have shape : request.number = max request.page 1 := rfl
    have great : 1 < maxCount := by decide
    have smaller : request.page ≠ maxCount := fun greatest => enough ⟨greatest, remain⟩
    have below : request.number < maxCount := by omega
    refine ⟨some (request.number + 1), ?_, hasNeighbours_withNext ?_ fun number found => ?_⟩
    · rw [if_pos remain, PageRequest.following, if_pos below]
      rfl
    · simp [remain]
    · obtain rfl := Option.some.inj found
      exact ⟨rfl, Nat.lt_succ_self _, below⟩
  · refine ⟨none, ?_, hasNeighbours_withNext ?_ nofun⟩
    · rw [if_neg remain]
      rfl
    · simp [remain]

/-- Where rows remain behind the page of the greatest number, the program gives up. -/
theorem ofTotal_of_runsOut (counted : count ≤ maxCount) (out : RunsOut items count request) :
    ofTotal items count request = .error .overflow := by
  obtain ⟨greatest, remain⟩ := out
  rw [ofTotal_eq counted, if_pos remain, PageRequest.following, number_greatest greatest,
    if_neg (Nat.lt_irrefl _)]
  rfl

/-- **The pages beside a page.** Whatever the rows, the count and the request, there is a page of these
rows and this count, and the pages beside it are those of exact arithmetic, unless rows remain behind the
page of the greatest number. There the number of the page that follows would be no word, and the program
gives up. -/
theorem hasNeighbours_ofTotal_iff (counted : count ≤ maxCount) (numbered : request.page ≤ maxCount) :
    ((∃ page : Page α, ofTotal items count request = .ok page ∧ page.items = items ∧
        page.count = count ∧ page.HasNeighbours request) ↔ ¬ RunsOut items count request) ∧
      (RunsOut items count request → request.perPage ≤ 1 ∧
        ofTotal items count request = .error .overflow) := by
  refine ⟨⟨?_, fun enough => ?_⟩, fun out => ⟨perPage_le_one counted out, ofTotal_of_runsOut counted out⟩⟩
  · rintro ⟨page, made, -⟩ out
    rw [ofTotal_of_runsOut counted out] at made
    cases made
  · obtain ⟨next, made, beside⟩ := exists_page_of_not_runsOut counted numbered enough
    exact ⟨_, made, rfl, rfl, beside⟩

/-- The second page of three rows has a page on either side. -/
theorem hasNeighbours_ofTotal_second :
    3 ≤ maxCount ∧ 2 ≤ maxCount ∧ ∃ page : Page String,
      ofTotal ["b"] 3 ⟨2, 1⟩ = .ok page ∧ page.HasNeighbours ⟨2, 1⟩ ∧
        page.next = some 3 ∧ page.previous = some 1 := by
  have enough : ¬ RunsOut ["b"] 3 ⟨2, 1⟩ := fun out => absurd out.1 (by decide)
  obtain ⟨page, made, -, -, beside⟩ :=
    (hasNeighbours_ofTotal_iff (by decide) (by decide)).1.mpr enough
  have whole : page = ⟨["b"], 3, some 3, some 1⟩ := Except.ok.inj (made.symm.trans rfl)
  exact ⟨by decide, by decide, page, made, beside, by rw [whole], by rw [whole]⟩

/-- The page of the greatest number, with one row to be seen and none on a page, is not made. -/
theorem not_hasNeighbours_greatest :
    1 ≤ maxCount ∧ maxCount ≤ maxCount ∧
      ofTotal ([] : List String) 1 ⟨maxCount, 0⟩ = .error .overflow ∧
      ¬ ∃ page : Page String, ofTotal [] 1 ⟨maxCount, 0⟩ = .ok page ∧
        page.HasNeighbours ⟨maxCount, 0⟩ := by
  have gaveUp : ofTotal ([] : List String) 1 ⟨maxCount, 0⟩ = .error .overflow :=
    ofTotal_of_runsOut (by decide) ⟨rfl, by decide⟩
  refine ⟨by decide, Nat.le_refl _, gaveUp, ?_⟩
  rintro ⟨page, made, -⟩
  rw [gaveUp] at made
  cases made

end Total

end Page

end Polystore
