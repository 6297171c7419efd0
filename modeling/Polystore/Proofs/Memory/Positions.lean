/-
**Updates and deletions under a filter.**

Such a write can be made in two passes: the first one records the positions of the accepted documents,
the second one rewrites the collection at them. A deletion then counts its way through the documents and
looks every position up among the recorded ones by halving.

* `isAmong_iff_mem`: halving finds what stands among ascending numbers;
* `retained_acceptedAt`, `revisedAt_acceptedAt`: what the second passes leave behind;
* `changeIn_eq_writeAt`: so the two passes do what `Store.update` and `Store.delete` do;
* `changeIn_of_failure`: nothing is written if the filter fails on some document;
* `filtered_writes`: what updates and deletions give and leave behind.
-/

import Polystore.Proofs.Memory.Refusal
import Polystore.Proofs.Rows.Written

namespace Polystore.Memory

/-! ### Two passes -/

/-- The positions of the documents that pass a filter, counted from a number on. -/
def positionsFrom (filter : Document) (start : Nat) : List Document → Except DatabaseError (List Nat)
  | [] => .ok []
  | document :: rest => do
    let accepted ← passes document filter
    let others ← positionsFrom filter (start + 1) rest
    return if accepted then start :: others else others

/-- Whether a number is found between two places of a list, by halving what lies between them. -/
def isBetween (positions : List Nat) (wanted low high : Nat) : Bool :=
  if low < high then
    match positions[(low + high) / 2]? with
    | none => false
    | some middle =>
      if middle = wanted then true
      else if middle < wanted then isBetween positions wanted ((low + high) / 2 + 1) high
      else isBetween positions wanted low ((low + high) / 2)
  else false
termination_by high - low

/-- Whether a number is found in a list by halving it. -/
def isAmong (positions : List Nat) (wanted : Nat) : Bool := isBetween positions wanted 0 positions.length

/-- The documents that are not at one of the positions, where the first of them is at `counter`. -/
def retained (positions : List Nat) (counter : Nat) : List Document → List Document
  | [] => []
  | document :: rest =>
    if isAmong positions counter then retained positions (counter + 1) rest
    else document :: retained positions (counter + 1) rest

/-- The documents after those at the positions are revised one after the other. -/
def revisedAt (revise : Document → Document) (positions : List Nat) (documents : List Document) :
    List Document :=
  positions.foldl (fun documents position => documents.modify position revise) documents

/-- **A write in two passes**: it rewrites a collection at the positions of the accepted documents, and
tells how many these are. -/
def Store.writeAt (name : String) (filter : Document)
    (rewrite : List Nat → List Document → List Document) (store : Store) :
    Except DatabaseError Nat × Store :=
  match store.get? name with
  | none => (.ok 0, store)
  | some documents =>
    match positionsFrom filter 0 documents with
    | .ok positions => (.ok positions.length, store.put name (rewrite positions documents))
    | .error error => (.error error, store)

/-! ### Positions -/

/-- The positions of the accepted documents, counted from a number on. -/
def acceptedAt (accepts : Document → Bool) (start : Nat) : List Document → List Nat
  | [] => []
  | document :: rest =>
    if accepts document then start :: acceptedAt accepts (start + 1) rest
    else acceptedAt accepts (start + 1) rest

section Positions

variable {positions earlier : List Nat} {accepts : Document → Bool} {documents : List Document}
  {start : Nat}

/-- Halving finds a number exactly if it stands between the two places. -/
theorem isBetween_iff (ascending : positions.Pairwise (· < ·)) (wanted low high : Nat)
    (within : high ≤ positions.length) :
    isBetween positions wanted low high = true ↔
      ∃ place, low ≤ place ∧ place < high ∧ positions[place]? = some wanted := by
  have grows {first second small large : Nat} (former : positions[first]? = some small)
      (latter : positions[second]? = some large) (less : first < second) : small < large := by
    obtain ⟨inside, rfl⟩ := List.getElem?_eq_some_iff.mp former
    obtain ⟨outside, rfl⟩ := List.getElem?_eq_some_iff.mp latter
    exact List.pairwise_iff_getElem.mp ascending first second inside outside less
  fun_induction isBetween positions wanted low high with
  | case1 low high less missing =>
    have short := List.getElem?_eq_none_iff.mp missing
    omega
  | case2 low high less found =>
    exact iff_of_true rfl ⟨(low + high) / 2, by omega, by omega, found⟩
  | case3 low high less middle found different smaller hypothesis =>
    refine (hypothesis within).trans
      (exists_congr fun place => ⟨fun ⟨above, below, here⟩ => ⟨by omega, below, here⟩, ?_⟩)
    rintro ⟨above, below, here⟩
    refine ⟨?_, below, here⟩
    -- The number is greater than the middle one, so it does not stand before it.
    by_contra before
    rcases Nat.lt_or_eq_of_le (Nat.le_of_lt_succ (Nat.lt_of_not_le before)) with less | rfl
    · exact absurd (grows here found less) (by omega)
    · exact different (Option.some.inj (found.symm.trans here))
  | case4 low high less middle found different greater hypothesis =>
    refine (hypothesis (by omega)).trans
      (exists_congr fun place => ⟨fun ⟨above, below, here⟩ => ⟨above, by omega, here⟩, ?_⟩)
    rintro ⟨above, below, here⟩
    refine ⟨above, ?_, here⟩
    by_contra behind
    rcases Nat.lt_or_eq_of_le (Nat.le_of_not_lt behind) with less | rfl
    · exact absurd (grows found here less) (by omega)
    · exact different (Option.some.inj (found.symm.trans here))
  | case5 low high empty =>
    refine iff_of_false Bool.false_ne_true ?_
    rintro ⟨place, above, below, -⟩
    omega

/-- **Halving finds what stands among ascending numbers.** -/
theorem isAmong_iff_mem (ascending : positions.Pairwise (· < ·)) {wanted : Nat} :
    isAmong positions wanted = true ↔ wanted ∈ positions := by
  rw [isAmong, isBetween_iff ascending wanted 0 _ (Nat.le_refl _), List.mem_iff_getElem?]
  refine exists_congr fun place => ⟨fun found => found.2.2, fun found => ⟨Nat.zero_le _, ?_, found⟩⟩
  exact (List.getElem?_eq_some_iff.mp found).1

theorem le_of_mem_acceptedAt {position : Nat} (member : position ∈ acceptedAt accepts start documents) :
    start ≤ position := by
  induction documents generalizing start with
  | nil => cases member
  | cons document rest hypothesis =>
    rw [acceptedAt] at member
    split at member
    · rcases List.mem_cons.mp member with rfl | later
      · exact Nat.le_refl _
      · exact Nat.le_of_succ_le (hypothesis later)
    · exact Nat.le_of_succ_le (hypothesis member)

/-- Positions are recorded in ascending order. -/
theorem ascending_acceptedAt (accepts : Document → Bool) (start : Nat) (documents : List Document) :
    (acceptedAt accepts start documents).Pairwise (· < ·) := by
  induction documents generalizing start with
  | nil => exact .nil
  | cons document rest hypothesis =>
    rw [acceptedAt]
    split
    · exact List.pairwise_cons.mpr ⟨fun _ later => le_of_mem_acceptedAt later, hypothesis _⟩
    · exact hypothesis _

theorem length_acceptedAt (accepts : Document → Bool) (start : Nat) (documents : List Document) :
    (acceptedAt accepts start documents).length = (documents.filter accepts).length := by
  induction documents generalizing start with
  | nil => rfl
  | cons document rest hypothesis =>
    rw [acceptedAt, List.filter_cons]
    split
    · rw [List.length_cons, List.length_cons, hypothesis]
    · exact hypothesis _

/-- The walk of a deletion, on its way: the recorded positions are smaller ones and those of the
accepted documents that are still to come. -/
theorem retained_append (below : ∀ position ∈ earlier, position < start)
    (ascending : (earlier ++ acceptedAt accepts start documents).Pairwise (· < ·)) :
    retained (earlier ++ acceptedAt accepts start documents) start documents =
      documents.filter (!accepts ·) := by
  induction documents generalizing earlier start with
  | nil => rfl
  | cons document rest hypothesis =>
    have passed : start ∉ earlier := fun member => Nat.lt_irrefl _ (below start member)
    have unseen : start ∉ acceptedAt accepts (start + 1) rest := fun member =>
      Nat.not_succ_le_self _ (le_of_mem_acceptedAt member)
    have found : isAmong (earlier ++ acceptedAt accepts start (document :: rest)) start =
        accepts document := by
      rw [Bool.eq_iff_iff, isAmong_iff_mem ascending, List.mem_append, or_iff_right passed, acceptedAt]
      split
      · rename_i accepted
        exact iff_of_true List.mem_cons_self accepted
      · rename_i refused
        exact iff_of_false unseen refused
    rw [retained, found, List.filter_cons]
    cases accepted : accepts document with
    | true =>
      have recorded : acceptedAt accepts start (document :: rest) =
          [start] ++ acceptedAt accepts (start + 1) rest := if_pos accepted
      rw [recorded, ← List.append_assoc] at ascending ⊢
      refine hypothesis (fun position member => ?_) ascending
      rcases List.mem_append.mp member with before | here
      · exact Nat.lt_succ_of_lt (below position before)
      · rw [List.mem_singleton.mp here]
        exact Nat.lt_succ_self start
    | false =>
      have recorded : acceptedAt accepts start (document :: rest) = acceptedAt accepts (start + 1) rest :=
        if_neg (by rw [accepted]; exact Bool.false_ne_true)
      rw [recorded] at ascending ⊢
      have onward := hypothesis (fun position member => Nat.lt_succ_of_lt (below position member)) ascending
      exact congrArg (document :: ·) onward

/-- **A deletion retains what is not accepted.** -/
theorem retained_acceptedAt (accepts : Document → Bool) (documents : List Document) :
    retained (acceptedAt accepts 0 documents) 0 documents = documents.filter (!accepts ·) :=
  @retained_append [] accepts documents 0 nofun (ascending_acceptedAt accepts 0 documents)

/-- **An update revises what is accepted**, each document in its place. -/
theorem revisedAt_acceptedAt (accepts : Document → Bool) (revise : Document → Document)
    (documents : List Document) :
    revisedAt revise (acceptedAt accepts 0 documents) documents =
      documents.map fun document => if accepts document then revise document else document := by
  suffices general : ∀ done : List Document,
      revisedAt revise (acceptedAt accepts done.length documents) (done ++ documents) =
        done ++ documents.map fun document => if accepts document then revise document else document from
    general []
  induction documents with
  | nil => exact fun done => rfl
  | cons document rest hypothesis =>
    intro done
    rw [acceptedAt, List.map_cons]
    split
    · have placed : (done ++ document :: rest).modify done.length revise =
          done ++ [revise document] ++ rest := by
        rw [List.modify_eq_take_cons_drop (by simp)]
        simp
      have onward := hypothesis (done ++ [revise document])
      rw [List.length_append, List.length_singleton, ← List.append_cons _ _ (rest.map _)] at onward
      rw [revisedAt, List.foldl_cons, placed]
      exact onward
    · have onward := hypothesis (done ++ [document])
      rwa [List.length_append, List.length_singleton, ← List.append_cons, ← List.append_cons] at onward

end Positions

/-! ### Filters that fail -/

/-- Whether a document passes a filter; one on which the filter fails does not. -/
def accepts (filter document : Document) : Bool :=
  match passes document filter with
  | .ok accepted => accepted
  | .error _ => false

/-- Whether a filter decides every document of a list. -/
def Decides (filter : Document) (documents : List Document) : Prop :=
  ∀ document ∈ documents, ∃ accepted, passes document filter = .ok accepted

/-- Whether a filter fails on some document of a list, and how on the first of them. -/
def FirstFailure (filter : Document) (documents : List Document) (error : DatabaseError) : Prop :=
  ∃ before document after, documents = before ++ document :: after ∧ Decides filter before ∧
    passes document filter = .error error

section Failures

variable {name : String} {filter : Document} {new? : Document → Option Document}
  {documents : List Document} {store : Store} {error : DatabaseError} {start : Nat}
  {rewrite : List Nat → List Document → List Document}

theorem passes_eq_accepts (decides : Decides filter documents) :
    ∀ document ∈ documents, passes document filter = .ok (accepts filter document) := by
  intro document member
  obtain ⟨accepted, passed⟩ := decides document member
  rw [accepts, passed]

/-- A filter that fails on some document fails on a first one. -/
theorem exists_firstFailure
    (fails : ∃ document ∈ documents, ∃ error, passes document filter = .error error) :
    ∃ error, FirstFailure filter documents error := by
  obtain ⟨document, member, error, failed⟩ := fails
  induction documents with
  | nil => cases member
  | cons first rest hypothesis =>
    cases passed : passes first filter with
    | error other => exact ⟨other, [], first, rest, rfl, nofun, passed⟩
    | ok accepted =>
      rcases List.mem_cons.mp member with rfl | later
      · rw [passed] at failed
        cases failed
      · obtain ⟨other, before, faulty, after, rfl, decides, fails⟩ := hypothesis later
        refine ⟨other, first :: before, faulty, after, rfl, ?_, fails⟩
        exact List.forall_mem_cons.mpr ⟨⟨accepted, passed⟩, decides⟩

/-- A failure ends a change, whatever was accepted before it, -/
theorem change_of_failure (failure : FirstFailure filter documents error) :
    Store.change filter new? documents = .error error := by
  obtain ⟨before, document, after, rfl, decides, failed⟩ := failure
  induction before with
  | nil =>
    rw [List.nil_append, Store.change, failed]
    rfl
  | cons first rest hypothesis =>
    obtain ⟨⟨accepted, passed⟩, others⟩ := List.forall_mem_cons.mp decides
    rw [List.cons_append, Store.change, passed, hypothesis others]
    rfl

/-- and the search for positions. -/
theorem positionsFrom_of_failure (failure : FirstFailure filter documents error) :
    positionsFrom filter start documents = .error error := by
  obtain ⟨before, document, after, rfl, decides, failed⟩ := failure
  induction before generalizing start with
  | nil =>
    rw [List.nil_append, positionsFrom, failed]
    rfl
  | cons first rest hypothesis =>
    obtain ⟨⟨accepted, passed⟩, others⟩ := List.forall_mem_cons.mp decides
    rw [List.cons_append, positionsFrom, passed, hypothesis others]
    rfl

theorem positionsFrom_of_decides (decides : Decides filter documents) :
    positionsFrom filter start documents = .ok (acceptedAt (accepts filter) start documents) := by
  induction documents generalizing start with
  | nil => rfl
  | cons document rest hypothesis =>
    have passed := passes_eq_accepts decides document List.mem_cons_self
    rw [positionsFrom, passed, hypothesis (List.forall_mem_cons.mp decides).2, acceptedAt]
    rfl

/-- A filter decides every document of a list, or fails on a first one. -/
theorem decides_or_firstFailure (filter : Document) (documents : List Document) :
    Decides filter documents ∨ ∃ error, FirstFailure filter documents error := by
  by_cases decides : Decides filter documents
  · exact .inl decides
  · refine .inr (exists_firstFailure ?_)
    obtain ⟨document, undecided⟩ := not_forall.mp decides
    obtain ⟨member, undecided⟩ := Classical.not_imp.mp undecided
    cases passed : passes document filter with
    | ok accepted => exact absurd ⟨accepted, passed⟩ undecided
    | error error => exact ⟨document, member, error, passed⟩

/-- **A filter that fails on a document changes nothing.** -/
theorem changeIn_of_failure (failure : FirstFailure filter (store.documents name) error) :
    store.changeIn name filter new? = (.error error, store) := by
  unfold Store.changeIn
  cases found : store.get? name with
  | none =>
    rw [Store.documents_of_none found] at failure
    obtain ⟨before, document, after, split, -⟩ := failure
    cases before <;> cases split
  | some documents =>
    rw [Store.documents_of_some found] at failure
    simp only
    rw [change_of_failure failure]

/-- **A change is made in two passes**, if the second one leaves the changed documents. -/
theorem changeIn_eq_writeAt
    (rewrites : ∀ documents, rewrite (acceptedAt (accepts filter) 0 documents) documents =
      changed (accepts filter) new? documents) :
    store.changeIn name filter new? = store.writeAt name filter rewrite := by
  unfold Store.changeIn Store.writeAt
  cases store.get? name with
  | none => rfl
  | some documents =>
    simp only
    rcases decides_or_firstFailure filter documents with decides | ⟨error, failure⟩
    · rw [change_of_decides (passes_eq_accepts decides), positionsFrom_of_decides decides]
      simp only
      rw [rewrites, length_acceptedAt]
    · rw [change_of_failure failure, positionsFrom_of_failure failure]

/-- What a change under a deciding filter leaves of every collection. -/
theorem get?_changeIn (decides : Decides filter (store.documents name)) (other : String) :
    (store.changeIn name filter new?).2.get? other =
      if other = name then (store.get? name).map (changed (accepts filter) new?)
      else store.get? other := by
  unfold Store.changeIn
  cases found : store.get? name with
  | none =>
    show store.get? other = if other = name then none else store.get? other
    split
    · rename_i same
      rw [same, found]
    · rfl
  | some documents =>
    rw [Store.documents_of_some found] at decides
    simp only
    rw [change_of_decides (passes_eq_accepts decides)]
    exact Store.get?_put name other _ store

end Failures

/-- **Updates and deletions under a filter.** If the filter fails on a document of the collection, both
fail as on the first such document and nothing has changed. Otherwise both tell how many documents are
accepted; a deletion removes just these, an update sets its fields in just these, in their places, and
every other collection stays. Both are what two passes over positions do. -/
theorem filtered_writes (name : String) (filter set : Document) (store : Store)
    (distinct : (Document.keys set).Nodup) :
    ((∃ document ∈ store.documents name, ∃ error, passes document filter = .error error) →
      ∃ error, FirstFailure filter (store.documents name) error ∧
        store.update name filter set = (.error error, store) ∧
        store.delete name filter = (.error error, store)) ∧
    (Decides filter (store.documents name) →
      (store.delete name filter).1 =
        .ok ((store.documents name).filter (accepts filter)).length ∧
      (∀ other, (store.delete name filter).2.get? other =
        if other = name then (store.get? name).map fun documents =>
          documents.filter fun document => !accepts filter document
        else store.get? other) ∧
      (store.update name filter set).1 =
        .ok ((store.documents name).filter (accepts filter)).length ∧
      (∀ other, (store.update name filter set).2.get? other =
        if other = name then (store.get? name).map fun documents =>
          documents.map fun document =>
            if accepts filter document then Document.extend document set else document
        else store.get? other)) ∧
    (∀ document, Document.Sets set document (Document.extend document set)) ∧
    store.delete name filter =
      store.writeAt name filter (fun positions => retained positions 0) ∧
    store.update name filter set =
      store.writeAt name filter (revisedAt fun document => Document.extend document set) := by
  refine ⟨fun fails => ?_, fun decides => ?_, Document.sets_extend distinct, ?_, ?_⟩
  · obtain ⟨error, failure⟩ := exists_firstFailure fails
    exact ⟨error, failure, changeIn_of_failure failure, changeIn_of_failure failure⟩
  · have passed := passes_eq_accepts decides
    have removed : changed (accepts filter) (fun _ => none) =
        fun documents => documents.filter (!accepts filter ·) := funext fun _ => changed_none
    have revised : changed (accepts filter) (fun document => some (Document.extend document set)) =
        fun documents => documents.map fun document =>
          if accepts filter document then Document.extend document set else document :=
      funext fun _ => changed_some _
    refine ⟨(changeIn_of_decides passed).1, fun other => ?_, (changeIn_of_decides passed).1, fun other => ?_⟩
    · rw [← removed]
      exact get?_changeIn decides other
    · rw [← revised]
      exact get?_changeIn decides other
  · refine changeIn_eq_writeAt fun documents => ?_
    rw [retained_acceptedAt, changed_none]
  · refine changeIn_eq_writeAt fun documents => ?_
    rw [revisedAt_acceptedAt, changed_some]

/-- A filter that accepts Ann by her identifier and fails on everyone else. -/
def annOrFault : Document :=
  [("$or", .array [.document [("_id", .int64 1)], .document [("name", .document [("$where", .null)])]])]

/-- A write that fails behind a document that it has accepted, and one that reaches Bob. -/
theorem filtered_writes_people :
    (Document.keys [("name", .string "Rob"), ("age", .int64 24)]).Nodup ∧
    Store.twoPeople.update "people" annOrFault [("name", .string "Rob"), ("age", .int64 24)] =
      (.error (.unsupported "query operator '$where'"), Store.twoPeople) ∧
    (Store.twoPeople.update "people" [("name", .string "Bob")]
        [("name", .string "Rob"), ("age", .int64 24)]).1 = .ok 1 ∧
    (Store.twoPeople.update "people" [("name", .string "Bob")]
        [("name", .string "Rob"), ("age", .int64 24)]).2.get? "people" =
      some [[("_id", .int64 1), ("name", .string "Ann")],
        [("_id", .int64 2), ("name", .string "Rob"), ("age", .int64 24)]] := by
  have distinct : (Document.keys [("name", .string "Rob"), ("age", .int64 24)]).Nodup := by decide
  obtain ⟨failing, -⟩ := filtered_writes "people" annOrFault _ Store.twoPeople distinct
  obtain ⟨-, deciding, -⟩ := filtered_writes "people" [("name", .string "Bob")] _ Store.twoPeople distinct
  have decides : Decides [("name", .string "Bob")] (Store.twoPeople.documents "people") :=
    List.forall_mem_cons.mpr ⟨⟨false, rfl⟩, List.forall_mem_cons.mpr ⟨⟨true, rfl⟩, nofun⟩⟩
  obtain ⟨error, -, updated, -⟩ := failing
    ⟨_, List.mem_cons_of_mem _ List.mem_cons_self, .unsupported "query operator '$where'", rfl⟩
  obtain ⟨-, -, counted, left⟩ := deciding decides
  have same : Except.error error = .error (.unsupported "query operator '$where'") :=
    (congrArg Prod.fst updated).symm.trans rfl
  rw [same] at updated
  exact ⟨distinct, updated, counted, left "people"⟩

end Polystore.Memory
