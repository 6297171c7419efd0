/-
**Cutting texts at a separator and putting pieces together.**

* `Text.segments` cuts at every separator, `Text.cutAtFirst` at the first one;
* `Text.joined` puts a separator between pieces, so it undoes `Text.segmentsOf`;
* `Text.doubled` writes every occurrence of one character twice;
* `Text.dropLeading` removes a given beginning.
-/

namespace Polystore.Text

/-- The pieces of a text between the occurrences of `separator`; there is always one more piece
than there are separators. -/
def segments (separator : Char) : List Char → List (List Char)
  | [] => [[]]
  | head :: rest =>
    if head = separator then [] :: segments separator rest
    else
      match segments separator rest with
      | [] => [[head]]
      | first :: others => (head :: first) :: others

/-- The pieces of a string between the occurrences of `separator`. -/
def segmentsOf (separator : Char) (text : String) : List String :=
  (segments separator text.toList).map String.ofList

/-- The texts before and after the first `separator`, if there is one. -/
def cutAtFirst (separator : Char) : List Char → Option (List Char × List Char)
  | [] => none
  | head :: rest =>
    if head = separator then some ([], rest)
    else (cutAtFirst separator rest).map fun (before, after) => (head :: before, after)

/-- The texts with `separator` between neighbours. -/
def joined (separator : String) : List String → String
  | [] => ""
  | [only] => only
  | first :: rest => first ++ separator ++ joined separator rest

/-- The text with every occurrence of `mark` written twice. -/
def doubled (mark : Char) : List Char → List Char
  | [] => []
  | head :: rest => if head = mark then head :: head :: doubled mark rest else head :: doubled mark rest

/-- Whether `mark` occurs in the text. -/
def hasChar (mark : Char) (text : String) : Bool := text.toList.contains mark

/-- What follows `beginning` in a text that starts with it. -/
def dropLeading (beginning text : List Char) : Option (List Char) :=
  match beginning, text with
  | [], text => some text
  | _ :: _, [] => none
  | expected :: beginning, head :: text =>
    if head = expected then dropLeading beginning text else none

/-- Whether the text starts with `beginning`. -/
def startsWith (beginning text : String) : Bool :=
  (dropLeading beginning.toList text.toList).isSome

/-- There is always at least one segment. -/
theorem segments_ne_nil (separator : Char) (text : List Char) : segments separator text ≠ [] := by
  cases text with
  | nil => simp [segments]
  | cons head rest =>
    unfold segments
    split
    · simp
    · split <;> simp

/-- A text without the separator is its own only segment. -/
theorem segments_eq_singleton {separator : Char} {text : List Char} (absent : separator ∉ text) :
    segments separator text = [text] := by
  induction text with
  | nil => rfl
  | cons head rest hypothesis =>
    have different : head ≠ separator := fun equal => absent (by simp [equal])
    simp [segments, different, hypothesis fun member => absent (List.mem_cons_of_mem _ member)]

/-- A text without the separator is not cut. -/
theorem segmentsOf_eq_singleton {separator : Char} {text : String}
    (absent : hasChar separator text = false) : segmentsOf separator text = [text] := by
  have outside : separator ∉ text.toList := by simpa [hasChar] using absent
  rw [segmentsOf, segments_eq_singleton outside, List.map_singleton, String.ofList_toList]

/-- A segment consists of characters of the text other than the separator. -/
theorem mem_of_mem_segments {separator character : Char} {text segment : List Char}
    (inside : segment ∈ segments separator text) (member : character ∈ segment) :
    character ∈ text ∧ character ≠ separator := by
  induction text generalizing segment with
  | nil =>
    obtain rfl := List.mem_singleton.mp inside
    cases member
  | cons head rest hypothesis =>
    have later {segment : List Char} (inside : segment ∈ segments separator rest)
        (member : character ∈ segment) : character ∈ head :: rest ∧ character ≠ separator :=
      (hypothesis inside member).imp (List.mem_cons_of_mem _) id
    unfold segments at inside
    split at inside
    · rcases List.mem_cons.mp inside with rfl | inside
      · cases member
      · exact later inside member
    · rename_i different
      cases pieces : segments separator rest with
      | nil => exact absurd pieces (segments_ne_nil separator rest)
      | cons first others =>
        rw [pieces] at inside later
        rcases List.mem_cons.mp inside with rfl | inside
        · rcases List.mem_cons.mp member with rfl | member
          · exact ⟨List.mem_cons_self, different⟩
          · exact later List.mem_cons_self member
        · exact later (List.mem_cons_of_mem _ inside) member

/-- No segment of a text has the separator in it. -/
theorem hasChar_of_mem_segmentsOf {separator : Char} {text segment : String}
    (inside : segment ∈ segmentsOf separator text) : hasChar separator segment = false := by
  obtain ⟨piece, among, rfl⟩ := List.mem_map.mp inside
  rw [hasChar, String.toList_ofList, ← Bool.not_eq_true, List.contains_iff_mem]
  exact fun member => (mem_of_mem_segments among member).2 rfl

/-- There is one segment more than there are separators. -/
theorem length_segments (separator : Char) (text : List Char) :
    (segments separator text).length = text.count separator + 1 := by
  induction text with
  | nil => rfl
  | cons head rest hypothesis =>
    unfold segments
    split
    · rename_i equal
      subst equal
      rw [List.length_cons, hypothesis, List.count_cons_self]
    · rename_i different
      rw [List.count_cons_of_ne different]
      cases pieces : segments separator rest with
      | nil => exact absurd pieces (segments_ne_nil separator rest)
      | cons first others =>
        rw [pieces] at hypothesis
        exact hypothesis

/-- A separator between two texts cuts between their segments. -/
theorem segments_append (separator : Char) (first second : List Char) :
    segments separator (first ++ separator :: second) =
      segments separator first ++ segments separator second := by
  induction first with
  | nil => simp [segments]
  | cons head rest hypothesis =>
    rw [List.cons_append, segments, segments, hypothesis]
    by_cases equal : head = separator
    · rw [if_pos equal, if_pos equal, List.cons_append]
    · rw [if_neg equal, if_neg equal]
      cases pieces : segments separator rest with
      | nil => exact absurd pieces (segments_ne_nil separator rest)
      | cons piece others => rfl

/-- Removing a beginning leaves exactly what it was put in front of. -/
theorem dropLeading_append (beginning text : List Char) :
    dropLeading beginning (beginning ++ text) = some text := by
  induction beginning with
  | nil => cases text <;> rfl
  | cons head rest hypothesis => simp [dropLeading, hypothesis]

/-- A character in front of the first piece stands in front of the whole. -/
theorem joined_cons {separator : String} (head : Char) {first : List Char} {others : List (List Char)} :
    joined separator (((head :: first) :: others).map String.ofList) =
      String.ofList [head] ++ joined separator ((first :: others).map String.ofList) := by
  cases others <;> simp [joined, ← String.toList_inj]

/-- Putting the separator between the segments of a text gives the text back. -/
theorem joined_segmentsOf (separator : Char) (text : String) :
    joined (String.ofList [separator]) (segmentsOf separator text) = text := by
  suffices general : ∀ characters : List Char,
      joined (String.ofList [separator]) ((segments separator characters).map String.ofList) =
        String.ofList characters by
    simpa [segmentsOf] using general text.toList
  intro characters
  induction characters with
  | nil => rfl
  | cons head rest hypothesis =>
    unfold segments
    split
    · rename_i equal
      cases pieces : segments separator rest with
      | nil => exact absurd pieces (segments_ne_nil separator rest)
      | cons first others =>
        rw [pieces] at hypothesis
        simp only [List.map_cons, joined] at hypothesis ⊢
        rw [hypothesis]
        simp [equal]
    · cases pieces : segments separator rest with
      | nil => exact absurd pieces (segments_ne_nil separator rest)
      | cons first others =>
        rw [pieces] at hypothesis
        simp only
        rw [joined_cons, hypothesis]
        simp

theorem segmentsOf_ne_nil (separator : Char) (text : String) : segmentsOf separator text ≠ [] :=
  fun empty => segments_ne_nil _ _ (List.map_eq_nil_iff.mp empty)

/-- The segments of a text tell the text. -/
theorem eq_of_segmentsOf {separator : Char} {first second : String}
    (same : segmentsOf separator first = segmentsOf separator second) : first = second := by
  rw [← joined_segmentsOf separator first, same, joined_segmentsOf]

end Polystore.Text
