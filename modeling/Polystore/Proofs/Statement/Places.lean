/-
**The places of values in the text of a statement.**

`Sql.places` reads a text character by character and keeps to what stands outside of quoted names: a
question mark is the place of a value, on Postgres a dollar sign with a number is.

* `quiet_quote`: a quoted name has no places, whatever its characters are;
* `places_placeholder`: a placeholder is one place, unless a digit behind it makes its number longer;
* `Numbered.append`: pieces that are numbered in order, one list behind the other;
* `places_statement`: the places of a statement made of such pieces are those of its values, in order.
-/

import Polystore.Sql.Write

namespace Polystore.Sql

/-- The character that the place of a value begins with. -/
def placeMark : SqlDialect → Char
  | .postgres => '$'
  | .sqlite | .mySql => '?'

/-- The place of a value that begins with a character. -/
def place? (dialect : SqlDialect) (head : Char) (rest : List Char) : Option String :=
  if head = placeMark dialect then
    match dialect with
    | .postgres =>
      let digits := rest.takeWhile Char.isDigit
      if digits.isEmpty then none else some (String.ofList (head :: digits))
    | .sqlite | .mySql => some (String.ofList [head])
  else none

/-- **The places of values in a text**, from inside or outside of a quoted name. -/
def places (dialect : SqlDialect) : Bool → List Char → List String
  | _, [] => []
  | isQuoted, head :: rest =>
    if head = dialect.quoteMark then places dialect (!isQuoted) rest
    else if isQuoted then places dialect true rest
    else (place? dialect head rest).toList ++ places dialect false rest

/-- Whether a text has no place, and ends outside of quotes. -/
def Quiet (dialect : SqlDialect) (text : String) : Prop :=
  ∀ rest, places dialect false (text.toList ++ rest) = places dialect false rest

/-- Whether a text can stand behind a placeholder without changing its number. -/
def Delimited (dialect : SqlDialect) (text : List Char) : Prop :=
  dialect = .postgres → ∀ head ∈ text.head?, head.isDigit = false

/-- Whether a text begins with something other than a digit. -/
def beginsApart (text : String) : Bool := text.toList.head?.any fun head => !head.isDigit

/-- Whether a character begins no place and no quoted name. -/
def isSilent (dialect : SqlDialect) (character : Char) : Bool :=
  character ≠ dialect.quoteMark && character ≠ placeMark dialect

/-- The characters that begin a place or a quoted name in some dialect. -/
def marks : List Char := ['"', '\x60', '?', '$']

section Quiet

variable {dialect : SqlDialect} {first second : String}

theorem quiet_empty : Quiet dialect "" := fun _ => rfl

theorem Quiet.append (former : Quiet dialect first) (latter : Quiet dialect second) :
    Quiet dialect (first ++ second) := by
  intro rest
  rw [String.toList_append, List.append_assoc, former, latter]

theorem places_silent {head : Char} (silent : isSilent dialect head = true) (rest : List Char) :
    places dialect false (head :: rest) = places dialect false rest := by
  unfold isSilent at silent
  rw [Bool.and_eq_true, decide_eq_true_eq, decide_eq_true_eq] at silent
  rw [places, if_neg silent.1, if_neg Bool.false_ne_true]
  unfold place?
  rw [if_neg silent.2]
  rfl

theorem isSilent_of_not_mem {character : Char} (apart : character ∉ marks) :
    isSilent dialect character = true := by
  unfold isSilent
  rw [Bool.and_eq_true, decide_eq_true_eq, decide_eq_true_eq]
  refine ⟨?_, ?_⟩ <;> rintro rfl <;> exact apart (by cases dialect <;> decide)

/-- A text of silent characters is quiet. -/
theorem quiet_of_silent {text : String} (silent : ∀ character ∈ text.toList,
    isSilent dialect character = true) : Quiet dialect text := by
  intro rest
  generalize text.toList = characters at silent
  induction characters with
  | nil => rfl
  | cons head others hypothesis =>
    rw [List.cons_append, places_silent (silent head List.mem_cons_self)]
    exact hypothesis fun character member => silent character (List.mem_cons_of_mem _ member)

/-- Words without marks are quiet in every dialect. -/
theorem quiet_words {text : String} (words : text.toList.all (!marks.contains ·) = true) :
    Quiet dialect text := by
  refine quiet_of_silent fun character member => isSilent_of_not_mem ?_
  have word := List.all_eq_true.mp words character member
  rwa [Bool.not_eq_true', List.contains_eq_mem, decide_eq_false_iff_not] at word

/-- Quiet texts stay quiet with a quiet text between neighbours. -/
theorem quiet_joined {separator : String} {texts : List String} (between : Quiet dialect separator)
    (each : ∀ text ∈ texts, Quiet dialect text) : Quiet dialect (Text.joined separator texts) := by
  fun_induction Text.joined separator texts with
  | case1 => exact quiet_empty
  | case2 only => exact each only List.mem_cons_self
  | case3 first rest filled hypothesis =>
    refine ((each first List.mem_cons_self).append between).append (hypothesis ?_)
    exact fun text member => each text (List.mem_cons_of_mem _ member)

theorem quiet_join {texts : List String} (each : ∀ text ∈ texts, Quiet dialect text) :
    Quiet dialect (String.join texts) := by
  induction texts with
  | nil => exact quiet_empty
  | cons first rest hypothesis =>
    rw [String.join_cons]
    refine (each first List.mem_cons_self).append (hypothesis ?_)
    exact fun text member => each text (List.mem_cons_of_mem _ member)

/-! ### Quoted names -/

/-- Inside of quotes nothing is a place, and a doubled quote does not end the name. -/
theorem places_doubled (text rest : List Char) :
    places dialect true (Text.doubled dialect.quoteMark text ++ rest) = places dialect true rest := by
  induction text with
  | nil => rfl
  | cons head others hypothesis =>
    rw [Text.doubled]
    by_cases marks : head = dialect.quoteMark
    · rw [if_pos marks, List.cons_append, List.cons_append, places, if_pos marks, places,
        if_pos marks]
      exact hypothesis
    · rw [if_neg marks, List.cons_append, places, if_neg marks, if_pos rfl]
      exact hypothesis

theorem quiet_quoteWhole (name : String) : Quiet dialect (dialect.quoteWhole name) := by
  intro rest
  rw [SqlDialect.quoteWhole, String.toList_ofList, SqlDialect.quotedChars, List.cons_append,
    List.cons_append, List.append_assoc, places, if_pos rfl]
  show places dialect true _ = _
  rw [places_doubled, List.singleton_append, places, if_pos rfl]
  rfl

/-- **A quoted name has no places**, whatever its characters are. -/
theorem quiet_quote (name : String) : Quiet dialect (dialect.quote name) := by
  refine quiet_joined (quiet_words (by decide)) fun text member => ?_
  obtain ⟨segment, _, rfl⟩ := List.mem_map.mp member
  unfold SqlDialect.quoteSegment
  split
  · exact quiet_words (by decide)
  · exact quiet_quoteWhole segment

/-! ### Numbers -/

theorem toList_toString (number : Nat) : (toString number).toList = Nat.toDigits 10 number := by
  rw [Nat.toString_eq_ofList_toDigits, String.toList_ofList]

theorem isDigit_of_mem_toString {number : Nat} {digit : Char}
    (member : digit ∈ (toString number).toList) : digit.isDigit = true := by
  rw [toList_toString] at member
  exact Nat.isDigit_of_mem_toDigits (by decide) (by decide) member

theorem quiet_toString (number : Nat) : Quiet dialect (toString number) := by
  refine quiet_of_silent fun digit member => isSilent_of_not_mem fun marked => ?_
  have isDigit := isDigit_of_mem_toString member
  unfold marks at marked
  simp only [List.mem_cons, List.not_mem_nil, or_false] at marked
  rcases marked with rfl | rfl | rfl | rfl <;> exact absurd isDigit (by decide)

/-- **A placeholder is one place**, unless a digit stands behind it. -/
theorem places_placeholder (number : Nat) {rest : List Char} (delimited : Delimited dialect rest) :
    places dialect false ((dialect.placeholder number).toList ++ rest) =
      dialect.placeholder number :: places dialect false rest := by
  have question (isQuestion : dialect.placeholder number = "?")
      (found : place? dialect '?' rest = some "?") (apart : '?' ≠ dialect.quoteMark) :
      places dialect false ((dialect.placeholder number).toList ++ rest) =
        dialect.placeholder number :: places dialect false rest := by
    rw [isQuestion]
    show places dialect false ('?' :: rest) = _
    rw [places, if_neg apart, if_neg Bool.false_ne_true, found]
    rfl
  cases dialect with
  | sqlite => exact question rfl rfl (by decide)
  | mySql => exact question rfl rfl (by decide)
  | postgres =>
    have written : (SqlDialect.postgres.placeholder number).toList =
        '$' :: (toString number).toList := by
      rw [SqlDialect.placeholder, String.toList_append]
      rfl
    have digits : ((toString number).toList ++ rest).takeWhile Char.isDigit =
        (toString number).toList := by
      rw [List.takeWhile_append_of_pos fun digit member => isDigit_of_mem_toString member]
      cases rest with
      | nil => exact List.append_nil _
      | cons head others =>
        have apart : head.isDigit = false := delimited rfl head rfl
        rw [List.takeWhile_cons, apart]
        exact List.append_nil _
    have present : (toString number).toList.isEmpty = false := by
      rw [toList_toString]
      exact List.isEmpty_eq_false_iff.mpr Nat.toDigits_ne_nil
    have found : place? .postgres '$' ((toString number).toList ++ rest) =
        some (SqlDialect.postgres.placeholder number) := by
      show (if (List.takeWhile _ _).isEmpty = true then _ else _) = _
      rw [digits, present, if_neg Bool.false_ne_true, ← written, String.ofList_toList]
    rw [written, List.cons_append, places, if_neg (by decide), if_neg Bool.false_ne_true, found,
      quiet_toString]
    rfl

end Quiet

/-! ### Pieces numbered in order -/

/-- Whether pieces can stand behind a placeholder. -/
def Opens (dialect : SqlDialect) (pieces : List Fragment) : Prop :=
  ∀ count rest, Delimited dialect rest →
    Delimited dialect ((Fragment.render dialect.placeholder count pieces).toList ++ rest)

/-- **Whether the places of pieces are those of their values, in order**, wherever the pieces stand. -/
def Numbered (dialect : SqlDialect) (pieces : List Fragment) : Prop :=
  ∀ count rest, Delimited dialect rest →
    places dialect false ((Fragment.render dialect.placeholder count pieces).toList ++ rest) =
      (List.range' (count + 1) (Fragment.values pieces).length).map dialect.placeholder ++
        places dialect false rest

section Pieces

variable {dialect : SqlDialect} {sql : String} {pieces first second : List Fragment}

theorem delimited_nil : Delimited dialect [] := fun _ _ member => nomatch member

theorem delimited_cons {head : Char} (apart : head.isDigit = false) (rest : List Char) :
    Delimited dialect (head :: rest) := by
  rintro _ other member
  obtain rfl := Option.mem_some.mp member
  exact apart

theorem delimited_append {former latter : List Char} (one : Delimited dialect former)
    (other : Delimited dialect latter) : Delimited dialect (former ++ latter) := by
  cases former with
  | nil => exact other
  | cons head rest => exact one

theorem delimited_of_beginsApart {text : String} (begins : beginsApart text = true)
    (rest : List Char) : Delimited dialect (text.toList ++ rest) := by
  obtain ⟨head, found, apart⟩ := (Option.any_eq_true _ _).mp begins
  obtain ⟨others, written⟩ := List.head?_eq_some_iff.mp found
  rw [written]
  exact delimited_cons (by simpa using apart) _

theorem beginsApart_append {text : String} (begins : beginsApart text = true) (rest : String) :
    beginsApart (text ++ rest) = true := by
  obtain ⟨head, found, apart⟩ := (Option.any_eq_true _ _).mp begins
  refine (Option.any_eq_true _ _).mpr ⟨head, ?_, apart⟩
  rw [String.toList_append, List.head?_append, found, Option.some_or]

theorem delimited_placeholder (number : Nat) (rest : List Char) :
    Delimited dialect ((dialect.placeholder number).toList ++ rest) := by
  cases dialect with
  | sqlite => exact nofun
  | mySql => exact nofun
  | postgres =>
    rw [SqlDialect.placeholder, String.toList_append, List.append_assoc]
    exact delimited_cons (by decide) _

theorem opens_nil : Opens dialect [] := fun _ _ delimited => delimited

/-- Pieces begin as the text in front of them, unless it is empty. -/
theorem opens_text (delimited : Delimited dialect sql.toList) (opens : Opens dialect pieces) :
    Opens dialect (.text sql :: pieces) := by
  intro count rest after
  rw [Fragment.render, String.toList_append, List.append_assoc]
  exact delimited_append delimited (opens count rest after)

theorem opens_text_cons (begins : beginsApart sql = true) : Opens dialect (.text sql :: pieces) := by
  intro count rest _
  rw [Fragment.render, String.toList_append, List.append_assoc]
  exact delimited_of_beginsApart begins _

theorem opens_value (bound : Value) : Opens dialect (.value bound :: pieces) := by
  intro count rest _
  rw [Fragment.render, String.toList_append, List.append_assoc]
  exact delimited_placeholder _ _

theorem opens_append (one : Opens dialect first) (other : Opens dialect second) :
    Opens dialect (first ++ second) := by
  intro count rest delimited
  rw [Fragment.render_append, String.toList_append, List.append_assoc]
  exact one _ _ (other _ _ delimited)

theorem numbered_nil : Numbered dialect [] := fun _ _ _ => rfl

theorem Numbered.text (numbered : Numbered dialect pieces) (quiet : Quiet dialect sql) :
    Numbered dialect (.text sql :: pieces) := by
  intro count rest delimited
  rw [Fragment.render, String.toList_append, List.append_assoc, quiet]
  exact numbered count rest delimited

theorem Numbered.value (numbered : Numbered dialect pieces) (opens : Opens dialect pieces)
    (bound : Value) : Numbered dialect (.value bound :: pieces) := by
  intro count rest delimited
  rw [Fragment.render, String.toList_append, List.append_assoc,
    places_placeholder _ (opens _ _ delimited), numbered _ _ delimited, Fragment.values,
    List.length_cons, List.range'_succ, List.map_cons, List.cons_append]

/-- **Numbered pieces behind numbered pieces** go on counting. -/
theorem Numbered.append (former : Numbered dialect first) (latter : Numbered dialect second)
    (opens : Opens dialect second) : Numbered dialect (first ++ second) := by
  intro count rest delimited
  rw [Fragment.render_append, String.toList_append, List.append_assoc,
    former _ _ (opens _ _ delimited), latter _ _ delimited, ← List.append_assoc, ← List.map_append,
    Fragment.values_append, List.length_append, Nat.add_right_comm count, List.range'_append_1]

theorem numbered_text (quiet : Quiet dialect sql) : Numbered dialect [.text sql] :=
  numbered_nil.text quiet

/-- Values with a quiet text between neighbours are numbered. -/
theorem numbered_separated {separator : String} (quiet : Quiet dialect separator)
    (begins : beginsApart separator = true) (values : List Value) :
    Numbered dialect (Fragment.separated separator values) := by
  fun_induction Fragment.separated separator values with
  | case1 => exact numbered_nil
  | case2 only => exact numbered_nil.value opens_nil only
  | case3 first rest filled hypothesis =>
    exact (hypothesis.text quiet).value (opens_text_cons begins) first

/-- **The places of a statement** made of numbered pieces are those of its values, in order. -/
theorem places_statement (numbered : Numbered dialect pieces) :
    places dialect false (dialect.statement pieces).sql.toList =
      (List.range' 1 (dialect.statement pieces).bindings.length).map dialect.placeholder := by
  have whole := numbered 0 [] delimited_nil
  rw [List.append_nil, places, List.append_nil] at whole
  exact whole

end Pieces

end Polystore.Sql
